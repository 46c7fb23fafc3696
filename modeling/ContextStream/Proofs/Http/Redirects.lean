import ContextStream.Http.Exchange

/-!
# Following answers

A call is a chain of requests, each of them sent because of the answer to the one
before it. Answers of two statuses keep the method and the body of a request, and
answers of three others lose them for the rest of the chain.
-/

namespace ContextStream.Http

/-- Statuses that turn a request into one without a body. -/
def dropsBody (status : UInt16) : Bool :=
  status = 301 ∨ status = 302 ∨ status = 303

/-- Statuses that send a request elsewhere as it is. -/
def keepsBody (status : UInt16) : Bool :=
  status = 307 ∨ status = 308

/-- Only answers of five statuses are followed. The next request is one for content,
or has the method and the body of the request before it. -/
theorem Request.next?_cases {request next : Request} {response : Response}
    (follows : request.next? response = some next) :
    (dropsBody response.status = true ∧ next.method = .get ∧ next.body = none) ∨
      (keepsBody response.status = true ∧ next.method = request.method ∧
        next.body = request.body) := by
  simp only [Request.next?, Option.bind_eq_some_iff, Option.map_eq_some_iff] at follows
  obtain ⟨method, redirected, url, -, rfl⟩ := follows
  unfold redirectMethod? at redirected
  split at redirected
  · next dropped =>
      cases redirected
      have noKeep : ¬(response.status = 307 ∨ response.status = 308) := by
        rcases dropped with same | same | same <;> rw [same] <;> decide
      exact Or.inl ⟨by simpa [dropsBody] using dropped, rfl, by simp [noKeep]⟩
  · split at redirected
    · next kept =>
        cases redirected
        exact Or.inr ⟨by simpa [keepsBody] using kept, rfl, by simp [kept]⟩
    · cases redirected

/-! ## Chains -/

/-- The requests of a call behind earlier ones, from a first request to the answer that
is not followed. -/
inductive Chain (network : Network) :
    (earlier : List Request) → (first : Request) → (sent : List Request) →
      (final : Response) → Prop
  | last {earlier : List Request} {request : Request} {final : Response}
      (answered : network (earlier ++ [request]) = .ok final)
      (ends : request.next? final = none) : Chain network earlier request [request] final
  | hop {earlier sent : List Request} {request next : Request} {response final : Response}
      (answered : network (earlier ++ [request]) = .ok response)
      (follows : request.next? response = some next)
      (others : Chain network (earlier ++ [request]) next sent final) :
      Chain network earlier request (request :: sent) final

/-- An answer that is followed leaves the exchange to the next request. -/
theorem exchange_of_follows {network : Network} {earlier : List Request}
    {request next : Request} {response : Response} (asked : unasked? request.url = none)
    (reply : network (earlier ++ [request]) = .ok response)
    (follows : request.next? response = some next) (more : Nat) :
    exchange network (more + 1) earlier request =
      exchange network more (earlier ++ [request]) next := by
  rw [exchange]
  simp only [asked, reply, follows]

/-- An exchange that is answered got an answer to its first request, which is the final one
or is followed. -/
theorem exchange_cases {network : Network} {more : Nat} {earlier : List Request}
    {request : Request} {final : Response}
    (answered : (exchange network more earlier request).result = .ok final) :
    (network (earlier ++ [request]) = .ok final ∧ request.next? final = none ∧
        (exchange network more earlier request).requests = earlier ++ [request]) ∨
      ∃ fewer response next, more = fewer + 1 ∧
        network (earlier ++ [request]) = .ok response ∧ request.next? response = some next ∧
        exchange network more earlier request =
          exchange network fewer (earlier ++ [request]) next := by
  cases unasked : unasked? request.url with
  | some causes => simp [exchange, unasked] at answered
  | none =>
      cases reply : network (earlier ++ [request]) with
      | error causes => simp [exchange, unasked, reply] at answered
      | ok response =>
          cases follows : request.next? response with
          | none =>
              obtain rfl : response = final := by
                simpa [exchange, unasked, reply, follows] using answered
              exact Or.inl ⟨rfl, follows, by simp [exchange, unasked, reply, follows]⟩
          | some next =>
              cases more with
              | zero => simp [exchange, unasked, reply, follows] at answered
              | succ fewer =>
                  exact Or.inr ⟨fewer, response, next, rfl, rfl, follows,
                    exchange_of_follows unasked reply follows fewer⟩

/-- The requests of an exchange that is answered are a chain. -/
theorem chain_of_exchange {network : Network} {more : Nat} {earlier : List Request}
    {request : Request} {final : Response}
    (answered : (exchange network more earlier request).result = .ok final) :
    ∃ sent, (exchange network more earlier request).requests = earlier ++ sent ∧
      Chain network earlier request sent final := by
  induction more generalizing earlier request with
  | zero =>
      obtain ⟨reply, ends, requests⟩ | ⟨_, _, _, none, _⟩ := exchange_cases answered
      · exact ⟨[request], requests, .last reply ends⟩
      · cases none
  | succ more ih =>
      obtain ⟨reply, ends, requests⟩ | ⟨_, response, next, is, reply, follows, same⟩ :=
        exchange_cases answered
      · exact ⟨[request], requests, .last reply ends⟩
      · cases is
        rw [same] at answered ⊢
        obtain ⟨sent, requests, others⟩ := ih answered
        refine ⟨request :: sent, ?_, .hop reply follows others⟩
        rw [requests, List.append_assoc, List.singleton_append]

/-! ## Answers in a chain -/

/-- A request among those sent behind earlier ones got a response. -/
def Answered (network : Network) (earlier sent : List Request) (request : Request)
    (response : Response) : Prop :=
  ∃ front back, sent = front ++ request :: back ∧
    network (earlier ++ front ++ [request]) = .ok response

variable {network : Network} {earlier sent : List Request} {first request : Request}
  {response final : Response}

theorem answered_cons :
    Answered network earlier (first :: sent) request response ↔
      (request = first ∧ network (earlier ++ [first]) = .ok response) ∨
        Answered network (earlier ++ [first]) sent request response := by
  constructor
  · rintro ⟨front, back, split, answered⟩
    cases front with
    | nil =>
        cases split
        exact Or.inl ⟨rfl, by simpa using answered⟩
    | cons head front =>
        cases split
        exact Or.inr ⟨front, back, rfl, by simpa using answered⟩
  · rintro (⟨rfl, answered⟩ | ⟨front, back, rfl, answered⟩)
    · exact ⟨[], sent, rfl, by simpa using answered⟩
    · exact ⟨first :: front, back, rfl, by simpa using answered⟩

theorem answered_singleton :
    Answered network earlier [first] request response ↔
      request = first ∧ network (earlier ++ [first]) = .ok response := by
  rw [answered_cons]
  constructor
  · rintro (head | ⟨front, back, split, -⟩)
    · exact head
    · simp at split
  · exact Or.inl

/-- A chain that begins without a body never has a request with one. -/
theorem Chain.body_eq_none (chain : Chain network earlier first sent final)
    (bare : first.body = none) (sentMem : request ∈ sent) : request.body = none := by
  induction chain with
  | last answered ends =>
      rw [List.mem_singleton.mp sentMem]
      exact bare
  | hop answered follows others ih =>
      rcases List.mem_cons.mp sentMem with rfl | sentMem
      · exact bare
      · refine ih ?_ sentMem
        rcases Request.next?_cases follows with ⟨-, -, none⟩ | ⟨-, -, same⟩
        · exact none
        · rw [same, bare]

/-- In a chain without an answer that drops the body, every request has the method and
the body of the first one, and the last of them got the final answer. -/
theorem Chain.exists_answered (chain : Chain network earlier first sent final)
    (kept : ∀ request response, Answered network earlier sent request response →
      dropsBody response.status = false) :
    ∃ request, Answered network earlier sent request final ∧
      request.method = first.method ∧ request.body = first.body := by
  induction chain with
  | @last earlier request final answered ends =>
      exact ⟨request, answered_singleton.mpr ⟨rfl, answered⟩, rfl, rfl⟩
  | @hop earlier sent request next response final answered follows others ih =>
      obtain ⟨last, lastAnswered, method, body⟩ :=
        ih fun _ _ later => kept _ _ (answered_cons.mpr (Or.inr later))
      have here := kept _ _ (answered_cons.mpr (Or.inl ⟨rfl, answered⟩))
      refine ⟨last, answered_cons.mpr (Or.inr lastAnswered), ?_⟩
      rcases Request.next?_cases follows with ⟨dropped, -⟩ | ⟨-, sameMethod, sameBody⟩
      · simp [here] at dropped
      · exact ⟨method.trans sameMethod, body.trans sameBody⟩

/-- A request with a body that got an answer which is not followed got it behind
answers that keep the body only. -/
theorem Chain.dropsBody_eq_false (chain : Chain network earlier first sent final)
    (answered : Answered network earlier sent request response)
    (carries : request.body ≠ none) (keeps : keepsBody response.status = false)
    (drops : dropsBody response.status = false) {other : Request} {reply : Response}
    (otherAnswered : Answered network earlier sent other reply) :
    dropsBody reply.status = false := by
  induction chain with
  | last here ends =>
      obtain ⟨rfl, answered⟩ := answered_singleton.mp answered
      obtain ⟨-, otherAnswered⟩ := answered_singleton.mp otherAnswered
      cases answered.symm.trans otherAnswered
      exact drops
  | hop here follows others ih =>
      have unfollowed := Request.next?_cases follows
      rcases answered_cons.mp answered with ⟨rfl, now⟩ | later
      · cases now.symm.trans here
        simp [keeps, drops] at unfollowed
      · rcases unfollowed with ⟨-, -, bare⟩ | ⟨kept, -⟩
        · obtain ⟨front, back, split, -⟩ := later
          exact absurd (others.body_eq_none bare (by simp [split])) carries
        · rcases answered_cons.mp otherAnswered with ⟨-, now⟩ | otherLater
          · cases now.symm.trans here
            simp only [keepsBody, decide_eq_true_eq] at kept
            rcases kept with same | same <;> rw [same] <;> decide
          · exact ih later otherLater

end ContextStream.Http
