import ContextStream.Delivery.Client
import ContextStream.Proofs.Http.Redirects

/-!
# What a delivered update says about the hub

An update counts as delivered when the last answer of the call has one of two
statuses. That answer need not belong to the request that carried the update: answers
on the way may have turned it into a request for content.
-/

namespace ContextStream.Delivery

open Http

variable {network : Network} {hub : Iri} {payload : Payload} {earlier : List Request}
  {labels : Text.Charset.Labels} {status : UInt16}

/-- A call with an answer is a chain that begins with the request for the payload. -/
theorem chain_of_post {final : Response}
    (answered : (post network hub payload earlier).result = .ok final) :
    ∃ sent, (post network hub payload earlier).requests = earlier ++ sent ∧
      Chain network earlier (request hub payload) sent final := by
  simp only [post] at answered ⊢
  split at answered
  · cases answered
  · next allowed =>
      rw [if_neg allowed]
      split at answered
      · cases answered
      · next sendable =>
          rw [if_neg sendable]
          exact chain_of_exchange answered

/-- Only an answer that takes the update makes it delivered. -/
theorem outcome_eq_delivered {result : Except Failure Response}
    (delivered : outcome labels result = .delivered status) :
    ∃ final, result = .ok final ∧ final.status = status ∧ (status = 200 ∨ status = 204) := by
  cases result with
  | error failure => cases delivered
  | ok final =>
      simp only [outcome, Outcome.ofStatus] at delivered
      split at delivered
      · next accepted =>
          cases delivered
          exact ⟨final, rfl, rfl, accepted⟩
      · cases delivered

/-- The hub took the update: a request of the call that carried it was answered with
a status. -/
def Taken (network : Network) (payload : Payload) (earlier sent : List Request)
    (status : UInt16) : Prop :=
  ∃ request response, Answered network earlier sent request response ∧
    request.method = .post ∧ request.body = some payload.json ∧ response.status = status

/-- An update that counts as delivered was taken by the hub exactly when no answer of
the call dropped its body. -/
theorem taken_iff_of_delivered
    (delivered : (deliver network hub payload earlier labels).outcome = .delivered status) :
    (status = 200 ∨ status = 204) ∧
      ∃ sent, (deliver network hub payload earlier labels).requests = earlier ++ sent ∧
        (Taken network payload earlier sent status ↔
          ∀ request response, Answered network earlier sent request response →
            dropsBody response.status = false) := by
  obtain ⟨final, answered, rfl, accepted⟩ := outcome_eq_delivered delivered
  obtain ⟨sent, requests, chain⟩ := chain_of_post answered
  refine ⟨accepted, sent, requests, ?_⟩
  constructor
  · rintro ⟨carrier, response, carrierAnswered, -, body, same⟩ request reply replied
    have keeps : keepsBody response.status = false := by
      rcases accepted with is | is <;> rw [same, is] <;> decide
    have drops : dropsBody response.status = false := by
      rcases accepted with is | is <;> rw [same, is] <;> decide
    exact chain.dropsBody_eq_false carrierAnswered (by simp [body]) keeps drops replied
  · intro kept
    obtain ⟨carrier, carrierAnswered, method, body⟩ := chain.exists_answered kept
    exact ⟨carrier, final, carrierAnswered, method, body, rfl⟩

/-! ## A hub that has moved -/

/-- A hub that sends the first request elsewhere, and takes what comes there. -/
def movedHub (status : UInt16) : Network := fun requests =>
  if requests.length = 1 then .ok ⟨status, some "/next", none, some []⟩
  else .ok ⟨200, none, none, some []⟩

/-- The place that the hub has moved from. -/
def oldHub : Iri :=
  ⟨"http://old.test/push", by decide +kernel⟩

/-- An update without triples. -/
def emptyUpdate : Payload :=
  { mode := Payload.updateMode, stream := "http://stream.test/s1",
    update := { document := "", timestamp := 0 } }

/-- The update reaches a hub that moved for a while. -/
theorem taken_iff_of_temporarilyMoved :
    (deliver (movedHub 307) oldHub emptyUpdate []).outcome = .delivered 200 ∧
      ∃ sent, (deliver (movedHub 307) oldHub emptyUpdate []).requests = [] ++ sent ∧
        (Taken (movedHub 307) emptyUpdate [] sent 200 ↔
          ∀ request response, Answered (movedHub 307) [] sent request response →
            dropsBody response.status = false) := by
  have delivered : (deliver (movedHub 307) oldHub emptyUpdate []).outcome =
      .delivered 200 := by
    decide +kernel
  exact ⟨delivered, (taken_iff_of_delivered delivered).2⟩

/-- The update is lost at a hub that was found elsewhere, and counts as delivered. -/
theorem delivered_not_taken_of_found :
    (deliver (movedHub 302) oldHub emptyUpdate []).outcome = .delivered 200 ∧
      ¬Taken (movedHub 302) emptyUpdate []
        (deliver (movedHub 302) oldHub emptyUpdate []).requests 200 := by
  have methods : (deliver (movedHub 302) oldHub emptyUpdate []).requests.map (·.method) =
      [.post, .get] := by
    decide +kernel
  refine ⟨by decide +kernel, ?_⟩
  rintro ⟨carrier, response, ⟨front, back, split, answered⟩, posted, -, taken⟩
  rw [split, List.map_append, List.map_cons, posted] at methods
  cases front with
  | nil =>
      -- The first request was sent elsewhere.
      cases answered
      exact absurd taken (by decide)
  | cons first front =>
      -- The second one is no post, and there is no third one.
      cases front <;> simp at methods

end ContextStream.Delivery
