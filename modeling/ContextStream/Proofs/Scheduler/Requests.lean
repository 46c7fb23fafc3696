import ContextStream.Proofs.Application
import ContextStream.Proofs.Delivery.Requests
import ContextStream.Proofs.Scheduler.Tally

/-!
# One request for each cycle

A run whose publisher is the client of a hub sends the hub one request in each cycle, in
the order of the cycles, and nothing else; what becomes of a cycle is decided by the answer
to its request. The summary of the run counts these answers.
-/

namespace ContextStream.Scheduler

open Http Delivery Text

/-- The publisher of a world is the client of a hub, which knows the charsets of some labels,
and the requests of this client are remembered. -/
structure World.Posts {σ : Type} (world : World σ) (network : Network) (hub : Iri)
    (labels : Charset.Labels) (requests : σ → List Request) : Prop where
  tick : ∀ moment memory, requests (world.tick moment memory) = requests memory
  draw : ∀ memory, requests (world.draw memory).2.2 = requests memory
  outcome : ∀ memory payload, (world.deliver memory payload).1.outcome =
    (Delivery.deliver network hub payload (requests memory) labels).outcome
  deliver : ∀ memory payload, requests (world.deliver memory payload).2 =
    (Delivery.deliver network hub payload (requests memory) labels).requests

variable {labels : Charset.Labels}

/-- Nothing is sent before the publisher is called. -/
theorem World.Posts.prepared {σ : Type} {world : World σ} {network : Network} {hub : Iri}
    {requests : σ → List Request} (posts : world.Posts network hub labels requests)
    (moment : Nat) (memory : σ) : requests (world.prepared moment memory) = requests memory :=
  (posts.draw _).trans (posts.tick moment memory)

namespace Machine

variable {σ : Type} {world : World σ} {config : Config} {network : Network}
  {requests : σ → List Request} {memory : σ} {machine next : Machine σ}

/-- What the hub got since the first memory: a request for each update that the publisher
was given. Its answers decided what became of these, in front of what is still open. -/
structure Asked (network : Network) (hub : Iri) (labels : Charset.Labels)
    (requests : σ → List Request) (memory : σ) (sent : List Request) (pending : List Outcome)
    (machine : Machine σ) : Prop where
  remembered : requests machine.memory = requests memory ++ sent
  carried : List.Forall₂ (Carries hub) machine.payloads sent
  decided : List.Forall₂ (Decides labels) (answers network (requests memory) sent)
    (machine.outcomes ++ pending)

variable {hub : Iri} {sent : List Request} {pending : List Outcome}

/-- What comes back was open, and the books of the hub stay as they are. -/
theorem Asked.of_deals {back : List Outcome} {begun : Nat}
    (deals : Deals machine [] back begun next)
    (remembered : requests next.memory = requests machine.memory)
    (asked : Asked network hub labels requests memory sent (back ++ pending) machine) :
    Asked network hub labels requests memory sent pending next where
  remembered := remembered.trans asked.remembered
  carried := by
    rw [deals.payloads, List.append_nil]
    exact asked.carried
  decided := by
    rw [deals.outcomes, List.append_assoc]
    exact asked.decided

section Hub

variable (posts : world.Posts network hub labels requests) (web : hub.url.scheme = "http")
  (sendable : isSendable (credentials hub.url).2 = true) (stays : Stays network hub)

include posts web sendable stays

end Hub

/-- What the books of the hub say of a run as it is seen from outside. -/
theorem Asked.seen (asked : Asked network hub labels requests memory sent pending machine) :
    List.Forall₂ (Decides labels)
        ((answers network (requests memory) sent).take machine.outcomes.length)
        machine.outcomes ∧
      machine.outcomes.length + pending.length = sent.length := by
  refine ⟨List.forall₂_take_append _ _ _ asked.decided, ?_⟩
  rw [← List.length_append, ← asked.decided.length_eq, length_answers]

end Machine

end ContextStream.Scheduler
