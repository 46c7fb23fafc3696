import ContextStream.Proofs.Config
import ContextStream.Proofs.Scheduler.Dealings
import ContextStream.Proofs.Scheduler.Refusal

/-!
# The summary of a run

A summary counts what became of the deliveries of a run and tells the times of the last
one and of the last one that was taken. It is the tally of the calls of the publisher
and their outcomes: each call is counted once its outcome is known, and a run that ends
with a summary has counted them all.
-/

namespace ContextStream

namespace Outcome

/-- Whether the hub refused the update. -/
def isRejected : Outcome → Bool
  | .rejected _ _ => true
  | _ => false

/-- Whether there was no answer to the update. -/
def isTransportFailure : Outcome → Bool
  | .transportFailure _ => true
  | _ => false

end Outcome

namespace Scheduler

/-! ## Tallies -/

/-- The summary after some deliveries. -/
def tally (history : List (Payload × Outcome)) : Summary :=
  history.foldl (fun summary delivery => summary.record delivery.2 delivery.1.update.timestamp) {}

theorem tally_concat (history : List (Payload × Outcome)) (payload : Payload) (outcome : Outcome) :
    tally (history ++ [(payload, outcome)]) =
      (tally history).record outcome payload.update.timestamp := by
  simp [tally]

/-- The counters of a tally, which run over at sixty-four bits. -/
structure Counts (history : List (Payload × Outcome)) (summary : Summary) : Prop where
  cycles : summary.cycles = UInt64.ofNat history.length
  delivered : summary.delivered = UInt64.ofNat (history.countP (·.2.isDelivered))
  rejected : summary.rejected = UInt64.ofNat (history.countP (·.2.isRejected))
  transportFailures :
    summary.transportFailures = UInt64.ofNat (history.countP (·.2.isTransportFailure))

theorem counts_tally (history : List (Payload × Outcome)) : Counts history (tally history) := by
  induction history using List.reverseRecOn with
  | nil => constructor <;> rfl
  | append_singleton history delivery ih =>
      obtain ⟨payload, outcome⟩ := delivery
      obtain ⟨cycles, delivered, rejected, lost⟩ := ih
      rw [tally_concat]
      cases outcome <;> constructor <;>
        simp [Summary.record, Outcome.isDelivered, Outcome.isRejected, Outcome.isTransportFailure,
          cycles, delivered, rejected, lost, UInt64.ofNat_add]

theorem lastTimestamp_tally (history : List (Payload × Outcome)) :
    (tally history).lastTimestamp = history.getLast?.map (·.1.update.timestamp) := by
  cases history using List.reverseRecOn with
  | nil => rfl
  | append_singleton history delivery =>
      obtain ⟨payload, outcome⟩ := delivery
      rw [tally_concat, List.getLast?_concat]
      cases outcome <;> rfl

theorem lastDelivered_tally (history : List (Payload × Outcome)) :
    (tally history).lastDelivered =
      (history.filter (·.2.isDelivered)).getLast?.map (·.1.update.timestamp) := by
  induction history using List.reverseRecOn with
  | nil => rfl
  | append_singleton history delivery ih =>
      obtain ⟨payload, outcome⟩ := delivery
      rw [tally_concat]
      cases outcome <;> simp [Summary.record, Outcome.isDelivered, ih]

/-- What a summary says of the deliveries it is about. -/
structure Tallies (history : List (Payload × Outcome)) (summary : Summary) : Prop where
  cycles : summary.cycles.toNat = history.length
  delivered : summary.delivered.toNat = history.countP (·.2.isDelivered)
  rejected : summary.rejected.toNat = history.countP (·.2.isRejected)
  transportFailures :
    summary.transportFailures.toNat = history.countP (·.2.isTransportFailure)
  lastTimestamp : summary.lastTimestamp = history.getLast?.map (·.1.update.timestamp)
  lastDelivered : summary.lastDelivered =
    (history.filter (·.2.isDelivered)).getLast?.map (·.1.update.timestamp)

/-- The tally says what it should, as long as its counters do not run over. -/
theorem tallies_tally (history : List (Payload × Outcome)) (few : history.length < 2 ^ 64) :
    Tallies history (tally history) := by
  obtain ⟨cycles, delivered, rejected, lost⟩ := counts_tally history
  have counted (count : Nat) (le : count ≤ history.length) :
      (UInt64.ofNat count).toNat = count :=
    UInt64.toNat_ofNat_of_lt' (Nat.lt_of_le_of_lt le few)
  refine ⟨?_, ?_, ?_, ?_, lastTimestamp_tally history, lastDelivered_tally history⟩
  · rw [cycles, counted _ (Nat.le_refl _)]
  · rw [delivered, counted _ List.countP_le_length]
  · rw [rejected, counted _ List.countP_le_length]
  · rw [lost, counted _ List.countP_le_length]

/-- Every delivery was taken, refused or lost. -/
theorem countP_outcomes (history : List (Payload × Outcome)) :
    history.countP (·.2.isDelivered) + history.countP (·.2.isRejected) +
      history.countP (·.2.isTransportFailure) = history.length := by
  induction history with
  | nil => rfl
  | cons delivery history ih =>
      obtain ⟨payload, outcome⟩ := delivery
      rw [List.length_cons, ← ih]
      cases outcome <;>
        simp [Outcome.isDelivered, Outcome.isRejected, Outcome.isTransportFailure] <;> omega

/-- The attempts are the cycles, and adding them up does not run over. -/
theorem Tallies.attempts {history : List (Payload × Outcome)} {summary : Summary}
    (tallies : Tallies history summary) :
    summary.delivered.toNat + summary.rejected.toNat + summary.transportFailures.toNat =
        summary.cycles.toNat ∧
      summary.attempts = summary.cycles := by
  have sum : summary.delivered.toNat + summary.rejected.toNat +
      summary.transportFailures.toNat = summary.cycles.toNat := by
    rw [tallies.delivered, tallies.rejected, tallies.transportFailures, tallies.cycles,
      countP_outcomes]
  refine ⟨sum, UInt64.toNat_inj.mp ?_⟩
  have bound := summary.cycles.toNat_lt
  rw [Summary.attempts, UInt64.toNat_add, UInt64.toNat_add]
  omega

/-! ## Ledgers -/

namespace Machine

variable {σ : Type} {world : World σ} {config : Config} {machine next : Machine σ} {memory : σ}

/-- What happened since the first memory: deliveries with their outcomes, and behind
them what is being delivered. Both are in any record that the publisher keeps. -/
structure Ledger (world : World σ) (memory : σ) (history pending : List (Payload × Outcome))
    (machine : Machine σ) : Prop where
  payloads : machine.payloads = (history ++ pending).map Prod.fst
  outcomes : machine.outcomes = history.map Prod.snd
  recorded : ∀ record, world.Records (fun payload reply => (payload, reply.outcome)) record →
    record machine.memory = record memory ++ (history ++ pending)
  summary : machine.summary = tally history

/-- The books of a machine: while it delivers, one call of the publisher is open. A run
that ends with a summary ends with the one that it kept. -/
inductive Accounts (world : World σ) (memory : σ) (machine : Machine σ) : Prop
  | settled (history : List (Payload × Outcome))
      (rests : ∀ due reply time, machine.activity ≠ .delivering due reply time)
      (ended : ∀ summary, machine.result? = some (.ok summary) → summary = machine.summary)
      (ledger : Ledger world memory history [] machine)
  | pending {due : Nat} {reply : Reply} {time : Int64} (history : List (Payload × Outcome))
      (payload : Payload) (activity : machine.activity = .delivering due reply time)
      (state : machine.state = .delivering) (is : payload.update.timestamp = time)
      (ledger : Ledger world memory history [(payload, reply.outcome)] machine)

variable {history pending : List (Payload × Outcome)}

/-- A ledger stays as it is while nothing is given to the publisher and nothing comes back. -/
theorem Ledger.of_deals (ledger : Ledger world memory history pending machine) {begun : Nat}
    (deals : Deals machine [] [] begun next) (summary : next.summary = machine.summary)
    (remembered : ∀ record, world.Records (fun payload reply => (payload, reply.outcome)) record →
      record next.memory = record machine.memory) :
    Ledger world memory history pending next where
  payloads := by rw [deals.payloads, List.append_nil, ledger.payloads]
  outcomes := by rw [deals.outcomes, List.append_nil, ledger.outcomes]
  recorded record records := by rw [remembered record records, ledger.recorded record records]
  summary := summary.trans ledger.summary

/-- Every dealing with the publisher keeps the books. -/
theorem accounts_of_dealing (accounts : Accounts world memory machine)
    (dealing : Dealing world machine next) : Accounts world memory next := by
  cases accounts with
  | settled history rests ended ledger =>
      cases dealing with
      | aside deals activity state remembered summary =>
          refine .settled history (by rwa [activity]) ?_
            (ledger.of_deals deals summary fun record _ => by rw [remembered])
          rw [summary, result?, activity]
          exact ended
      | ended between deals activity remembered summary =>
          exact .settled history (by simp [activity]) (by simp [result?, activity])
            (ledger.of_deals deals summary fun record _ => by rw [remembered])
      | @given payload reply due between deals answer activity state summary =>
          refine .pending history payload activity state rfl ⟨?_, ?_, fun record records => ?_,
            summary.trans ledger.summary⟩
          · rw [deals.payloads, ledger.payloads, List.append_nil, List.map_append]
            rfl
          · rw [deals.outcomes, ledger.outcomes, List.append_nil]
          · have recorded := records.deliver (world.prepared next.moment machine.memory) payload
            rw [answer, records.prepared, ledger.recorded record records, List.append_nil,
              List.append_assoc] at recorded
            exact recorded
      | failed between deals activity remembered summary =>
          refine .settled history (by simp [activity]) (by simp [result?, activity])
            (ledger.of_deals deals summary fun record records => ?_)
          rw [remembered, records.prepared]
      | done delivers => exact absurd delivers (rests _ _ _)
  | @pending due reply time history payload delivers state is ledger =>
      have busy := not_between_of_delivering delivers
      cases dealing with
      | aside deals activity state' remembered summary =>
          exact .pending history payload (activity.trans delivers) (state'.trans state) is
            (ledger.of_deals deals summary fun record _ => by rw [remembered])
      | ended between => exact absurd between busy
      | given between => exact absurd between busy
      | failed between => exact absurd between busy
      | done delivers' deals activity remembered summary =>
          obtain ⟨rfl, rfl, rfl⟩ := Activity.delivering.inj (delivers.symm.trans delivers')
          have counted : Ledger world memory (history ++ [(payload, reply.outcome)]) [] next := by
            refine ⟨?_, ?_, fun record records => ?_, ?_⟩
            · rw [deals.payloads, List.append_nil, List.append_nil, ledger.payloads]
            · rw [deals.outcomes, ledger.outcomes, List.map_append]
              rfl
            · rw [remembered, List.append_nil, ledger.recorded record records]
            · rw [summary, tally_concat, ← ledger.summary, is]
          rcases activity with ⟨later, waits⟩ | ended
          · exact .settled _ (by simp [waits]) (by simp [result?, waits]) counted
          · exact .settled _ (by simp [ended]) (by simp [result?, ended]) counted

theorem accounts_run (world : World σ) (config : Config) (memory : σ)
    (agenda : List (Nat × Call)) (limit : Nat) :
    Accounts world memory (({ memory, agenda } : Machine σ).run world config limit) := by
  refine run_induction_of_dealing _ accounts_of_dealing
    (.settled [] ?_ ?_ ⟨rfl, rfl, fun record _ => ?_, rfl⟩) limit
  · rintro due reply time ⟨⟩
  · rintro summary ⟨⟩
  · rw [List.append_nil, List.append_nil]

/-- A run that ends with a summary ends with the tally of its calls of the publisher:
their number, how many of them had which outcome, and the times of the last one and of
the last one that was taken. The calls and their outcomes are those that the events
tell, and those of any record that the publisher keeps. Calls for another run are
without influence: without them the run gives the same summary of the same
deliveries. -/
theorem summary_of_run (world : World σ) (config : Config) (memory : σ)
    (agenda : List (Nat × Call)) (limit : Nat) (final : Machine σ)
    (ran : ({ memory, agenda } : Machine σ).run world config limit = final) (summary : Summary)
    (ended : final.result? = some (.ok summary)) (few : final.payloads.length < 2 ^ 64) :
    (∃ history, final.payloads = history.map Prod.fst ∧ final.outcomes = history.map Prod.snd ∧
      (∀ record, world.Records (fun payload reply => (payload, reply.outcome)) record →
        record final.memory = record memory ++ history) ∧
      Tallies history summary ∧
      summary.delivered.toNat + summary.rejected.toNat + summary.transportFailures.toNat =
        summary.cycles.toNat ∧
      summary.attempts = summary.cycles) ∧
    (agenda.Pairwise (fun entry later => entry.1 ≤ later.1) →
      ∃ fewer,
        let alone := ({ memory, agenda := onlyFirstRun agenda } : Machine σ).run world config fewer
        alone.result? = some (.ok summary) ∧ alone.payloads = final.payloads ∧
          alone.outcomes = final.outcomes) := by
  subst ran
  constructor
  · cases accounts_run world config memory agenda limit with
    | settled history rests kept ledger =>
        have tallies : Tallies history summary := by
          rw [kept summary ended, ledger.summary]
          apply tallies_tally
          rwa [ledger.payloads, List.append_nil, List.length_map] at few
        refine ⟨history, ?_, ledger.outcomes, fun record records => ?_, tallies, tallies.attempts⟩
        · rw [ledger.payloads, List.append_nil]
        · rw [ledger.recorded record records, List.append_nil]
    | pending history payload activity => simp [result?, activity] at ended
  · intro sorted
    obtain ⟨fewer, mirrors⟩ := exists_run_onlyFirstRun world config memory sorted limit
    refine ⟨fewer, mirrors.result?.trans ended, ?_, ?_⟩
    · rw [payloads, mirrors.view _ fun _ => rfl, payloads]
    · rw [outcomes, mirrors.view _ fun _ => rfl, outcomes]

/-- A world whose hub takes the first update, refuses the second one and is gone then. -/
def fadingWorld : World Nat where
  clock moment _ := Int64.ofNat moment
  draw count := (⟨1⟩, ⟨2⟩, count)
  deliver count _ :=
    ({ delay := 2000
       outcome :=
        match count with
        | 0 => .delivered 200
        | 1 => .rejected 503 ""
        | _ => .transportFailure "gone" },
      count + 1)

/-- A run in it: another run is refused, and the third delivery is asked to be the last. -/
def fadingRun : Machine Nat :=
  ({ memory := 0, agenda := [(0, .run), (3000, .run), (15000, .cancel)] } : Machine Nat).run
    fadingWorld Config.exampleConfig 9

theorem summary_of_fadingRun :
    ∃ summary history, fadingRun.result? = some (.ok summary) ∧
      fadingRun.payloads = history.map Prod.fst ∧ history.length = 3 ∧ Tallies history summary ∧
      summary.lastTimestamp = some 14000 ∧ summary.lastDelivered = some 0 := by
  have three : fadingRun.payloads.length = 3 := by decide +kernel
  have given : fadingRun.result?.bind Except.toOption =
      some { cycles := 3, delivered := 1, rejected := 1, transportFailures := 1,
             lastTimestamp := some 14000, lastDelivered := some 0 } := by
    decide +kernel
  obtain ⟨result, ended, is⟩ := Option.bind_eq_some_iff.mp given
  cases result with
  | error error => cases is
  | ok summary =>
      obtain ⟨⟨history, payloads, -, -, tallies, -⟩, -⟩ :=
        summary_of_run fadingWorld Config.exampleConfig 0 _ 9 fadingRun rfl summary ended
          (by rw [three]; decide)
      obtain rfl := Option.some.inj is
      refine ⟨_, history, ended, payloads, ?_, tallies, rfl, rfl⟩
      rw [← List.length_map, ← payloads, three]

end Machine

end Scheduler

end ContextStream
