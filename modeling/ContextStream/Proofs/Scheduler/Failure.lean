import ContextStream.Proofs.Scheduler.Steps

/-!
# Runs that fail

A run fails in its first cycle or never. What a run of a domain type preserves is that
its memory was reached by whole cycles and that it ends only because it was asked to; a
run of the marker type is over before the publisher is called, and stays so.
-/

namespace ContextStream.Scheduler

/-- What a world may remember between two cycles. -/
inductive World.Reaches {σ : Type} (world : World σ) (first : σ) : σ → Prop
  | first : Reaches world first first
  | cycle {memory : σ} (reached : Reaches world first memory) (moment : Nat)
      (payload : Payload) :
      Reaches world first (world.deliver (world.prepared moment memory) payload).2

/-- The two identifiers that are drawn in a cycle differ, at whatever moment it begins. -/
def World.DrawsApart {σ : Type} (world : World σ) (first : σ) : Prop :=
  ∀ memory, world.Reaches first memory → ∀ moment,
    (world.draw (world.tick moment memory)).1 ≠ (world.draw (world.tick moment memory)).2.1

namespace Machine

variable {σ : Type} {world : World σ} {config : Config} {first : σ} {machine next : Machine σ}

/-! ## Runs that do not fail -/

/-- The memory was reached by whole cycles, and if the run has ended, it was asked to. -/
structure Healthy (world : World σ) (first : σ) (machine : Machine σ) : Prop where
  memory : world.Reaches first machine.memory
  ended : ∀ result, machine.result? = some result →
    result = .ok machine.summary ∧ machine.cancelled = true

theorem Healthy.note (healthy : Healthy world first machine) (event : Event) :
    Healthy world first (machine.note event) :=
  ⟨healthy.memory, healthy.ended⟩

theorem healthy_finish (reached : world.Reaches first machine.memory)
    (asked : machine.cancelled = true) : Healthy world first machine.finish := by
  refine ⟨reached, ?_⟩
  rintro result ⟨⟩
  exact ⟨rfl, asked⟩

section Domain

variable (domain : config.assertionType ≠ Vocabulary.binaryAssertion)
  (fresh : world.DrawsApart first)

include domain fresh

theorem healthy_cycle (reached : world.Reaches first machine.memory) :
    Healthy world first (machine.cycle world config) := by
  have published := publishes_cycle domain (fresh machine.memory reached machine.moment)
  constructor
  · rw [published.memory]
    exact reached.cycle _ _
  · intro result ended
    simp [result?, published.activity] at ended

theorem healthy_proceed (reached : world.Reaches first machine.memory) :
    Healthy world first (machine.proceed world config) := by
  unfold proceed
  by_cases asked : machine.cancelled = true
  · rw [if_pos asked]
    exact healthy_finish reached asked
  · rw [if_neg asked]
    exact healthy_cycle domain fresh reached

omit domain fresh in
theorem healthy_race (reached : world.Reaches first machine.memory) (due : Nat) :
    Healthy world first (machine.race world due) := by
  unfold race
  dsimp only
  split
  · next ends => exact healthy_finish reached ends.1
  · exact ⟨reached, by rintro result ⟨⟩⟩

omit domain fresh in
theorem healthy_settle (reached : world.Reaches first machine.memory) (reply : Reply)
    (time : Int64) : Healthy world first (machine.settle world config reply time) := by
  rw [settle_eq]
  exact healthy_race (by exact reached) _

theorem healthy_start (healthy : Healthy world first machine) :
    Healthy world first (machine.start world config) := by
  unfold start
  split
  · exact healthy_proceed domain fresh healthy.memory
  · exact healthy.note _

omit domain fresh in
theorem healthy_cancel (healthy : Healthy world first machine) :
    Healthy world first (machine.cancel world) := by
  unfold cancel
  dsimp only
  split
  · exact healthy_race (by exact healthy.memory) _
  · exact ⟨healthy.memory, fun result ended => ⟨(healthy.ended result ended).1, rfl⟩⟩

theorem healthy_call (healthy : Healthy world first machine) (doing : Call) :
    Healthy world first (machine.call world config doing) := by
  cases doing with
  | run => exact healthy_start domain fresh healthy
  | cancel => exact healthy_cancel healthy
  | observe => exact healthy.note _

theorem healthy_resume (healthy : Healthy world first machine) :
    Healthy world first (machine.resume world config) := by
  unfold resume
  split
  · exact healthy_settle (by exact healthy.memory) _ _
  · exact healthy_proceed domain fresh healthy.memory
  · exact healthy
  · exact healthy

/-- A step keeps a run of a domain type from failing. -/
theorem healthy_step (healthy : Healthy world first machine)
    (stepped : machine.step? world config = some next) : Healthy world first next := by
  rcases step?_cases stepped with ⟨due, -, -, rfl⟩ | ⟨moment, doing, agenda, -, -, rfl⟩
  · exact healthy_resume domain fresh healthy
  · have moved : Healthy world first { machine with moment, agenda } :=
      ⟨healthy.memory, healthy.ended⟩
    exact healthy_call domain fresh moved doing

/-- A run of a domain type never fails. -/
theorem healthy_run (healthy : Healthy world first machine) (limit : Nat) :
    Healthy world first (machine.run world config limit) := by
  induction limit generalizing machine with
  | zero => exact healthy
  | succ limit ih =>
      unfold run
      split
      · next stepped => exact ih (healthy_step domain fresh healthy stepped)
      · exact healthy

theorem healthy_runToEnd (healthy : Healthy world first machine) (limit : Nat) :
    Healthy world first (machine.runToEnd world config limit) := by
  induction limit generalizing machine with
  | zero => exact healthy
  | succ limit ih =>
      unfold runToEnd
      split
      · next stepped => exact ih (healthy_step domain fresh healthy stepped)
      · exact healthy

end Domain

/-! ## Runs that have ended -/

/-- The payloads that the publisher was given, the last one first. -/
def published (machine : Machine σ) : List Payload :=
  machine.trace.filterMap fun entry =>
    match entry.2 with
    | .delivering payload => some payload
    | _ => none

/-- Of a run that has ended, only the notes change and the requests to end it. -/
structure Rests (machine next : Machine σ) : Prop where
  state : next.state = machine.state
  activity : next.activity = machine.activity
  summary : next.summary = machine.summary
  memory : next.memory = machine.memory
  published : next.published = machine.published
  cancelled : machine.cancelled = true → next.cancelled = true

theorem Rests.refl (machine : Machine σ) : Rests machine machine :=
  ⟨rfl, rfl, rfl, rfl, rfl, id⟩

theorem Rests.trans {middle : Machine σ} (front : Rests machine middle)
    (back : Rests middle next) : Rests machine next where
  state := back.state.trans front.state
  activity := back.activity.trans front.activity
  summary := back.summary.trans front.summary
  memory := back.memory.trans front.memory
  published := back.published.trans front.published
  cancelled := back.cancelled ∘ front.cancelled

variable {result : Except Error Summary}

theorem rests_call (ended : machine.activity = .ended result) (begun : machine.state ≠ .idle)
    (doing : Call) : Rests machine (machine.call world config doing) := by
  cases doing with
  | run =>
      rw [call, start, if_neg begun]
      exact ⟨rfl, rfl, rfl, rfl, rfl, id⟩
  | cancel =>
      rw [call, cancel_of_uncut (by simp [ended])]
      exact ⟨rfl, rfl, rfl, rfl, rfl, fun _ => rfl⟩
  | observe => exact ⟨rfl, rfl, rfl, rfl, rfl, id⟩

theorem rests_step (ended : machine.activity = .ended result) (begun : machine.state ≠ .idle)
    (stepped : machine.step? world config = some next) : Rests machine next := by
  rcases step?_cases stepped with ⟨due, waits, -, -⟩ | ⟨moment, doing, agenda, -, -, rfl⟩
  · simp [due?, ended] at waits
  · have moved : Rests machine { machine with moment, agenda } := ⟨rfl, rfl, rfl, rfl, rfl, id⟩
    exact moved.trans (rests_call (by exact ended) (by exact begun) doing)

/-- A run that has ended stays as it is. -/
theorem rests_run (world : World σ) (config : Config)
    (ended : machine.activity = .ended result) (begun : machine.state ≠ .idle) (limit : Nat) :
    Rests machine (machine.run world config limit) := by
  induction limit generalizing machine with
  | zero => exact .refl machine
  | succ limit ih =>
      unfold run
      split
      · next stepped =>
          have first := rests_step ended begun stepped
          exact first.trans (ih (first.activity.trans ended) (first.state ▸ begun))
      · exact .refl machine

/-! ## Beginnings -/

/-- A run that is asked to end before it begins does nothing. -/
theorem start_of_cancelled (world : World σ) (config : Config) (idle : machine.state = .idle)
    (asked : machine.cancelled = true) :
    (machine.start world config).activity = .ended (.ok machine.summary) ∧
      (machine.start world config).state = .stopped ∧
      (machine.start world config).summary = machine.summary ∧
      (machine.start world config).cancelled = true := by
  rw [start_eq_finish idle asked]
  exact ⟨rfl, rfl, rfl, asked⟩

/-- A run of the marker type fails before anything is published. -/
theorem start_of_marker (world : World σ) (idle : machine.state = .idle)
    (unasked : machine.cancelled = false)
    (marker : config.assertionType = Vocabulary.binaryAssertion) :
    (∃ misshape, (machine.start world config).activity =
        .ended (.error (.malformedGraph misshape))) ∧
      (machine.start world config).state = .stopped ∧
      (machine.start world config).summary = machine.summary ∧
      (machine.start world config).memory = world.prepared machine.moment machine.memory ∧
      (machine.start world config).published = machine.published := by
  have failed : Fails world ((machine.enter .running).note .started)
      (((machine.enter .running).note .started).cycle world config) :=
    fails_cycle marker
  rw [start_eq_cycle idle unasked]
  refine ⟨failed.activity, failed.state, failed.summary, failed.memory, ?_⟩
  obtain ⟨misshape, trace⟩ := failed.trace
  unfold published
  rw [trace]
  rfl

variable {final : Machine σ} {limit : Nat}

/-- A run of the marker type has failed at any time after its beginning. -/
theorem run_of_marker (idle : machine.state = .idle) (unasked : machine.cancelled = false)
    (marker : config.assertionType = Vocabulary.binaryAssertion)
    (ran : (machine.start world config).run world config limit = final) :
    (∃ misshape, final.result? = some (.error (.malformedGraph misshape))) ∧
      final.state = .stopped ∧ final.summary = machine.summary ∧
      final.memory = world.prepared machine.moment machine.memory ∧
      final.published = machine.published := by
  subst ran
  obtain ⟨⟨misshape, failed⟩, stopped, summary, memory, published⟩ :=
    start_of_marker world idle unasked marker
  have rests := rests_run world config failed (by simp [stopped]) limit
  refine ⟨⟨misshape, ?_⟩, rests.state.trans stopped, rests.summary.trans summary,
    rests.memory.trans memory, rests.published.trans published⟩
  simp [result?, rests.activity, failed]

/-- Any other run ends as it was asked to, if it ends. -/
theorem run_of_domain_or_cancelled (idle : machine.state = .idle)
    (waits : machine.activity = .idle) (fresh : world.DrawsApart machine.memory)
    (other : config.assertionType ≠ Vocabulary.binaryAssertion ∨ machine.cancelled = true)
    (ran : (machine.start world config).run world config limit = final)
    {result : Except Error Summary} (ended : final.result? = some result) :
    result = .ok final.summary ∧ final.cancelled = true := by
  subst ran
  rcases other with domain | asked
  · have healthy : Healthy world machine.memory machine := by
      refine ⟨.first, fun result ended => ?_⟩
      simp [result?, waits] at ended
    exact (healthy_run domain fresh (healthy_start domain fresh healthy) limit).ended result ended
  · obtain ⟨finished, stopped, summary, still⟩ :=
      start_of_cancelled world config idle asked
    have rests := rests_run world config finished (by simp [stopped]) limit
    simp only [result?, rests.activity, finished, Option.some.injEq] at ended
    rw [← ended, rests.summary, summary]
    exact ⟨rfl, rests.cancelled still⟩

/-- How a run from an idle machine may have ended when a final machine is reached. -/
structure Ends (world : World σ) (config : Config) (machine final : Machine σ) : Prop where
  /-- It fails exactly when it begins with the marker type and was not asked to end. -/
  fails_iff : (∃ error, final.result? = some (.error error)) ↔
    config.assertionType = Vocabulary.binaryAssertion ∧ machine.cancelled = false
  /-- A failure comes in front of the first call of the publisher and stops the run. -/
  failed : ∀ error, final.result? = some (.error error) →
    (∃ misshape, error = .malformedGraph misshape) ∧ final.state = .stopped ∧
      final.published = machine.published ∧
      final.memory = world.prepared machine.moment machine.memory ∧
      final.summary = machine.summary
  /-- Any other end was asked for, and gives the summary of all deliveries. -/
  finished : ∀ summary, final.result? = some (.ok summary) →
    summary = final.summary ∧ final.cancelled = true

theorem ends_of_run (idle : machine.state = .idle) (waits : machine.activity = .idle)
    (fresh : world.DrawsApart machine.memory)
    (ran : (machine.start world config).run world config limit = final) :
    Ends world config machine final := by
  by_cases early : config.assertionType = Vocabulary.binaryAssertion ∧ machine.cancelled = false
  · obtain ⟨⟨misshape, failed⟩, state, summary, memory, published⟩ :=
      run_of_marker idle early.2 early.1 ran
    constructor
    · exact ⟨fun _ => early, fun _ => ⟨_, failed⟩⟩
    · intro error ended
      rw [failed] at ended
      cases ended
      exact ⟨⟨misshape, rfl⟩, state, published, memory, summary⟩
    · intro summary ended
      rw [failed] at ended
      cases ended
  · have other : config.assertionType ≠ Vocabulary.binaryAssertion ∨ machine.cancelled = true := by
      rcases Classical.not_and_iff_not_or_not.mp early with domain | asked
      · exact Or.inl domain
      · exact Or.inr (by simpa using asked)
    have ends := fun result (ended : final.result? = some result) =>
      run_of_domain_or_cancelled idle waits fresh other ran ended
    constructor
    · refine ⟨?_, fun marker => absurd marker early⟩
      rintro ⟨error, ended⟩
      cases (ends _ ended).1
    · intro error ended
      cases (ends _ ended).1
    · intro summary ended
      exact ⟨Except.ok.inj (ends _ ended).1, (ends _ ended).2⟩

end Machine

end ContextStream.Scheduler
