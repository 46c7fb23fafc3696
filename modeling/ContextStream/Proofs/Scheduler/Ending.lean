import ContextStream.Proofs.Scheduler.Advances

/-!
# Runs that are asked to end return

If pauses last, a run that is asked to end returns after so many advances: each of them takes
an entry off the agenda, or ends the run, or brings it nearer to the last moment on the agenda.
-/

namespace ContextStream.Scheduler.Machine

variable {σ : Type} {world : World σ} {config : Config} {last : Nat} {machine next : Machine σ}

/-- A run was asked to end, or will be. -/
def IsAsked (machine : Machine σ) : Prop :=
  machine.cancelled = true ∨ ∃ moment, (moment, .cancel) ∈ machine.agenda

/-- What is not a request may be done without a change to that. -/
theorem IsAsked.of_cons (asked : machine.IsAsked) {moment : Nat} {doing : Call}
    (ahead : machine.agenda = (moment, doing) :: next.agenda) (other : doing ≠ .cancel)
    (same : next.cancelled = machine.cancelled) : next.IsAsked := by
  rcases asked with asked | ⟨time, asks⟩
  · exact Or.inl (same.trans asked)
  · rw [ahead] at asks
    rcases List.mem_cons.mp asks with now | later
    · exact absurd (Prod.mk.inj now).2.symm other
    · exact Or.inr ⟨time, later⟩

/-- A run has begun or will begin, it was asked to end or will be, and nothing is on the agenda
beyond a last moment. -/
structure Closes (last : Nat) (machine : Machine σ) : Prop where
  bounded : ∀ entry ∈ machine.agenda, entry.1 ≤ last
  asked : machine.IsAsked
  rests : machine.state = .idle ↔ machine.activity = .idle
  begins : machine.activity = .idle → ∃ moment, (moment, .run) ∈ machine.agenda

/-- How many advances there are at most until the run has returned. From the beginning of a
pause to the end of the next delivery there are two. -/
def distance (last : Nat) (machine : Machine σ) : Nat :=
  match machine.activity with
  | .idle => 2 * last + machine.agenda.length + 6
  | .waiting due => 2 * (last + 1 - due) + machine.agenda.length + 3
  | .delivering due _ _ => 2 * (last + 1 - due) + machine.agenda.length + 2
  | .ended _ => 0

/-- A run that has not returned and is asked to end goes on. -/
theorem Closes.exists_step (closes : Closes last machine) (world : World σ) (config : Config)
    (unended : machine.result? = none) : ∃ next, machine.step? world config = some next := by
  cases stepped : machine.step? world config with
  | some next => exact ⟨next, rfl⟩
  | none =>
      obtain ⟨done, idle⟩ := agenda_of_step?_eq_none stepped
      cases activity : machine.activity with
      | idle =>
          obtain ⟨moment, runs⟩ := closes.begins activity
          simp [done] at runs
      | delivering => simp [due?, activity] at idle
      | waiting => simp [due?, activity] at idle
      | ended => simp [result?, activity] at unended

/-- What others do and what leaves the run as it is brings it nearer to its end, unless that is
there. -/
theorem Closes.pass (closes : Closes last machine) {moment : Nat} {doing : Call}
    (ahead : machine.agenda = (moment, doing) :: next.agenda)
    (activity : next.activity = machine.activity) (state : next.state = machine.state)
    (noRun : machine.state = .idle → doing ≠ .run) (asked : next.IsAsked) :
    next.result?.isSome ∨ Closes last next ∧ next.distance last < machine.distance last := by
  have shorter : machine.agenda.length = next.agenda.length + 1 := by
    rw [ahead, List.length_cons]
  have closesNext : Closes last next := by
    refine ⟨fun entry member => ?_, asked, ?_, fun idle => ?_⟩
    · exact closes.bounded entry (ahead ▸ List.mem_cons_of_mem _ member)
    · rw [state, activity]
      exact closes.rests
    · rw [activity] at idle
      obtain ⟨time, runs⟩ := closes.begins idle
      rw [ahead] at runs
      rcases List.mem_cons.mp runs with now | later
      · exact absurd (Prod.mk.inj now).2.symm (noRun (closes.rests.mpr idle))
      · exact ⟨time, later⟩
  unfold distance
  rw [activity]
  cases is : machine.activity with
  | ended result => exact Or.inl (by simp [result?, activity, is])
  | idle => exact Or.inr ⟨closesNext, by dsimp only; omega⟩
  | delivering due reply time => exact Or.inr ⟨closesNext, by dsimp only; omega⟩
  | waiting due => exact Or.inr ⟨closesNext, by dsimp only; omega⟩

/-- A run that goes on returns, or it comes nearer to its end by the delivery that it begins. -/
theorem Closes.proceed (bounded : ∀ entry ∈ machine.agenda, entry.1 ≤ last)
    (asked : machine.IsAsked) (proceeds : Proceeds world config machine next) :
    next.result?.isSome ∨ Closes last next ∧
      next.distance last ≤ 2 * (last + 1 - machine.moment) + machine.agenda.length + 2 := by
  cases proceeds with
  | finished => exact Or.inl rfl
  | failed unasked refused fails =>
      obtain ⟨misshape, ended⟩ := fails.activity
      exact Or.inl (by simp [result?, ended])
  | published unasked written publishes =>
      refine Or.inr ⟨⟨?_, ?_, ?_, ?_⟩, ?_⟩
      · rwa [publishes.agenda]
      · unfold IsAsked
        rwa [publishes.agenda, publishes.cancelled]
      · simp [publishes.state, publishes.activity]
      · simp [publishes.activity]
      · simp only [distance, publishes.activity, publishes.agenda]
        omega

/-- Each advance ends the run or brings its end nearer. -/
theorem Closes.advance (pause : 0 < config.interval) (closes : Closes last machine)
    (advance : Advance world config machine next) :
    next.result?.isSome ∨ Closes last next ∧ next.distance last < machine.distance last := by
  cases advance with
  | @aside moment doing agenda event ahead early is =>
      have other : doing ≠ .cancel := by
        rcases is with ⟨rfl, -⟩ | ⟨rfl, -, -⟩ <;> decide
      refine closes.pass ahead rfl rfl ?_ (closes.asked.of_cons ahead other rfl)
      rcases is with ⟨rfl, -⟩ | ⟨-, begun, -⟩
      · exact fun _ => by decide
      · exact fun idle => absurd idle begun
  | asked ahead early late =>
      exact closes.pass ahead rfl rfl (fun _ => by decide) (Or.inl rfl)
  | cut => exact Or.inl rfl
  | @begun moment agenda _ ahead idle proceeds =>
      have bounded : ∀ entry ∈ agenda, entry.1 ≤ last := fun entry member =>
        closes.bounded entry (ahead ▸ List.mem_cons_of_mem _ member)
      have asked : IsAsked (({ machine with moment, agenda }.enter .running).note .started) :=
        closes.asked.of_cons ahead (by decide) rfl
      refine (Closes.proceed bounded asked proceeds).imp_right <| And.imp_right fun nearer =>
        Nat.lt_of_le_of_lt nearer ?_
      simp only [distance, closes.rests.mp idle, ahead, List.length_cons, enter, note]
      omega
  | finished => exact Or.inl rfl
  | @paused due reply time delivers first goesOn =>
      -- Nobody has asked the run to end, so that the request is still ahead.
      have unasked : (machine.cancelled || reply.cancels) = false :=
        Bool.eq_false_iff.mpr fun asked => Nat.ne_of_gt pause (goesOn asked)
      have unasked := Bool.or_eq_false_iff.mp unasked
      obtain asked | ⟨moment, asks⟩ := closes.asked
      · simp [unasked.1] at asked
      have before : due ≤ last := by
        obtain ⟨entry, head⟩ : ∃ entry, entry ∈ machine.agenda.head? := by
          cases ahead : machine.agenda with
          | nil => simp [ahead] at asks
          | cons entry agenda => exact ⟨entry, by simp⟩
        exact Nat.le_trans (due_le_of_goesOn (by simp [due?, delivers]) (first entry head))
          (closes.bounded entry (List.mem_of_mem_head? head))
      refine Or.inr ⟨⟨closes.bounded, Or.inr ⟨moment, asks⟩, by simp [counted],
        by simp [counted]⟩, ?_⟩
      simp only [distance, delivers, counted]
      omega
  | @resumed due _ waits first proceeds =>
      have asked : IsAsked ({ machine with moment := due }.enter .running) := closes.asked
      refine (Closes.proceed (by exact closes.bounded) asked proceeds).imp_right <|
        And.imp_right fun nearer => Nat.lt_of_le_of_lt nearer ?_
      simp only [distance, waits, enter, note]
      omega

/-- A run that is asked to end has returned after so many advances. -/
theorem isSome_result?_of_closes (pause : 0 < config.interval) {limit : Nat}
    (closes : Closes last machine) (enough : machine.distance last ≤ limit) :
    (machine.runToEnd world config limit).result?.isSome := by
  induction limit generalizing machine with
  | zero =>
      unfold distance at enough
      cases activity : machine.activity with
      | ended result => simp [runToEnd, result?, activity]
      | idle => simp [activity] at enough
      | waiting due => simp [activity] at enough
      | delivering due reply time => simp [activity] at enough
  | succ limit ih =>
      cases unended : machine.result? with
      | some result =>
          have ended : machine.result?.isSome := by simp [unended]
          rwa [runToEnd_of_ended ended]
      | none =>
          obtain ⟨next, stepped⟩ := closes.exists_step world config unended
          rw [runToEnd, unended, stepped]
          rcases closes.advance pause (advance_of_step? stepped) with ended | ⟨goesOn, nearer⟩
          · dsimp only
            rwa [runToEnd_of_ended ended]
          · exact ih goesOn (by omega)

/-- If pauses last, a run that others ask for and ask to end returns, in whatever order they
do so. -/
theorem isSome_result?_of_asked (world : World σ) (pause : 0 < config.interval) (memory : σ)
    {agenda : List (Nat × Call)} (bounded : ∀ entry ∈ agenda, entry.1 ≤ last)
    (runs : ∃ moment, (moment, .run) ∈ agenda) (asks : ∃ moment, (moment, .cancel) ∈ agenda)
    {limit : Nat} (enough : 2 * last + agenda.length + 6 ≤ limit) :
    (({ memory, agenda } : Machine σ).runToEnd world config limit).result?.isSome :=
  isSome_result?_of_closes pause ⟨bounded, Or.inr asks, by simp, fun _ => runs⟩ enough

end ContextStream.Scheduler.Machine
