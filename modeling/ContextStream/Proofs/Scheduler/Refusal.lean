import ContextStream.Proofs.Scheduler.Lifecycle

/-!
# Refused calls

A scheduler runs once, and every later call of it is refused. A run with refused calls
and the same run without them go through the same advances, apart from those in which
a call is refused: `exists_run_onlyFirstRun` pairs the machines of both. They differ in
the notes of the refusals only.
-/

namespace ContextStream.Scheduler

/-! ## What is left out -/

/-- Whether an event tells that a call was refused. -/
def Event.isRefusal : Event → Bool
  | .refused _ => true
  | _ => false

/-- What others do besides asking for a run. -/
def withoutRuns (agenda : List (Nat × Call)) : List (Nat × Call) :=
  agenda.filter (·.2 ≠ .run)

/-- What others do, only the first of the calls that ask for a run among it. -/
def onlyFirstRun : List (Nat × Call) → List (Nat × Call)
  | [] => []
  | (moment, .run) :: agenda => (moment, .run) :: withoutRuns agenda
  | (moment, .cancel) :: agenda => (moment, .cancel) :: onlyFirstRun agenda
  | (moment, .observe) :: agenda => (moment, .observe) :: onlyFirstRun agenda

theorem withoutRuns_sublist (agenda : List (Nat × Call)) :
    (withoutRuns agenda).Sublist agenda :=
  List.filter_sublist

theorem onlyFirstRun_sublist (agenda : List (Nat × Call)) :
    (onlyFirstRun agenda).Sublist agenda := by
  induction agenda with
  | nil => exact List.Sublist.refl []
  | cons entry agenda ih =>
      obtain ⟨moment, doing⟩ := entry
      cases doing with
      | run => exact (withoutRuns_sublist agenda).cons_cons _
      | cancel => exact ih.cons_cons _
      | observe => exact ih.cons_cons _

namespace Machine

variable {σ : Type} {world : World σ} {config : Config} {machine mirror next : Machine σ}

/-! ## Machines told otherwise -/

/-- A machine with another agenda and another account of what has happened. -/
def retold (tell : List (Nat × Event) → List (Nat × Event)) (agenda : List (Nat × Call))
    (machine : Machine σ) : Machine σ :=
  { machine with agenda, trace := tell machine.trace }

theorem isRefusal_of_mem_outcomeEvents {reply : Reply} {time : Int64} {event : Event}
    (eventMem : event ∈ machine.outcomeEvents reply time) : event.isRefusal = false := by
  rcases mem_outcomeEvents eventMem with ⟨_, rfl⟩ | rfl | ⟨_, rfl⟩ <;> rfl

section Retold

-- The account keeps in front what is noted from now on, unless it is a refusal.
variable {tell : List (Nat × Event) → List (Nat × Event)} {agenda : List (Nat × Call)}
  (keeps : ∀ moment event trace, event.isRefusal = false →
    tell ((moment, event) :: trace) = (moment, event) :: tell trace)

include keeps

theorem retold_note {event : Event} (quiet : event.isRefusal = false) :
    (machine.retold tell agenda).note event = (machine.note event).retold tell agenda := by
  simp [retold, note, keeps _ _ _ quiet]

theorem retold_enter (state : State) :
    (machine.retold tell agenda).enter state = (machine.enter state).retold tell agenda := by
  unfold enter note retold
  dsimp only
  rw [keeps _ _ _ rfl]

theorem retold_finish :
    (machine.retold tell agenda).finish = machine.finish.retold tell agenda := by
  unfold finish
  rw [retold_enter keeps, retold_note keeps rfl]
  rfl

theorem retold_cycle :
    (machine.retold tell agenda).cycle world config =
      (machine.cycle world config).retold tell agenda := by
  have built : (machine.retold tell agenda).built world config = machine.built world config := rfl
  have serializing : (machine.retold tell agenda).serializing world =
      (machine.serializing world).retold tell agenda := by
    unfold Machine.serializing enter note retold
    dsimp only
    rw [keeps _ _ _ rfl, keeps _ _ _ rfl, keeps _ _ _ rfl]
    rfl
  cases written : Assertion.document (machine.built world config).toGraph with
  | ok document =>
      rw [cycle_of_document written]
      rw [← built] at written
      rw [cycle_of_document written, serializing, retold_note keeps rfl]
      unfold publish
      dsimp only
      rw [retold_enter keeps, retold_note keeps rfl]
      rfl
  | error misshape =>
      rw [cycle_of_misshape written]
      rw [← built] at written
      rw [cycle_of_misshape written, serializing]
      unfold fail
      rw [retold_note keeps rfl, retold_enter keeps]
      rfl

theorem retold_proceed :
    (machine.retold tell agenda).proceed world config =
      (machine.proceed world config).retold tell agenda := by
  unfold proceed
  by_cases asked : machine.cancelled = true
  · rw [if_pos asked, if_pos (by exact asked), retold_finish keeps]
  · rw [if_neg asked, if_neg (by exact asked), retold_cycle keeps]

theorem tell_append {moment : Nat} {added : List Event} (trace : List (Nat × Event))
    (quiet : ∀ event ∈ added, event.isRefusal = false) :
    tell (added.map (moment, ·) ++ trace) = added.map (moment, ·) ++ tell trace := by
  induction added with
  | nil => rfl
  | cons event added ih =>
      rw [List.map_cons, List.cons_append, keeps _ _ _ (quiet event List.mem_cons_self),
        ih fun other member => quiet other (List.mem_cons_of_mem _ member)]
      rfl

theorem retold_race (due : Nat) :
    (machine.retold tell agenda).race world due =
      (machine.race world due).retold tell agenda := by
  by_cases ends : machine.cancelled = true ∧ ¬machine.Slips world due
  · rw [race_of_asked ends.1 ends.2, race_of_asked (by exact ends.1) (by exact ends.2),
      retold_finish keeps]
  · have goesOn : machine.cancelled = true → machine.Slips world due :=
      not_and_not_right.mp ends
    rw [race_of_goesOn goesOn, race_of_goesOn (by exact goesOn)]
    rfl

theorem retold_settle (reply : Reply) (time : Int64) :
    (machine.retold tell agenda).settle world config reply time =
      (machine.settle world config reply time).retold tell agenda := by
  have counted : (machine.retold tell agenda).counted reply time =
      (machine.counted reply time).retold tell agenda := by
    have quiet : ∀ event ∈ (machine.outcomeEvents reply time ++
        [Event.entered machine.state .waiting]).reverse, event.isRefusal = false := by
      intro event member
      rcases List.mem_append.mp (List.mem_reverse.mp member) with inOutcome | last
      · exact isRefusal_of_mem_outcomeEvents inOutcome
      · obtain rfl := List.mem_singleton.mp last
        rfl
    unfold Machine.counted retold
    dsimp only
    rw [tell_append keeps machine.trace quiet]
    rfl
  rw [settle_eq, settle_eq, counted]
  exact retold_race keeps _

theorem retold_cancel :
    (machine.retold tell agenda).cancel world = (machine.cancel world).retold tell agenda := by
  have asked : ({ machine.retold tell agenda with cancelled := true } : Machine σ).note
        .cancelRequested =
      (({ machine with cancelled := true } : Machine σ).note .cancelRequested).retold tell
        agenda := by
    unfold note retold
    dsimp only
    rw [keeps _ _ _ rfl]
  by_cases waiting : ∃ due, machine.activity = .waiting due
  · obtain ⟨due, waits⟩ := waiting
    rw [cancel_of_waiting waits, cancel_of_waiting (by exact waits), asked, retold_race keeps]
  · have busy : ∀ due, machine.activity = .waiting due → machine.Slips world due :=
      fun due waits => absurd ⟨due, waits⟩ waiting
    rw [cancel_of_uncut busy, cancel_of_uncut (by exact busy), asked]

theorem retold_resume :
    (machine.retold tell agenda).resume world config =
      (machine.resume world config).retold tell agenda := by
  unfold resume
  cases activity : machine.activity with
  | idle => simp [retold, activity]
  | ended result => simp [retold, activity]
  | delivering due reply time =>
      have moved :
          ({ machine with moment := due }.retold tell agenda).settle world config reply time =
            ({ machine with moment := due }.settle world config reply time).retold tell agenda :=
        retold_settle keeps reply time
      simpa [retold, activity] using moved
  | waiting due =>
      have moved :
          (({ machine with moment := due }.retold tell agenda).enter .running).proceed world
              config =
            (({ machine with moment := due }.enter .running).proceed world config).retold tell
              agenda := by
        rw [retold_enter keeps, retold_proceed keeps]
      simpa [retold, activity] using moved

theorem retold_start (idle : machine.state = .idle) :
    (machine.retold tell agenda).start world config =
      (machine.start world config).retold tell agenda := by
  rw [start, start, if_pos idle, if_pos (by exact idle), retold_enter keeps,
    retold_note keeps rfl, retold_proceed keeps]

end Retold

/-! ## Moves of a machine without refusals -/

/-- A machine with another agenda, and without the notes of refusals. -/
def unrefused (machine : Machine σ) (agenda : List (Nat × Call)) : Machine σ :=
  { machine with agenda, trace := machine.trace.filter (!·.2.isRefusal) }

variable {agenda : List (Nat × Call)}

theorem filter_cons_of_quiet (moment : Nat) (event : Event) (trace : List (Nat × Event))
    (quiet : event.isRefusal = false) :
    ((moment, event) :: trace).filter (!·.2.isRefusal) =
      (moment, event) :: trace.filter (!·.2.isRefusal) := by
  simp [quiet]

theorem unrefused_note {event : Event} (quiet : event.isRefusal = false) :
    (machine.unrefused agenda).note event = (machine.note event).unrefused agenda :=
  retold_note filter_cons_of_quiet quiet

theorem unrefused_cancel :
    (machine.unrefused agenda).cancel world = (machine.cancel world).unrefused agenda :=
  retold_cancel filter_cons_of_quiet

theorem unrefused_resume :
    (machine.unrefused agenda).resume world config =
      (machine.resume world config).unrefused agenda :=
  retold_resume filter_cons_of_quiet

theorem unrefused_start (idle : machine.state = .idle) :
    (machine.unrefused agenda).start world config =
      (machine.start world config).unrefused agenda :=
  retold_start filter_cons_of_quiet idle

/-! ## Pairs of runs -/

/-- What others do that is not going to be refused. -/
def heeded (machine : Machine σ) : List (Nat × Call) :=
  if machine.state = .idle then onlyFirstRun machine.agenda else withoutRuns machine.agenda

theorem heeded_of_idle (idle : machine.state = .idle) :
    machine.heeded = onlyFirstRun machine.agenda :=
  if_pos idle

theorem heeded_of_begun (begun : machine.state ≠ .idle) :
    machine.heeded = withoutRuns machine.agenda :=
  if_neg begun

theorem heeded_sublist (machine : Machine σ) : machine.heeded.Sublist machine.agenda := by
  by_cases idle : machine.state = .idle
  · rw [heeded_of_idle idle]
    exact onlyFirstRun_sublist machine.agenda
  · rw [heeded_of_begun idle]
    exact withoutRuns_sublist machine.agenda

/-- A machine in a run without the refused calls. The moment may be an earlier one, that
of the last thing that happened in this run. -/
structure Mirrors (machine mirror : Machine σ) : Prop where
  sorted : machine.agenda.Pairwise fun entry later => entry.1 ≤ later.1
  lives : Lives machine
  same : ∃ moment, mirror = { machine.unrefused machine.heeded with moment }

theorem mirrors_of_eq (sorted : machine.agenda.Pairwise fun entry later => entry.1 ≤ later.1)
    (lives : Lives machine) (same : mirror = machine.unrefused machine.heeded) :
    Mirrors machine mirror :=
  ⟨sorted, lives, machine.moment, same⟩

theorem agenda_proceed (machine : Machine σ) :
    (machine.proceed world config).agenda = machine.agenda := by
  unfold proceed cycle
  split
  · rfl
  · dsimp only
    split <;> rfl

theorem agenda_race (machine : Machine σ) (due : Nat) :
    (machine.race world due).agenda = machine.agenda := by
  unfold race
  dsimp only
  split <;> rfl

theorem agenda_resume (machine : Machine σ) :
    (machine.resume world config).agenda = machine.agenda := by
  unfold resume
  split
  · rw [settle_eq]
    exact agenda_race _ _
  · exact agenda_proceed _
  · rfl
  · rfl

theorem state_proceed_ne_idle (machine : Machine σ) :
    (machine.proceed world config).state ≠ .idle := by
  have proceeds := proceeds_proceed world config machine
  generalize machine.proceed world config = next at proceeds
  cases proceeds with
  | finished asked => simp [finish, note, enter]
  | published unasked written publishes => simp [publishes.state]
  | failed unasked refused fails => simp [fails.state]

theorem state_race_ne_idle (begun : machine.state ≠ .idle) (due : Nat) :
    (machine.race world due).state ≠ .idle := by
  unfold race
  dsimp only
  split
  · simp [finish, note, enter]
  · exact begun

theorem state_resume_ne_idle (begun : machine.state ≠ .idle) :
    (machine.resume world config).state ≠ .idle := by
  unfold resume
  split
  · rw [settle_eq]
    exact state_race_ne_idle (by simp [counted]) _
  · exact state_proceed_ne_idle _
  · exact begun
  · exact begun

theorem Lives.state_ne_idle (lives : Lives machine) {due : Nat}
    (waits : machine.due? = some due) : machine.state ≠ .idle := by
  cases lives with
  | idle activity => simp [due?, activity] at waits
  | delivering rounds activity state => simp [state]
  | waiting rounds activity state => simp [state]
  | ended rounds activity state => simp [state]

/-- When a machine goes on by itself, the moment before is of no consequence. -/
theorem resume_moment {due : Nat} (waits : machine.due? = some due) (moment : Nat) :
    ({ machine with moment } : Machine σ).resume world config = machine.resume world config := by
  cases activity : machine.activity with
  | idle => simp [due?, activity] at waits
  | ended result => simp [due?, activity] at waits
  | delivering dueThen reply time => simp [resume, activity]
  | waiting dueThen => simp [resume, activity]

theorem heeded_of_ahead {moment : Nat} {doing : Call} {agenda : List (Nat × Call)}
    (ahead : machine.agenda = (moment, doing) :: agenda) (other : doing ≠ .run) :
    machine.heeded = (moment, doing) :: ({ machine with moment, agenda } : Machine σ).heeded := by
  unfold heeded
  by_cases idle : machine.state = .idle
  · cases doing with
    | run => exact absurd rfl other
    | cancel => simp [idle, ahead, onlyFirstRun]
    | observe => simp [idle, ahead, onlyFirstRun]
  · simp [idle, ahead, withoutRuns, other]

theorem agenda_cancel (machine : Machine σ) :
    (machine.cancel world).agenda = machine.agenda := by
  unfold cancel
  dsimp only
  split
  · exact agenda_race _ _
  · rfl

/-- A request to end does not begin a run. -/
theorem Lives.state_cancel_eq_idle_iff (lives : Lives machine) :
    (machine.cancel world).state = .idle ↔ machine.state = .idle := by
  by_cases waiting : ∃ due, machine.activity = .waiting due
  · obtain ⟨due, waits⟩ := waiting
    have later : machine.due? = some due := by simp [due?, waits]
    have begun := lives.state_ne_idle later
    rw [cancel_of_waiting waits]
    exact iff_of_false (state_race_ne_idle (by exact begun) due) begun
  · rw [cancel_of_uncut fun due waits => absurd ⟨due, waits⟩ waiting]
    rfl

/-- What a scheduler does by itself it does in a run without refusals too. -/
theorem mirrors_resume {due : Nat} (past : Nat) (lives : Lives machine)
    (sorted : machine.agenda.Pairwise fun entry later => entry.1 ≤ later.1)
    (waits : machine.due? = some due)
    (first : ∀ entry ∈ machine.agenda.head?, machine.goesOn world entry.1 = true)
    (goesOn : Lives (machine.resume world config)) :
    ∃ reflection,
      ({ machine.unrefused machine.heeded with moment := past } : Machine σ).step? world config =
        some reflection ∧ Mirrors (machine.resume world config) reflection := by
  have begun := lives.state_ne_idle waits
  have later : ∀ entry ∈ machine.heeded.head?, machine.goesOn world entry.1 = true := by
    intro entry entryMem
    have inAgenda := (heeded_sublist machine).subset (List.mem_of_mem_head? entryMem)
    cases ahead : machine.agenda with
    | nil => simp [ahead] at inAgenda
    | cons head agenda =>
        have before : machine.goesOn world head.1 = true := first head (by simp [ahead])
        rw [ahead] at inAgenda sorted
        rcases List.mem_cons.mp inAgenda with rfl | inRest
        · exact before
        · exact goesOn_of_le before (List.rel_of_pairwise_cons sorted inRest)
  refine ⟨_, step?_resume (by exact waits) (by exact later), mirrors_of_eq ?_ goesOn ?_⟩
  · rw [agenda_resume]
    exact sorted
  · rw [heeded_of_begun (state_resume_ne_idle begun), agenda_resume,
      resume_moment (by exact waits), unrefused_resume, heeded_of_begun begun]

/-- What others do is refused, or it is done in a run without refusals too. -/
theorem mirrors_call {moment : Nat} {doing : Call} {agenda : List (Nat × Call)} (past : Nat)
    (lives : Lives machine)
    (sorted : machine.agenda.Pairwise fun entry later => entry.1 ≤ later.1)
    (ahead : machine.agenda = (moment, doing) :: agenda)
    (early : machine.goesOn world moment = false)
    (goesOn : Lives (({ machine with moment, agenda } : Machine σ).call world config doing)) :
    Mirrors (({ machine with moment, agenda } : Machine σ).call world config doing)
        { machine.unrefused machine.heeded with moment := past } ∨
      ∃ reflection,
        ({ machine.unrefused machine.heeded with moment := past } : Machine σ).step? world config =
          some reflection ∧
        Mirrors (({ machine with moment, agenda } : Machine σ).call world config doing)
          reflection := by
  rw [ahead] at sorted
  have rest := sorted.tail
  have steps : ∀ behind, machine.heeded = (moment, doing) :: behind →
      ({ machine.unrefused machine.heeded with moment := past } : Machine σ).step? world config =
        some ((({ machine with moment, agenda } : Machine σ).unrefused behind).call world config
          doing) :=
    fun behind heeded => step?_call (by exact heeded) (by exact early)
  cases doing with
  | observe =>
      have heeded := heeded_of_ahead ahead (by decide)
      refine Or.inr ⟨_, steps _ heeded, mirrors_of_eq rest goesOn ?_⟩
      rw [call, unrefused_note (by rfl)]
      rfl
  | cancel =>
      have heeded := heeded_of_ahead ahead (by decide)
      have moved : Lives ({ machine with moment, agenda } : Machine σ) :=
        lives.of_notes rfl rfl rfl
      refine Or.inr ⟨_, steps _ heeded, mirrors_of_eq ?_ goesOn ?_⟩
      · rw [call, agenda_cancel]
        exact rest
      · have same : (Machine.cancel world { machine with moment, agenda }).heeded =
            Machine.heeded { machine with moment, agenda } := by
          simp only [Machine.heeded, moved.state_cancel_eq_idle_iff, agenda_cancel]
        rw [call, call, unrefused_cancel, same]
  | run =>
      by_cases idle : machine.state = .idle
      · have heeded : machine.heeded = (moment, .run) :: withoutRuns agenda := by
          rw [heeded_of_idle idle, ahead, onlyFirstRun]
        have started : (Machine.start world config { machine with moment, agenda }).state ≠ .idle ∧
            (Machine.start world config { machine with moment, agenda }).agenda = agenda := by
          rw [start, if_pos (by exact idle)]
          exact ⟨state_proceed_ne_idle _, agenda_proceed _⟩
        refine Or.inr ⟨_, steps _ heeded, mirrors_of_eq ?_ goesOn ?_⟩
        · rw [call, started.2]
          exact rest
        · rw [call, call, heeded_of_begun started.1, started.2, unrefused_start (by exact idle)]
      · refine Or.inl ⟨?_, goesOn, past, ?_⟩
        · rw [call, start, if_neg (by exact idle)]
          exact rest
        · rw [call, start, if_neg (by exact idle), heeded_of_begun idle,
            heeded_of_begun (by exact idle), ahead]
          rfl

/-- A step of the whole run is a refusal, or a step of the run without refusals too. -/
theorem mirrors_step (mirrors : Mirrors machine mirror)
    (stepped : machine.step? world config = some next) :
    Mirrors next mirror ∨
      ∃ reflection, mirror.step? world config = some reflection ∧ Mirrors next reflection := by
  obtain ⟨past, rfl⟩ := mirrors.same
  have goesOn := lives_advance mirrors.lives (advance_of_step? stepped)
  rcases step?_cases stepped with ⟨due, waits, first, rfl⟩ | ⟨_, _, _, ahead, early, rfl⟩
  · exact Or.inr (mirrors_resume past mirrors.lives mirrors.sorted waits first goesOn)
  · exact mirrors_call past mirrors.lives mirrors.sorted ahead early goesOn

theorem exists_run_of_mirrors (mirrors : Mirrors machine mirror) (limit : Nat) :
    ∃ fewer, Mirrors (machine.run world config limit) (mirror.run world config fewer) := by
  induction limit generalizing machine mirror with
  | zero => exact ⟨0, mirrors⟩
  | succ limit ih =>
      cases stepped : machine.step? world config with
      | none =>
          rw [run_of_step?_eq_none stepped]
          exact ⟨0, mirrors⟩
      | some next =>
          rw [run_succ stepped]
          rcases mirrors_step mirrors stepped with refused | ⟨reflection, steps, goesOn⟩
          · exact ih refused
          · obtain ⟨fewer, runs⟩ := ih goesOn
            exact ⟨fewer + 1, (run_succ steps fewer).symm ▸ runs⟩

/-- Whatever a run with refused calls comes to, the run without them comes to. -/
theorem exists_run_onlyFirstRun (world : World σ) (config : Config) (memory : σ)
    {agenda : List (Nat × Call)} (sorted : agenda.Pairwise fun entry later => entry.1 ≤ later.1)
    (limit : Nat) :
    ∃ fewer, Mirrors (({ memory, agenda } : Machine σ).run world config limit)
      (({ memory, agenda := onlyFirstRun agenda } : Machine σ).run world config fewer) :=
  exists_run_of_mirrors ⟨sorted, .idle rfl rfl rfl, 0, rfl⟩ limit

/-- Both runs come to the same result. -/
theorem Mirrors.result? (mirrors : Mirrors machine mirror) : mirror.result? = machine.result? := by
  obtain ⟨moment, rfl⟩ := mirrors.same
  rfl

/-- What is told by other events than refusals is the same in both runs. -/
theorem Mirrors.view {β : Type} (mirrors : Mirrors machine mirror) (tells : Event → Option β)
    (quiet : ∀ error, tells (.refused error) = none) : mirror.view tells = machine.view tells := by
  obtain ⟨moment, rfl⟩ := mirrors.same
  unfold Machine.view events unrefused
  dsimp only
  rw [← List.filter_reverse, List.filterMap_filter]
  apply List.filterMap_congr
  rintro ⟨time, event⟩ -
  cases event <;> simp [Event.isRefusal, quiet]

end Machine

end ContextStream.Scheduler
