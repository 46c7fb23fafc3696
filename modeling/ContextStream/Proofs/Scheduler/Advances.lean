import ContextStream.Proofs.Scheduler.Steps

/-!
# The advances of a scheduler

An advance is either something that others do or a move of the run itself, and every
move of the run leads through one of three doors: it finishes, it gives an update to the
publisher, or it fails. `advance_of_step?` is the list of all advances with what each
one leaves behind; what is read off the events is computed along it.
-/

namespace ContextStream.Scheduler

/-! ## What events tell -/

namespace Event

/-- The state that is entered. -/
def state? : Event → Option State
  | .entered _ after => some after
  | _ => none

/-- The update that the publisher is given. -/
def payload? : Event → Option Payload
  | .delivering payload => some payload
  | _ => none

/-- What became of a delivery. -/
def outcome? : Event → Option Outcome
  | .delivered outcome => some outcome
  | _ => none

/-- What the clock showed. -/
def time? : Event → Option Int64
  | .clockRead time => some time
  | _ => none

/-- The summary with which a run ends. -/
def summary? : Event → Option Summary
  | .finished summary => some summary
  | _ => none

end Event

namespace Machine

variable {σ β : Type} {world : World σ} {config : Config} {machine next : Machine σ}

/-- What the events tell, and when. -/
def view (tells : Event → Option β) (machine : Machine σ) : List (Nat × β) :=
  machine.events.filterMap fun entry => (tells entry.2).map (entry.1, ·)

/-- A machine has noted some events at a moment. -/
def Notes (machine : Machine σ) (moment : Nat) (added : List Event) (next : Machine σ) : Prop :=
  next.trace = added.reverse.map (moment, ·) ++ machine.trace

theorem Notes.events {moment : Nat} {added : List Event} (notes : Notes machine moment added next) :
    next.events = machine.events ++ added.map (moment, ·) := by
  unfold Notes at notes
  simp [Machine.events, notes]

theorem filterMap_map_moment (tells : Event → Option β) (moment : Nat) (events : List Event) :
    (events.map (moment, ·)).filterMap (fun entry => (tells entry.2).map (entry.1, ·)) =
      (events.filterMap tells).map (moment, ·) := by
  rw [List.filterMap_map, List.map_filterMap]
  rfl

theorem Notes.view {moment : Nat} {added : List Event} (notes : Notes machine moment added next)
    (tells : Event → Option β) :
    next.view tells = machine.view tells ++ (added.filterMap tells).map (moment, ·) := by
  unfold Machine.view
  rw [notes.events, List.filterMap_append, filterMap_map_moment]

/-! ## The doors of a move -/

/-- What a run does that was not asked to end: it gives an update to the publisher, or
it fails. Asked to end, it finishes. -/
inductive Proceeds (world : World σ) (config : Config) (machine : Machine σ) : Machine σ → Prop
  | finished (asked : machine.cancelled = true) : Proceeds world config machine machine.finish
  | published {next : Machine σ} {document : String} (unasked : machine.cancelled = false)
      (written : Assertion.document (machine.built world config).toGraph = .ok document)
      (publishes : Publishes world config machine next) : Proceeds world config machine next
  | failed {next : Machine σ} {misshape : Assertion.Misshape} (unasked : machine.cancelled = false)
      (refused : Assertion.document (machine.built world config).toGraph = .error misshape)
      (fails : Fails world machine next) : Proceeds world config machine next

theorem proceeds_proceed (world : World σ) (config : Config) (machine : Machine σ) :
    Proceeds world config machine (machine.proceed world config) := by
  unfold proceed
  by_cases asked : machine.cancelled = true
  · rw [if_pos asked]
    exact .finished asked
  · rw [if_neg asked]
    have unasked : machine.cancelled = false := by simpa using asked
    cases written : Assertion.document (machine.built world config).toGraph with
    | ok document => exact .published unasked written (publishes_of_document written)
    | error misshape => exact .failed unasked written (fails_of_misshape written)

/-! ## Advances -/

/-- What one advance does. -/
inductive Advance (world : World σ) (config : Config) (machine : Machine σ) : Machine σ → Prop
  /-- Somebody looks at the state, or asks for another run and is refused. -/
  | aside {moment : Nat} {doing : Call} {agenda : List (Nat × Call)} {event : Event}
      (ahead : machine.agenda = (moment, doing) :: agenda)
      (early : ∀ due ∈ machine.due?, moment ≤ due)
      (is : doing = .observe ∧ event = .observed machine.state ∨
        doing = .run ∧ machine.state ≠ .idle ∧ event = .refused (.alreadyRun machine.state)) :
      Advance world config machine ({ machine with moment, agenda }.note event)
  /-- Somebody asks the run to end, which is remembered, also when a pause is over. -/
  | asked {moment : Nat} {agenda : List (Nat × Call)}
      (ahead : machine.agenda = (moment, .cancel) :: agenda)
      (early : ∀ due ∈ machine.due?, moment ≤ due)
      (late : ∀ due, machine.activity = .waiting due → due = moment) :
      Advance world config machine
        ({ machine with moment, agenda, cancelled := true }.note .cancelRequested)
  /-- Somebody asks the run to end, which cuts a pause short. -/
  | cut {moment due : Nat} {agenda : List (Nat × Call)}
      (ahead : machine.agenda = (moment, .cancel) :: agenda) (early : moment ≤ due)
      (waits : machine.activity = .waiting due) :
      Advance world config machine
        ({ machine with moment, agenda, cancelled := true }.note .cancelRequested).finish
  /-- The run begins. -/
  | begun {moment : Nat} {agenda : List (Nat × Call)} {next : Machine σ}
      (ahead : machine.agenda = (moment, .run) :: agenda) (idle : machine.state = .idle)
      (proceeds : Proceeds world config
        (({ machine with moment, agenda }.enter .running).note .started) next) :
      Advance world config machine next
  /-- The publisher is done with the last update. -/
  | finished {due : Nat} {reply : Reply} {time : Int64}
      (delivers : machine.activity = .delivering due reply time)
      (first : ∀ entry ∈ machine.agenda.head?, machine.goesOn world entry.1 = true)
      (asked : (machine.cancelled || reply.cancels) = true) :
      Advance world config machine ({ machine with moment := due }.counted reply time).finish
  /-- The publisher is done, and the run pauses. -/
  | paused {due : Nat} {reply : Reply} {time : Int64}
      (delivers : machine.activity = .delivering due reply time)
      (first : ∀ entry ∈ machine.agenda.head?, machine.goesOn world entry.1 = true)
      (goesOn : (machine.cancelled || reply.cancels) = true → config.interval = 0) :
      Advance world config machine
        { { machine with moment := due }.counted reply time with
          activity := .waiting (due + config.interval) }
  /-- The pause is over. -/
  | resumed {due : Nat} {next : Machine σ} (waits : machine.activity = .waiting due)
      (first : ∀ entry ∈ machine.agenda.head?, machine.goesOn world entry.1 = true)
      (proceeds : Proceeds world config ({ machine with moment := due }.enter .running) next) :
      Advance world config machine next

/-- When the publisher is done, the run finishes or pauses. -/
theorem advance_settle {due : Nat} {reply : Reply} {time : Int64}
    (delivers : machine.activity = .delivering due reply time)
    (first : ∀ entry ∈ machine.agenda.head?, machine.goesOn world entry.1 = true) :
    Advance world config machine
      ({ machine with moment := due }.settle world config reply time) := by
  rw [settle_eq]
  by_cases asked : (machine.cancelled || reply.cancels) = true
  · by_cases slips : ({ machine with moment := due }.counted reply time).Slips world
        (due + config.interval)
    · rw [race_of_goesOn fun _ => slips]
      have meets : due + config.interval ≤ due := slips.1
      exact .paused delivers first fun _ => by omega
    · rw [race_of_asked (by exact asked) (by exact slips)]
      exact .finished delivers first asked
  · rw [race_of_goesOn fun asked' => absurd asked' asked]
    exact .paused delivers first fun asked' => absurd asked' asked

/-- What others do is one of four advances. -/
theorem advance_call {moment : Nat} {doing : Call} {agenda : List (Nat × Call)}
    (ahead : machine.agenda = (moment, doing) :: agenda)
    (other : machine.goesOn world moment = false) :
    Advance world config machine ({ machine with moment, agenda }.call world config doing) := by
  have early : ∀ due ∈ machine.due?, moment ≤ due :=
    fun due waits => le_due_of_goesOn waits other
  cases doing with
  | observe => exact .aside ahead early (Or.inl ⟨rfl, rfl⟩)
  | run =>
      rw [call, start]
      split
      · next idle => exact .begun ahead idle (proceeds_proceed world config _)
      · next begun => exact .aside ahead early (Or.inr ⟨rfl, begun, rfl⟩)
  | cancel =>
      rw [call]
      by_cases cut : ∃ due, machine.activity = .waiting due ∧
          ¬{ machine with moment, agenda }.Slips world due
      · obtain ⟨due, waits, noSlip⟩ := cut
        rw [cancel_of_cut (by exact waits) noSlip]
        exact .cut ahead (early due (by simp [due?, waits])) waits
      · have slips (due : Nat) (waits : machine.activity = .waiting due) :
            { machine with moment, agenda }.Slips world due := by
          by_contra noSlip
          exact cut ⟨due, waits, noSlip⟩
        rw [cancel_of_uncut (by exact slips)]
        refine .asked ahead early fun due waits => ?_
        exact Nat.le_antisymm (slips due waits).1 (early due (by simp [due?, waits]))

/-- Every step is an advance. -/
theorem advance_of_step? (stepped : machine.step? world config = some next) :
    Advance world config machine next := by
  rcases step?_cases stepped with ⟨due, later, first, rfl⟩ | ⟨_, _, _, ahead, other, rfl⟩
  · cases activity : machine.activity with
    | idle => simp [due?, activity] at later
    | ended result => simp [due?, activity] at later
    | delivering dueThen reply time =>
        obtain rfl : dueThen = due := by simpa [due?, activity] using later
        have resumed : machine.resume world config =
            { machine with moment := dueThen }.settle world config reply time := by
          simp [resume, activity]
        rw [resumed]
        exact advance_settle activity first
    | waiting dueThen =>
        obtain rfl : dueThen = due := by simpa [due?, activity] using later
        have resumed : machine.resume world config =
            ({ machine with moment := dueThen }.enter .running).proceed world config := by
          simp [resume, activity]
        rw [resumed]
        exact .resumed activity first (proceeds_proceed world config _)
  · exact advance_call ahead other

theorem run_succ (stepped : machine.step? world config = some next) (limit : Nat) :
    machine.run world config (limit + 1) = next.run world config limit := by
  simp [run, stepped]

theorem run_of_step?_eq_none (rests : machine.step? world config = none) (limit : Nat) :
    machine.run world config limit = machine := by
  cases limit with
  | zero => rfl
  | succ limit => simp [run, rests]

/-- What every advance keeps, a run keeps. -/
theorem run_induction (keeps : Machine σ → Prop)
    (step : ∀ {machine next}, keeps machine → Advance world config machine next → keeps next)
    (begins : keeps machine) (limit : Nat) : keeps (machine.run world config limit) := by
  induction limit generalizing machine with
  | zero => exact begins
  | succ limit ih =>
      cases stepped : machine.step? world config with
      | none => rwa [run_of_step?_eq_none stepped]
      | some next =>
          rw [run_succ stepped]
          exact ih (step begins (advance_of_step? stepped))

/-! ## Notes of the moves -/

theorem Notes.trans {middle : Machine σ} {moment : Nat} {front back : List Event}
    (first : Notes machine moment front middle) (second : Notes middle moment back next) :
    Notes machine moment (front ++ back) next := by
  unfold Notes at *
  rw [second, first, List.reverse_append, List.map_append, List.append_assoc]

/-- What others do, or a request that changes nothing, is noted alone. -/
theorem notes_aside (machine : Machine σ) (moment : Nat) (agenda : List (Nat × Call))
    (event : Event) : Notes machine moment [event] ({ machine with moment, agenda }.note event) :=
  rfl

theorem notes_asked (machine : Machine σ) (moment : Nat) (agenda : List (Nat × Call)) :
    Notes machine moment [.cancelRequested]
      ({ machine with moment, agenda, cancelled := true }.note .cancelRequested) :=
  rfl

theorem notes_cut (machine : Machine σ) (moment : Nat) (agenda : List (Nat × Call)) :
    Notes machine moment
      [.cancelRequested, .entered machine.state .stopped, .finished machine.summary]
      ({ machine with moment, agenda, cancelled := true }.note .cancelRequested).finish :=
  rfl

theorem notes_begun (machine : Machine σ) (moment : Nat) (agenda : List (Nat × Call)) :
    Notes machine moment [.entered machine.state .running, .started]
      (({ machine with moment, agenda }.enter .running).note .started) :=
  rfl

theorem notes_resumed (machine : Machine σ) (moment : Nat) :
    Notes machine moment [.entered machine.state .running]
      ({ machine with moment }.enter .running) :=
  rfl

theorem notes_finish (machine : Machine σ) :
    Notes machine machine.moment [.entered machine.state .stopped, .finished machine.summary]
      machine.finish :=
  rfl

theorem notes_counted (machine : Machine σ) (reply : Reply) (time : Int64) :
    Notes machine machine.moment
      (machine.outcomeEvents reply time ++ [.entered machine.state .waiting])
      (machine.counted reply time) :=
  rfl

/-- What is noted at the end of a delivery tells one outcome. -/
theorem filterMap_outcomeEvents (tells : Event → Option β) (reply : Reply) (time : Int64)
    (reported : ∀ entry, tells (.reported entry) = none)
    (wentBack : ∀ time last, tells (.clockWentBack time last) = none) :
    (machine.outcomeEvents reply time).filterMap tells =
      (tells (.delivered reply.outcome)).toList := by
  have silent : (reply.entries.map Event.reported).filterMap tells = [] := by
    rw [List.filterMap_eq_nil_iff]
    simp [reported]
  unfold outcomeEvents
  rw [List.filterMap_append, silent, List.nil_append]
  cases told : tells (.delivered reply.outcome) <;>
    cases machine.summary.lastTimestamp <;>
    simp [told, wentBack]

end Machine

end ContextStream.Scheduler
