import ContextStream.Proofs.Assertion.Shape
import ContextStream.Proofs.Uuid
import ContextStream.Scheduler.Machine

/-!
# What the steps of a scheduler do

Each step of a run is described once, by the machine that it leads to. A cycle either
gives an update to the publisher or fails because the graph has not the shape of an
assertion; which of both depends on the configuration and the identifiers only.
-/

namespace ContextStream.Scheduler

/-- What is remembered in front of the publisher: the clock was read, and then two identifiers
were drawn. -/
def World.prepared {σ : Type} (world : World σ) (moment : Nat) (memory : σ) : σ :=
  (world.draw (world.tick moment memory)).2.2

namespace Machine

variable {σ : Type} {world : World σ} {config : Config} {machine : Machine σ}

theorem noteAll_eq (machine : Machine σ) (events : List Event) :
    machine.noteAll events =
      { machine with
        trace := (events.map fun event => (machine.moment, event)).reverse ++ machine.trace } := by
  induction events generalizing machine with
  | nil => rfl
  | cons event events ih =>
      rw [noteAll, List.foldl_cons]
      change (machine.note event).noteAll events = _
      rw [ih]
      simp [note]

/-! ## Cycles -/

/-- The time of a cycle that begins. -/
def time (world : World σ) (machine : Machine σ) : Int64 :=
  world.clock machine.moment machine.memory

/-- The identifiers of a cycle that begins, drawn after a look at the clock. -/
def drawn (world : World σ) (machine : Machine σ) : Uuid × Uuid :=
  let (id, stampId, _) := world.draw (world.tick machine.moment machine.memory)
  (id, stampId)

/-- The update that a cycle makes. -/
def built (world : World σ) (config : Config) (machine : Machine σ) : Assertion :=
  config.assertion (machine.drawn world).1 (machine.drawn world).2 (machine.time world)

/-- A machine that has made its update and begins to write it. -/
def serializing (world : World σ) (machine : Machine σ) : Machine σ :=
  { machine.enter .building with memory := world.prepared machine.moment machine.memory }.note
    (.clockRead (machine.time world)) |>.enter .serializing

/-- A cycle whose update has a document gives it to the publisher. -/
theorem cycle_of_document {document : String}
    (written : Assertion.document (machine.built world config).toGraph = .ok document) :
    machine.cycle world config =
      publish world config
        ((machine.serializing world).note
          (.built (machine.built world config).id (machine.built world config).toGraph.size
            (machine.time world)))
        document (machine.time world) := by
  unfold built drawn time at written
  unfold cycle built serializing drawn time World.read World.prepared
  dsimp only
  simp only [enter, note, written]

/-- A cycle whose update has none fails. -/
theorem cycle_of_misshape {misshape : Assertion.Misshape}
    (refused : Assertion.document (machine.built world config).toGraph = .error misshape) :
    machine.cycle world config =
      (machine.serializing world).fail (.malformedGraph misshape) := by
  unfold built drawn time at refused
  unfold cycle serializing time World.read World.prepared
  dsimp only
  simp only [enter, note, refused]

/-- The update of a domain type has a document, if its two identifiers differ. -/
theorem document_built (domain : config.assertionType ≠ Vocabulary.binaryAssertion)
    (fresh : (machine.drawn world).1 ≠ (machine.drawn world).2) :
    Assertion.document (machine.built world config).toGraph =
      .ok (Turtle.write (machine.built world config).toGraph) :=
  Assertion.document_toGraph (fun same => fresh (Iri.ofUuid_inj same)) domain

/-- The update of the marker type has none. -/
theorem document_built_of_marker (marker : config.assertionType = Vocabulary.binaryAssertion) :
    Assertion.document (machine.built world config).toGraph =
      .error (.tripleCount (machine.built world config).toGraph.size) :=
  Assertion.document_toGraph_of_marker marker

/-- What a cycle of a domain type gives to the publisher. -/
def payload (world : World σ) (config : Config) (machine : Machine σ) : Payload :=
  Payload.ofDocument config.stream (Turtle.write (machine.built world config).toGraph)
    (machine.time world)

/-- What the publisher answers in a cycle, and what is remembered then. -/
def answer (world : World σ) (config : Config) (machine : Machine σ) : Reply × σ :=
  world.deliver (world.prepared machine.moment machine.memory) (machine.payload world config)

/-- A cycle ends in a delivery. -/
structure Publishes (world : World σ) (config : Config) (machine next : Machine σ) : Prop where
  moment : next.moment = machine.moment
  state : next.state = .delivering
  activity : next.activity =
    .delivering (machine.moment + (machine.answer world config).1.delay)
      (machine.answer world config).1 (machine.time world)
  cancelled : next.cancelled = machine.cancelled
  summary : next.summary = machine.summary
  memory : next.memory = (machine.answer world config).2
  agenda : next.agenda = machine.agenda
  trace : next.trace =
    [.entered machine.state .building, .clockRead (machine.time world),
      .entered .building .serializing,
      .built (machine.built world config).id (machine.built world config).toGraph.size
        (machine.time world),
      .entered .serializing .delivering,
      .delivering (machine.payload world config)].reverse.map (machine.moment, ·) ++ machine.trace

/-- A cycle whose update has a document ends in a delivery. -/
theorem publishes_of_document {document : String}
    (written : Assertion.document (machine.built world config).toGraph = .ok document) :
    Publishes world config machine (machine.cycle world config) := by
  have is : document = Turtle.write (machine.built world config).toGraph :=
    Turtle.eq_write_of_document written
  subst is
  rw [cycle_of_document written]
  constructor <;> rfl

theorem publishes_cycle (domain : config.assertionType ≠ Vocabulary.binaryAssertion)
    (fresh : (machine.drawn world).1 ≠ (machine.drawn world).2) :
    Publishes world config machine (machine.cycle world config) :=
  publishes_of_document (document_built domain fresh)

/-- A cycle ends in a failure, in front of the publisher. -/
structure Fails (world : World σ) (machine next : Machine σ) : Prop where
  moment : next.moment = machine.moment
  state : next.state = .stopped
  activity : ∃ misshape, next.activity = .ended (.error (.malformedGraph misshape))
  summary : next.summary = machine.summary
  memory : next.memory = world.prepared machine.moment machine.memory
  agenda : next.agenda = machine.agenda
  trace : ∃ misshape, next.trace =
    [.entered machine.state .building, .clockRead (machine.time world),
      .entered .building .serializing, .failed (.malformedGraph misshape),
      .entered .serializing .stopped].reverse.map (machine.moment, ·) ++ machine.trace

/-- A cycle whose update has no document ends in a failure. -/
theorem fails_of_misshape {misshape : Assertion.Misshape}
    (refused : Assertion.document (machine.built world config).toGraph = .error misshape) :
    Fails world machine (machine.cycle world config) := by
  rw [cycle_of_misshape refused]
  constructor
  · rfl
  · rfl
  · exact ⟨_, rfl⟩
  · rfl
  · rfl
  · rfl
  · exact ⟨_, rfl⟩

theorem fails_cycle (marker : config.assertionType = Vocabulary.binaryAssertion) :
    Fails world machine (machine.cycle world config) :=
  fails_of_misshape (document_built_of_marker marker)

/-- A run that was not asked to end begins with a cycle. -/
theorem start_eq_cycle (idle : machine.state = .idle) (unasked : machine.cancelled = false) :
    machine.start world config =
      ((machine.enter .running).note .started).cycle world config := by
  rw [start, if_pos idle, proceed]
  simp [note, enter, unasked]

/-- A run that was asked to end before it began ends at once. -/
theorem start_eq_finish (idle : machine.state = .idle) (asked : machine.cancelled = true) :
    machine.start world config = ((machine.enter .running).note .started).finish := by
  rw [start, if_pos idle, proceed]
  simp [note, enter, asked]

/-! ## The end of a delivery -/

/-- What is noted when the publisher is done: what it reports, the outcome, and whether
the clock went back. -/
def outcomeEvents (machine : Machine σ) (reply : Reply) (time : Int64) : List Event :=
  reply.entries.map .reported ++ .delivered reply.outcome ::
    match machine.summary.lastTimestamp with
    | some last => if time < last then [.clockWentBack time last] else []
    | none => []

theorem mem_outcomeEvents {reply : Reply} {time : Int64} {event : Event}
    (noted : event ∈ machine.outcomeEvents reply time) :
    (∃ entry, event = .reported entry) ∨ event = .delivered reply.outcome ∨
      ∃ last, event = .clockWentBack time last := by
  unfold outcomeEvents at noted
  rcases List.mem_append.mp noted with reported | behind
  · obtain ⟨entry, -, rfl⟩ := List.mem_map.mp reported
    exact Or.inl ⟨entry, rfl⟩
  · rcases List.mem_cons.mp behind with rfl | warning
    · exact Or.inr (Or.inl rfl)
    · split at warning
      · split at warning
        · obtain rfl := List.mem_singleton.mp warning
          exact Or.inr (Or.inr ⟨_, rfl⟩)
        · cases warning
      · cases warning

/-- A machine that has counted an outcome. -/
def counted (machine : Machine σ) (reply : Reply) (time : Int64) : Machine σ :=
  { machine with
    state := .waiting
    cancelled := machine.cancelled || reply.cancels
    summary := machine.summary.record reply.outcome time
    trace := (machine.outcomeEvents reply time ++
        [Event.entered machine.state .waiting]).reverse.map
      (machine.moment, ·) ++ machine.trace }

/-- When the publisher is done, the run ends or pauses. -/
theorem settle_eq (reply : Reply) (time : Int64) :
    machine.settle world config reply time =
      (machine.counted reply time).race world (machine.moment + config.interval) := by
  have counts (told : Machine σ)
      (is : told = machine.noteAll (machine.outcomeEvents reply time)) :
      ({ told with
        cancelled := told.cancelled || reply.cancels
        summary := told.summary.record reply.outcome time }.enter .waiting) =
      machine.counted reply time := by
    subst is
    rw [noteAll_eq]
    simp [counted, enter, note]
  exact congrArg (fun next => next.race world (next.moment + config.interval)) (counts _ rfl)

/-! ## The end of a pause -/

/-- The end of a pause and a request to end come at once, and the request goes unnoticed. -/
def Slips (world : World σ) (machine : Machine σ) (due : Nat) : Prop :=
  due ≤ machine.moment ∧ world.pauseWins machine.memory = true

/-- A pause in a run that was asked to end is over at once. -/
theorem race_of_asked {due : Nat} (asked : machine.cancelled = true)
    (noSlip : ¬machine.Slips world due) : machine.race world due = machine.finish := by
  unfold race
  rw [if_pos ⟨asked, by rwa [Bool.not_eq_true', decide_eq_false_iff_not]⟩]

/-- In any other case the pause goes on. -/
theorem race_of_goesOn {due : Nat} (goesOn : machine.cancelled = true → machine.Slips world due) :
    machine.race world due = { machine with activity := .waiting due } := by
  unfold race
  refine if_neg fun ends => ?_
  rw [Bool.not_eq_true', decide_eq_false_iff_not] at ends
  exact ends.2 (goesOn ends.1)

/-- During a pause a request to end is weighed against the end of the pause. -/
theorem cancel_of_waiting {due : Nat} (waits : machine.activity = .waiting due) :
    machine.cancel world =
      ({ machine with cancelled := true }.note .cancelRequested).race world due := by
  simp [cancel, note, waits]

/-- A request to end cuts a pause short. -/
theorem cancel_of_cut {due : Nat} (waits : machine.activity = .waiting due)
    (noSlip : ¬machine.Slips world due) :
    machine.cancel world =
      ({ machine with cancelled := true }.note .cancelRequested).finish := by
  rw [cancel_of_waiting waits]
  exact race_of_asked (by rfl) (by exact noSlip)

/-- At any other time a request to end is remembered, and also at the end of a pause that is
noticed first. -/
theorem cancel_of_uncut
    (slips : ∀ due, machine.activity = .waiting due → machine.Slips world due) :
    machine.cancel world = { machine with cancelled := true }.note .cancelRequested := by
  unfold cancel
  dsimp only [note]
  split
  · next due waits =>
      have slips : Slips world ({ machine with cancelled := true }.note .cancelRequested) due :=
        slips due waits
      rw [race_of_goesOn fun _ => by exact slips]
      exact congrArg (fun activity => { ({ machine with cancelled := true }.note .cancelRequested)
        with activity }) waits.symm
  · rfl

/-! ## Advances -/

theorem goesOn_iff {moment : Nat} :
    machine.goesOn world moment = true ↔
      ∃ due, machine.due? = some due ∧
        (due < moment ∨ due = moment ∧ world.goesFirst moment machine.memory = true) := by
  unfold goesOn
  cases machine.due? <;> simp

/-- What goes on before others is due when they do something, or earlier. -/
theorem due_le_of_goesOn {moment due : Nat} (waits : machine.due? = some due)
    (first : machine.goesOn world moment = true) : due ≤ moment := by
  obtain ⟨_, waits', before | ⟨now, -⟩⟩ := goesOn_iff.mp first
  · cases waits.symm.trans waits'
    exact Nat.le_of_lt before
  · cases waits.symm.trans waits'
    exact Nat.le_of_eq now

/-- What others do first is not later than what is due. -/
theorem le_due_of_goesOn {moment due : Nat} (waits : machine.due? = some due)
    (early : machine.goesOn world moment = false) : moment ≤ due := by
  by_contra before
  have first : machine.goesOn world moment = true :=
    goesOn_iff.mpr ⟨due, waits, Or.inl (Nat.lt_of_not_le before)⟩
  rw [early] at first
  cases first

/-- Either the scheduler goes on by itself, before others do anything, or others do
what they do next. -/
theorem step?_cases {next : Machine σ} (stepped : machine.step? world config = some next) :
    (∃ due, machine.due? = some due ∧
      (∀ entry ∈ machine.agenda.head?, machine.goesOn world entry.1 = true) ∧
      next = machine.resume world config) ∨
    ∃ moment doing agenda, machine.agenda = (moment, doing) :: agenda ∧
      machine.goesOn world moment = false ∧
      next = { machine with moment, agenda }.call world config doing := by
  unfold step? at stepped
  split at stepped
  · cases stepped
  · next due later waits =>
      exact Or.inl ⟨due, waits, by simp [later], (Option.some.inj stepped).symm⟩
  · next moment doing agenda ahead =>
      split at stepped
      · next first =>
          obtain ⟨due, waits, -⟩ := goesOn_iff.mp first
          exact Or.inl ⟨due, waits, by simpa [ahead] using first, (Option.some.inj stepped).symm⟩
      · next other =>
          exact Or.inr ⟨moment, doing, agenda, ahead, by simpa using other,
            (Option.some.inj stepped).symm⟩

/-- What goes on before others do something goes on before all that they do later. -/
theorem goesOn_of_le {moment later : Nat} (first : machine.goesOn world moment = true)
    (le : moment ≤ later) : machine.goesOn world later = true := by
  rcases Nat.eq_or_lt_of_le le with rfl | less
  · exact first
  · obtain ⟨due, waits, -⟩ := goesOn_iff.mp first
    have before := due_le_of_goesOn waits first
    exact goesOn_iff.mpr ⟨due, waits, Or.inl (Nat.lt_of_le_of_lt before less)⟩

/-- What the scheduler does before others do anything. -/
theorem step?_resume {due : Nat} (waits : machine.due? = some due)
    (first : ∀ entry ∈ machine.agenda.head?, machine.goesOn world entry.1 = true) :
    machine.step? world config = some (machine.resume world config) := by
  cases later : machine.agenda with
  | nil => simp [step?, later, waits]
  | cons entry agenda =>
      have first : machine.goesOn world entry.1 = true := first entry (by simp [later])
      simp [step?, later, first]

/-- What others do before the scheduler goes on. -/
theorem step?_call {moment : Nat} {doing : Call} {agenda : List (Nat × Call)}
    (ahead : machine.agenda = (moment, doing) :: agenda)
    (early : machine.goesOn world moment = false) :
    machine.step? world config =
      some ({ machine with moment, agenda }.call world config doing) := by
  simp [step?, ahead, early]

/-- A machine that does not advance has nothing to wait for. -/
theorem agenda_of_step?_eq_none
    (rests : machine.step? world config = none) : machine.agenda = [] ∧ machine.due? = none := by
  unfold step? at rests
  split at rests
  · next done idle => exact ⟨done, idle⟩
  · cases rests
  · split at rests <;> cases rests

/-- A run that has ended is not advanced further. -/
theorem runToEnd_of_ended (ended : machine.result?.isSome) (limit : Nat) :
    machine.runToEnd world config limit = machine := by
  obtain ⟨result, is⟩ := Option.isSome_iff_exists.mp ended
  cases limit with
  | zero => rfl
  | succ limit => simp [runToEnd, is]

end Machine

end ContextStream.Scheduler
