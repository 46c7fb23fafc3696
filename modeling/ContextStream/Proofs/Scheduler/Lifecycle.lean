import ContextStream.Proofs.Config
import ContextStream.Proofs.Scheduler.Advances
import Mathlib.Computability.Language
import Mathlib.Data.List.Chain

/-!
# The life of a scheduler

The states that a scheduler takes begin a word of one regular language, whatever others
do and whenever they do it: idle, then rounds of a cycle and a pause, then one of four
endings. The publisher is called on each entry into delivering, and at no other time; and
the clock is looked at just when this is noted.
-/

namespace ContextStream.Scheduler

/-! ## The language of states -/

namespace State

/-- A cycle, its pause, and the return to the beginning. -/
def round : List State :=
  [.building, .serializing, .delivering, .waiting, .running]

/-- How a run ends: in front of a cycle, in the pause behind one, or by an error of one
of its two parts that can fail. -/
def endings : Language State :=
  {[.stopped]} + {[.building, .serializing, .delivering, .waiting, .stopped]} +
    {[.building, .stopped]} + {[.building, .serializing, .stopped]}

theorem stopped_mem_endings : [.stopped] ∈ endings :=
  Or.inl (Or.inl (Or.inl rfl))

theorem delivered_mem_endings :
    [.building, .serializing, .delivering, .waiting, .stopped] ∈ endings :=
  Or.inl (Or.inl (Or.inr rfl))

theorem unwritten_mem_endings : [.building, .serializing, .stopped] ∈ endings :=
  Or.inr rfl

/-- The words of whole lives. -/
def lifecycle : Language State :=
  {[.idle, .running]} * KStar.kstar {round} * endings

/-- A run that stands in front of a cycle, with some rounds behind it. -/
def begun (rounds : Nat) : List State :=
  [.idle, .running] ++ (List.replicate rounds round).flatten

theorem begun_succ (rounds : Nat) : begun (rounds + 1) = begun rounds ++ round := by
  simp [begun, List.replicate_succ']

theorem mem_lifecycle_iff {word : List State} :
    word ∈ lifecycle ↔ ∃ rounds, ∃ ending ∈ endings, word = begun rounds ++ ending := by
  unfold lifecycle begun
  constructor
  · rintro ⟨_, ⟨_, rfl, middle, repeats, rfl⟩, ending, isEnding, rfl⟩
    obtain ⟨words, rfl, all⟩ := Language.mem_kstar.mp repeats
    have same : words = List.replicate words.length round :=
      List.eq_replicate_iff.mpr ⟨rfl, all⟩
    exact ⟨words.length, ending, isEnding, by rw [← same]⟩
  · rintro ⟨rounds, ending, isEnding, rfl⟩
    refine Language.append_mem_mul (Language.append_mem_mul rfl ?_) isEnding
    refine Language.mem_kstar.mpr ⟨_, rfl, ?_⟩
    intro word wordMem
    exact List.eq_of_mem_replicate wordMem

theorem mem_lifecycle (rounds : Nat) {ending : List State} (isEnding : ending ∈ endings) :
    begun rounds ++ ending ∈ lifecycle :=
  mem_lifecycle_iff.mpr ⟨rounds, ending, isEnding, rfl⟩

/-- Which state may come right behind which. -/
def mayFollow : State → State → Bool
  | .idle, .running => true
  | .running, .building | .running, .stopped => true
  | .building, .serializing | .building, .stopped => true
  | .serializing, .delivering | .serializing, .stopped => true
  | .delivering, .waiting => true
  | .waiting, .running | .waiting, .stopped => true
  | _, _ => false

theorem isChain_rounds (rounds : Nat) {ending : List State} (isEnding : ending ∈ endings) :
    (.running :: (List.replicate rounds round).flatten ++ ending).IsChain
      fun before after => mayFollow before after = true := by
  induction rounds with
  | zero => rcases isEnding with ((rfl | rfl) | rfl) | rfl <;> decide
  | succ rounds ih =>
      rw [List.replicate_succ, List.flatten_cons]
      simpa [round, mayFollow] using ih

/-- Each state of a life may follow the state before it. -/
theorem isChain_of_mem_lifecycle {word : List State} (isWord : word ∈ lifecycle) :
    word.IsChain fun before after => mayFollow before after = true := by
  obtain ⟨rounds, ending, isEnding, rfl⟩ := mem_lifecycle_iff.mp isWord
  exact List.isChain_cons_cons.mpr ⟨rfl, isChain_rounds rounds isEnding⟩

end State

/-! ## Calls of the publisher -/

/-- Each entry into delivering is followed at once by one call of the publisher, and
there is no other call. -/
inductive CallsOnEntry : List Event → Prop
  | nil : CallsOnEntry []
  | other {event : Event} {events : List Event} (noEntry : event.state? ≠ some .delivering)
      (noCall : event.payload? = none) (calls : CallsOnEntry events) :
      CallsOnEntry (event :: events)
  | call {before : State} {payload : Payload} {events : List Event}
      (calls : CallsOnEntry events) :
      CallsOnEntry (.entered before .delivering :: .delivering payload :: events)

theorem CallsOnEntry.append {front back : List Event} (first : CallsOnEntry front)
    (second : CallsOnEntry back) : CallsOnEntry (front ++ back) := by
  induction first with
  | nil => exact second
  | other noEntry noCall _ ih => exact .other noEntry noCall ih
  | call _ ih => exact .call ih

/-- Events without entries and calls. -/
theorem callsOnEntry_of_forall {events : List Event}
    (quiet : ∀ event ∈ events, event.state? ≠ some .delivering ∧ event.payload? = none) :
    CallsOnEntry events := by
  induction events with
  | nil => exact .nil
  | cons event events ih =>
      have head := quiet event List.mem_cons_self
      have tail := ih fun other otherMem => quiet other (List.mem_cons_of_mem event otherMem)
      exact .other head.1 head.2 tail

/-- A publisher that keeps a record of its calls, an entry for each of them. Reading the clock
and drawing identifiers leaves the record as it is. -/
structure World.Records {σ β : Type} (world : World σ) (entry : Payload → Reply → β)
    (record : σ → List β) : Prop where
  tick : ∀ moment memory, record (world.tick moment memory) = record memory
  draw : ∀ memory, record (world.draw memory).2.2 = record memory
  deliver : ∀ memory payload,
    record (world.deliver memory payload).2 =
      record memory ++ [entry payload (world.deliver memory payload).1]

theorem World.Records.prepared {σ β : Type} {world : World σ} {entry : Payload → Reply → β}
    {record : σ → List β} (records : world.Records entry record) (moment : Nat) (memory : σ) :
    record (world.prepared moment memory) = record memory :=
  (records.draw _).trans (records.tick moment memory)

/-- A record of the looks at the clock, a moment for each of them. Drawing identifiers and
calling the publisher leaves the record as it is. -/
structure World.RecordsLooks {σ : Type} (world : World σ) (record : σ → List Nat) : Prop where
  tick : ∀ moment memory, record (world.tick moment memory) = record memory ++ [moment]
  draw : ∀ memory, record (world.draw memory).2.2 = record memory
  deliver : ∀ memory payload, record (world.deliver memory payload).2 = record memory

theorem World.RecordsLooks.prepared {σ : Type} {world : World σ} {record : σ → List Nat}
    (records : world.RecordsLooks record) (moment : Nat) (memory : σ) :
    record (world.prepared moment memory) = record memory ++ [moment] :=
  (records.draw _).trans (records.tick moment memory)

namespace Machine

variable {σ : Type} {world : World σ} {config : Config} {machine next : Machine σ} {moment : Nat}

/-- Events of a moment call the publisher on entries into delivering only. These are all its
calls between two memories, and the looks at the clock are those that are noted. -/
structure Calls (world : World σ) (moment : Nat) (before : σ) (added : List Event) (after : σ) :
    Prop where
  onEntry : CallsOnEntry added
  recorded : ∀ record, world.Records (fun payload _ => payload) record →
    record after = record before ++ added.filterMap Event.payload?
  looked : ∀ record, world.RecordsLooks record →
    record after = record before ++ (added.filterMap Event.time?).map fun _ => moment

/-- Nothing but entries into other states and events of no consequence. -/
theorem calls_of_forall {memory : σ} {added : List Event}
    (quiet : ∀ event ∈ added,
      event.state? ≠ some .delivering ∧ event.payload? = none ∧ event.time? = none) :
    Calls world moment memory added memory := by
  refine ⟨callsOnEntry_of_forall fun event eventMem => ?_, fun record _ => ?_, fun record _ => ?_⟩
  · exact ⟨(quiet event eventMem).1, (quiet event eventMem).2.1⟩
  · have silent : added.filterMap Event.payload? = [] :=
      List.filterMap_eq_nil_iff.mpr fun event eventMem => (quiet event eventMem).2.1
    rw [silent, List.append_nil]
  · have blind : added.filterMap Event.time? = [] :=
      List.filterMap_eq_nil_iff.mpr fun event eventMem => (quiet event eventMem).2.2
    rw [blind, List.map_nil, List.append_nil]

theorem Calls.trans {before middle after : σ} {front back : List Event}
    (first : Calls world moment before front middle)
    (second : Calls world moment middle back after) :
    Calls world moment before (front ++ back) after := by
  refine ⟨first.onEntry.append second.onEntry, fun record records => ?_, fun record records => ?_⟩
  · rw [second.recorded record records, first.recorded record records, List.filterMap_append,
      List.append_assoc]
  · rw [second.looked record records, first.looked record records, List.filterMap_append,
      List.map_append, List.append_assoc]

theorem calls_outcome (memory : σ) (machine : Machine σ) (reply : Reply) (time : Int64) :
    Calls world moment memory (machine.outcomeEvents reply time) memory := by
  apply calls_of_forall
  intro event noted
  rcases mem_outcomeEvents noted with ⟨entry, rfl⟩ | rfl | ⟨last, rfl⟩ <;>
    simp [Event.state?, Event.payload?, Event.time?]

theorem Proceeds.exists_calls (proceeds : Proceeds world config machine next) :
    ∃ added, Notes machine machine.moment added next ∧
      Calls world machine.moment machine.memory added next.memory := by
  cases proceeds with
  | finished asked =>
      exact ⟨_, notes_finish machine,
        calls_of_forall (by simp [Event.state?, Event.payload?, Event.time?])⟩
  | published unasked written publishes =>
      refine ⟨_, publishes.trace, ?_, fun record records => ?_, fun record records => ?_⟩
      · refine .other (by simp [Event.state?]) rfl <| .other (by simp [Event.state?]) rfl <|
          .other (by simp [Event.state?]) rfl <| .other (by simp [Event.state?]) rfl <|
          .call .nil
      · rw [publishes.memory, answer, records.deliver, records.prepared]
        rfl
      · rw [publishes.memory, answer, records.deliver, records.prepared]
        rfl
  | failed unasked refused fails =>
      obtain ⟨misshape, trace⟩ := fails.trace
      refine ⟨_, trace, callsOnEntry_of_forall ?_, fun record records => ?_,
        fun record records => ?_⟩
      · simp [Event.state?, Event.payload?]
      · rw [fails.memory, records.prepared]
        simp [Event.payload?]
      · rw [fails.memory, records.prepared]
        rfl

/-- Every advance calls the publisher on entries into delivering only. -/
theorem Advance.exists_calls (advance : Advance world config machine next) :
    ∃ moment added, Notes machine moment added next ∧
      Calls world moment machine.memory added next.memory := by
  cases advance with
  | @aside moment _ _ event ahead early is =>
      refine ⟨moment, [event], rfl, calls_of_forall ?_⟩
      rcases is with ⟨-, rfl⟩ | ⟨-, -, rfl⟩ <;> simp [Event.state?, Event.payload?, Event.time?]
  | @asked moment _ ahead early late =>
      exact ⟨moment, [.cancelRequested], rfl,
        calls_of_forall (by simp [Event.state?, Event.payload?, Event.time?])⟩
  | @cut moment due _ ahead early waits =>
      exact ⟨moment, [.cancelRequested, .entered machine.state .stopped,
          .finished machine.summary], rfl,
        calls_of_forall (by simp [Event.state?, Event.payload?, Event.time?])⟩
  | @begun moment agenda _ ahead idle proceeds =>
      obtain ⟨added, notes, calls⟩ := proceeds.exists_calls
      have opened := notes_begun machine moment agenda
      exact ⟨moment, _, opened.trans notes,
        (calls_of_forall (by simp [Event.state?, Event.payload?, Event.time?])).trans calls⟩
  | @finished due reply time delivers first asked =>
      have entered : Calls world due machine.memory [.entered machine.state .waiting]
          machine.memory :=
        calls_of_forall (by simp [Event.state?, Event.payload?, Event.time?])
      exact ⟨due, _, (notes_counted { machine with moment := due } reply time).trans
          (notes_finish _), ((calls_outcome _ _ _ _).trans entered).trans
        (calls_of_forall (by simp [Event.state?, Event.payload?, Event.time?]))⟩
  | @paused due reply time delivers first goesOn =>
      exact ⟨due, _, notes_counted { machine with moment := due } reply time,
        (calls_outcome _ _ _ _).trans
          (calls_of_forall (by simp [Event.state?, Event.payload?, Event.time?]))⟩
  | @resumed due _ waits first proceeds =>
      obtain ⟨added, notes, calls⟩ := proceeds.exists_calls
      have opened := notes_resumed machine due
      exact ⟨due, _, opened.trans notes,
        (calls_of_forall (by simp [Event.state?, Event.payload?, Event.time?])).trans calls⟩

/-! ## States -/

/-- The states that the scheduler took so far. -/
def states (machine : Machine σ) : List State :=
  .idle :: (machine.view Event.state?).map Prod.snd

theorem Notes.states {moment : Nat} {added : List Event}
    (notes : Notes machine moment added next) :
    next.states = machine.states ++ added.filterMap Event.state? := by
  unfold Machine.states
  rw [notes.view, List.map_append, List.map_map]
  simp [Function.comp_def]

/-- How far a life has come. -/
inductive Lives (machine : Machine σ) : Prop
  | idle (activity : machine.activity = .idle) (state : machine.state = .idle)
      (states : machine.states = [.idle])
  | delivering {due : Nat} {reply : Reply} {time : Int64} (rounds : Nat)
      (activity : machine.activity = .delivering due reply time)
      (state : machine.state = .delivering)
      (states : machine.states = State.begun rounds ++ [.building, .serializing, .delivering])
  | waiting {due : Nat} (rounds : Nat) (activity : machine.activity = .waiting due)
      (state : machine.state = .waiting)
      (states : machine.states =
        State.begun rounds ++ [.building, .serializing, .delivering, .waiting])
  | ended {result : Except Error Summary} {ending : List State} (rounds : Nat)
      (activity : machine.activity = .ended result) (state : machine.state = .stopped)
      (isEnding : ending ∈ State.endings) (states : machine.states = State.begun rounds ++ ending)

theorem lives_of_proceeds (rounds : Nat) (states : machine.states = State.begun rounds)
    (proceeds : Proceeds world config machine next) : Lives next := by
  cases proceeds with
  | finished asked =>
      refine .ended rounds rfl rfl State.stopped_mem_endings ?_
      rw [(notes_finish machine).states, states]
      rfl
  | published unasked written publishes =>
      refine .delivering rounds publishes.activity publishes.state ?_
      rw [Notes.states publishes.trace, states]
      rfl
  | failed unasked refused fails =>
      obtain ⟨misshape, trace⟩ := fails.trace
      obtain ⟨_, activity⟩ := fails.activity
      refine .ended rounds activity fails.state State.unwritten_mem_endings ?_
      rw [Notes.states trace, states]
      rfl

/-- What others note changes nothing of a life. -/
theorem Lives.of_notes (lives : Lives machine) (activity : next.activity = machine.activity)
    (state : next.state = machine.state) (states : next.states = machine.states) :
    Lives next := by
  cases lives with
  | idle activity' state' states' =>
      exact .idle (activity.trans activity') (state.trans state') (states.trans states')
  | delivering rounds activity' state' states' =>
      exact .delivering rounds (activity.trans activity') (state.trans state')
        (states.trans states')
  | waiting rounds activity' state' states' =>
      exact .waiting rounds (activity.trans activity') (state.trans state')
        (states.trans states')
  | ended rounds activity' state' isEnding states' =>
      exact .ended rounds (activity.trans activity') (state.trans state') isEnding
        (states.trans states')

theorem Lives.states_of_idle (lives : Lives machine) (idle : machine.state = .idle) :
    machine.states = [.idle] := by
  cases lives with
  | idle activity state states => exact states
  | delivering rounds activity state => simp [state] at idle
  | waiting rounds activity state => simp [state] at idle
  | ended rounds activity state => simp [state] at idle

theorem Lives.states_of_delivering (lives : Lives machine) {due : Nat} {reply : Reply}
    {time : Int64} (delivers : machine.activity = .delivering due reply time) :
    ∃ rounds, machine.states = State.begun rounds ++ [.building, .serializing, .delivering] := by
  cases lives with
  | delivering rounds activity state states => exact ⟨rounds, states⟩
  | idle activity => simp [activity] at delivers
  | waiting rounds activity => simp [activity] at delivers
  | ended rounds activity => simp [activity] at delivers

theorem Lives.states_of_waiting (lives : Lives machine) {due : Nat}
    (waits : machine.activity = .waiting due) :
    ∃ rounds, machine.states =
      State.begun rounds ++ [.building, .serializing, .delivering, .waiting] := by
  cases lives with
  | waiting rounds activity state states => exact ⟨rounds, states⟩
  | idle activity => simp [activity] at waits
  | delivering rounds activity => simp [activity] at waits
  | ended rounds activity => simp [activity] at waits

theorem states_counted (machine : Machine σ) (reply : Reply) (time : Int64) :
    (machine.counted reply time).states = machine.states ++ [.waiting] := by
  rw [(notes_counted machine reply time).states, List.filterMap_append,
    filterMap_outcomeEvents _ _ _ (fun _ => rfl) (fun _ _ => rfl)]
  rfl

/-- Every advance goes on with a life. -/
theorem lives_advance (lives : Lives machine) (advance : Advance world config machine next) :
    Lives next := by
  cases advance with
  | @aside moment doing agenda event ahead early is =>
      have notes := notes_aside machine moment agenda event
      refine lives.of_notes rfl rfl ?_
      rw [notes.states]
      rcases is with ⟨-, rfl⟩ | ⟨-, -, rfl⟩ <;> simp [Event.state?]
  | @asked moment agenda ahead early late =>
      have notes := notes_asked machine moment agenda
      refine lives.of_notes rfl rfl ?_
      rw [notes.states]
      simp [Event.state?]
  | @cut moment due agenda ahead early waits =>
      obtain ⟨rounds, states⟩ := lives.states_of_waiting waits
      have notes := notes_cut machine moment agenda
      refine .ended rounds rfl rfl State.delivered_mem_endings ?_
      rw [notes.states, states, List.append_assoc]
      rfl
  | @begun moment agenda _ ahead idle proceeds =>
      have notes := notes_begun machine moment agenda
      refine lives_of_proceeds 0 ?_ proceeds
      rw [notes.states, lives.states_of_idle idle]
      rfl
  | @finished due reply time delivers first asked =>
      obtain ⟨rounds, states⟩ := lives.states_of_delivering delivers
      refine .ended rounds rfl rfl State.delivered_mem_endings ?_
      rw [(notes_finish _).states, states_counted]
      change machine.states ++ _ ++ _ = _
      rw [states]
      simp [Event.state?]
  | @paused due reply time delivers first goesOn =>
      obtain ⟨rounds, states⟩ := lives.states_of_delivering delivers
      refine .waiting rounds rfl rfl ?_
      change (Machine.counted { machine with moment := due } reply time).states = _
      rw [states_counted]
      change machine.states ++ _ = _
      rw [states]
      simp
  | @resumed due _ waits first proceeds =>
      obtain ⟨rounds, states⟩ := lives.states_of_waiting waits
      have notes := notes_resumed machine due
      refine lives_of_proceeds (rounds + 1) ?_ proceeds
      rw [notes.states, states, State.begun_succ]
      simp [Event.state?, State.round]

/-- A life so far begins a word of the lifecycle. -/
theorem Lives.exists_word (lives : Lives machine) :
    ∃ word ∈ State.lifecycle, machine.states <+: word := by
  cases lives with
  | idle activity state states =>
      refine ⟨_, State.mem_lifecycle 0 State.stopped_mem_endings, ?_⟩
      rw [states]
      exact ⟨[.running, .stopped], rfl⟩
  | delivering rounds activity state states =>
      refine ⟨_, State.mem_lifecycle rounds State.delivered_mem_endings, ?_⟩
      rw [states]
      exact ⟨[.waiting, .stopped], by simp⟩
  | waiting rounds activity state states =>
      refine ⟨_, State.mem_lifecycle rounds State.delivered_mem_endings, ?_⟩
      rw [states]
      exact ⟨[.stopped], by simp⟩
  | ended rounds activity state isEnding states =>
      exact ⟨_, State.mem_lifecycle rounds isEnding, states ▸ List.prefix_refl _⟩

/-- The last state that was taken is the one that is seen. -/
theorem Lives.getLast?_states (lives : Lives machine) :
    machine.states.getLast? = some machine.state := by
  cases lives with
  | idle activity state states => rw [states, state]; rfl
  | delivering rounds activity state states => rw [states, state]; simp
  | waiting rounds activity state states => rw [states, state]; simp
  | ended rounds activity state isEnding states =>
      rw [states, state]
      rcases isEnding with ((rfl | rfl) | rfl) | rfl <;> simp

/-- What the life of a scheduler is like, whose first memory is `memory`. -/
structure Life (world : World σ) (memory : σ) (machine : Machine σ) : Prop where
  /-- The states so far begin a word of the lifecycle. -/
  begins : ∃ word ∈ State.lifecycle, machine.states <+: word
  /-- A run that has ended has spelled a whole word. -/
  whole : ∀ result, machine.result? = some result → machine.states ∈ State.lifecycle
  /-- The last state is the one that is seen. -/
  last : machine.states.getLast? = some machine.state
  /-- Stopped is never left. -/
  stopped : ∀ i, machine.states[i]? = some .stopped → machine.states[i + 1]? = none
  /-- Idle is never entered. -/
  idle : ∀ i, machine.states[i + 1]? ≠ some .idle
  /-- No delivery is broken off. -/
  delivered : ∀ i, machine.states[i]? = some .delivering → machine.states[i + 1]? ≠ some .stopped
  /-- The publisher is called once on each entry into delivering, and at no other time. -/
  onEntry : CallsOnEntry (machine.events.map Prod.snd)
  /-- What the events tell of these calls agrees with any record that the publisher keeps. -/
  recorded : ∀ record, world.Records (fun payload _ => payload) record →
    record machine.memory = record memory ++ (machine.view Event.payload?).map Prod.snd

/-- Neighbours in a life may follow each other. -/
theorem Lives.mayFollow (lives : Lives machine) {i : Nat} {before after : State}
    (first : machine.states[i]? = some before) (second : machine.states[i + 1]? = some after) :
    State.mayFollow before after = true := by
  obtain ⟨word, isWord, rest, rfl⟩ := lives.exists_word
  have chain := (List.isChain_append.mp (State.isChain_of_mem_lifecycle isWord)).1
  rw [List.isChain_iff_getElem] at chain
  obtain ⟨bound, is⟩ := List.getElem?_eq_some_iff.mp second
  obtain ⟨_, was⟩ := List.getElem?_eq_some_iff.mp first
  have follows := chain i bound
  rwa [was, is] at follows

/-- Every scheduler lives by the lifecycle, whatever the world is like and whatever
others do at whatever moments. -/
theorem life_of_run (world : World σ) (config : Config) (memory : σ)
    (agenda : List (Nat × Call)) (limit : Nat) :
    Life world memory (({ memory, agenda } : Machine σ).run world config limit) := by
  have lives : Lives (({ memory, agenda } : Machine σ).run world config limit) :=
    run_induction _ lives_advance (.idle rfl rfl rfl) limit
  constructor
  · exact lives.exists_word
  · intro result ended
    cases lives with
    | ended rounds activity state isEnding states =>
        exact states ▸ State.mem_lifecycle rounds isEnding
    | idle activity => simp [result?, activity] at ended
    | delivering rounds activity => simp [result?, activity] at ended
    | waiting rounds activity => simp [result?, activity] at ended
  · exact lives.getLast?_states
  · intro i stopped
    cases behind : (({ memory, agenda } : Machine σ).run world config limit).states[i + 1]? with
    | none => rfl
    | some after => cases after <;> simpa [State.mayFollow] using lives.mayFollow stopped behind
  · intro i idle
    obtain ⟨bound, -⟩ := List.getElem?_eq_some_iff.mp idle
    have follows := lives.mayFollow (List.getElem?_eq_getElem (Nat.lt_of_succ_lt bound)) idle
    revert follows
    cases (({ memory, agenda } : Machine σ).run world config limit).states[i] <;>
      simp [State.mayFollow]
  · intro i delivering stopped
    simpa [State.mayFollow] using lives.mayFollow delivering stopped
  · refine run_induction (fun machine => CallsOnEntry (machine.events.map Prod.snd))
      (fun calls advance => ?_) (by exact .nil) limit
    obtain ⟨moment, added, notes, calls'⟩ := advance.exists_calls
    rw [notes.events, List.map_append, List.map_map]
    exact calls.append (by simpa [Function.comp_def] using calls'.onEntry)
  · intro record records
    refine run_induction (fun machine =>
      record machine.memory = record memory ++ (machine.view Event.payload?).map Prod.snd)
      (fun recorded advance => ?_) (by simp [view, events]) limit
    obtain ⟨moment, added, notes, calls⟩ := advance.exists_calls
    rw [calls.recorded record records, recorded, notes.view, List.map_append, List.map_map,
      List.append_assoc]
    simp [Function.comp_def]

/-- A world whose publisher remembers the updates and loses them. -/
def forgottenWorld : World (List Payload) where
  clock moment _ := Int64.ofNat moment
  draw record := (⟨1⟩, ⟨2⟩, record)
  deliver record payload :=
    ({ delay := 1000, outcome := .transportFailure "gone" }, record ++ [payload])

/-- A run in it: another run is refused in the first pause, and the third delivery is asked to
be the last. -/
def forgottenRun : Machine (List Payload) :=
  ({ memory := [], agenda := [(0, .run), (3000, .run), (12500, .cancel)] } :
    Machine (List Payload)).run forgottenWorld Config.exampleConfig 9

theorem life_of_forgottenRun :
    forgottenRun.states ∈ State.lifecycle ∧
      forgottenRun.states = State.begun 2 ++
        [.building, .serializing, .delivering, .waiting, .stopped] ∧
      forgottenRun.events.any (· matches (3000, .refused (.alreadyRun .waiting))) ∧
      forgottenRun.memory = (forgottenRun.view Event.payload?).map Prod.snd ∧
      forgottenRun.memory.length = 3 := by
  have life : Life forgottenWorld [] forgottenRun :=
    life_of_run forgottenWorld Config.exampleConfig [] _ 9
  have records : forgottenWorld.Records (fun payload _ => payload) id :=
    ⟨fun _ _ => rfl, fun _ => rfl, fun _ _ => rfl⟩
  have returned : forgottenRun.result?.isSome = true := by decide +kernel
  obtain ⟨result, ended⟩ := Option.isSome_iff_exists.mp returned
  refine ⟨life.whole result ended, by decide +kernel, by decide +kernel, ?_, by decide +kernel⟩
  exact life.recorded id records

end Machine

end ContextStream.Scheduler
