import ContextStream.Proofs.Assertion.Verdict
import ContextStream.Proofs.Delivery.Update
import ContextStream.Proofs.Scheduler.Places
import ContextStream.Scheduler.Clock

/-!
# Timestamps

A cycle reads the clock once, when it begins. What the clock shows then is the time of its
payload, of the annotation in its document, and of its record in the summary, wherever the
clock is moved meanwhile. If it is smaller than the time of the cycle before, a warning is
noted at the end of the cycle, and nothing depends on that: `timestamps_of_run` says so of
every run and every way to move its clock.
-/

namespace ContextStream

/-! ## Times in documents -/

/-- The document of a payload tells one value, which is a time, and of which node. -/
def Payload.Stamps (payload : Payload) (stampId : Iri) (time : Int64) : Prop :=
  ∃ triples, Turtle.read? payload.update.document = some triples ∧
    ∀ node object, ⟨node, Vocabulary.hasValue, object⟩ ∈ triples ↔
      node = stampId ∧ object = .integer time

theorem Assertion.mem_triples_hasValue_iff {a : Assertion} {node : Iri} {object : Term} :
    ⟨node, Vocabulary.hasValue, object⟩ ∈ a.triples ↔
      node = a.stamp.id ∧ object = .integer a.stamp.time := by
  simp [triples, Vocabulary.properties_apart]

namespace Scheduler

/-! ## Clocks that are moved -/

namespace Clock

/-- What moves a clock. -/
inductive Move where
  | set (millis : Int64)
  | advance (millis : Int64)

/-- A clock after one move. -/
def move (clock : Clock) : Move → Clock
  | .set millis => clock.set millis
  | .advance millis => clock.advance millis

/-- A clock after some moves, the first one first. -/
def after (clock : Clock) (moves : List Move) : Clock :=
  moves.foldl move clock

/-- What a clock shows is a date. -/
theorem isDate_now (clock : Clock) : firstDate ≤ clock.now ∧ clock.now ≤ lastDate := by
  unfold now
  split
  · next isDate => exact isDate
  · decide

end Clock

variable {σ : Type}

/-- A world with a clock that shows a time at first and is moved then. The moves up to a
moment may depend on what is remembered, as when the publisher moves the clock. -/
def World.withClock (world : World σ) (millis : Int64) (moves : Nat → σ → List Clock.Move) :
    World σ :=
  { world with clock := fun moment memory => ((⟨millis⟩ : Clock).after (moves moment memory)).now }

/-! ## The time of a cycle -/

namespace Timetable

variable {table : Timetable σ} {k : Nat}

/-- The document of a cycle tells its time. -/
theorem Writes.stamps (writes : table.Writes k) :
    (table.payload k).Stamps (table.built k).stamp.id (table.time k) := by
  obtain ⟨document, written⟩ := writes
  obtain ⟨apart, domain⟩ := Assertion.exists_document_iff.mp ⟨document, written⟩
  obtain ⟨text, triples, is, stated, perm, -⟩ :=
    Config.exists_document domain (fun same => apart (congrArg Iri.ofUuid same)) (table.time k)
  obtain rfl := Turtle.eq_write_of_document is
  refine ⟨triples, stated, fun node object => ?_⟩
  rw [perm.mem_iff]
  exact Assertion.mem_triples_hasValue_iff

/-- The time of a cycle is what a moved clock shows when the cycle begins, and it is the time
of the update wherever one is told. -/
structure Timed (table : Timetable σ) (millis : Int64) (moves : Nat → σ → List Clock.Move)
    (k : Nat) : Prop where
  shown : table.time k =
    ((⟨millis⟩ : Clock).after (moves (table.starts k) (table.beginning k).memory)).now
  isDate : Clock.firstDate ≤ table.time k ∧ table.time k ≤ Clock.lastDate
  payload : (table.payload k).update.timestamp = table.time k
  graph : ∀ node object, ⟨node, Vocabulary.hasValue, object⟩ ∈ (table.built k).toGraph.triples ↔
    node = (table.built k).stamp.id ∧ object = .integer (table.time k)
  document : table.Writes k → (table.payload k).Stamps (table.built k).stamp.id (table.time k)
  /-- How long the run waits does not depend on what the clock shows. -/
  next : table.starts (k + 1) = table.starts k + (table.reply k).delay + table.config.interval

theorem timed_of_withClock {world : World σ} {millis : Int64} {moves : Nat → σ → List Clock.Move}
    (clocked : table.world = world.withClock millis moves) (k : Nat) :
    table.Timed millis moves k where
  shown := by
    rw [time, clocked]
    rfl
  isDate := by
    rw [time, clocked]
    exact Clock.isDate_now _
  payload := rfl
  graph node object := by
    rw [Assertion.toGraph, Graph.mem_ofList]
    exact Assertion.mem_triples_hasValue_iff
  document := Writes.stamps
  next := rfl

end Timetable

/-! ## Looks at the clock -/

namespace Timetable

variable (table : Timetable σ)

/-- The moments of the first cycles and what the clock shows at each of them. -/
def looks (count : Nat) : List (Nat × Int64) :=
  (List.range count).map fun k => (table.starts k, table.time k)

theorem looks_succ (count : Nat) :
    table.looks (count + 1) = table.looks count ++ [(table.starts count, table.time count)] := by
  simp [looks, List.range_succ]

/-- A whole cycle notes one look at the clock, at its beginning. -/
theorem time?_cycles (count : Nat) :
    (table.cycles count).filterMap (fun entry => (Event.time? entry.2).map (entry.1, ·)) =
      table.looks count := by
  induction count with
  | zero => rfl
  | succ count ih =>
      rw [cycles_succ, looks_succ, List.filterMap_append, ih, cycle, begun,
        List.filterMap_append, Machine.filterMap_map_moment, Machine.filterMap_map_moment,
        filterMap_closing _ _ _ (fun _ => rfl) (fun _ _ => rfl) rfl]
      rfl

/-- So does a cycle that is under way or has failed. -/
theorem time?_cycles_append {count : Nat} {underway : List (Nat × Event)}
    (left : table.Underway count underway) :
    (table.cycles count ++ underway).filterMap
        (fun entry => (Event.time? entry.2).map (entry.1, ·)) =
      table.looks (if underway.isEmpty then count else count + 1) := by
  rw [List.filterMap_append, table.time?_cycles]
  cases left with
  | nothing => exact List.append_nil _
  | delivering writes => exact (table.looks_succ count).symm
  | failed error unwritten => exact (table.looks_succ count).symm

end Timetable

namespace Machine

/-- What is noted of the clock are looks of a timetable, and every record of the real ones
agrees. -/
structure Looks (world : World σ) (memory : σ) (looks : List (Nat × Int64))
    (machine : Machine σ) : Prop where
  noted : machine.view Event.time? = looks
  recorded : ∀ record, world.RecordsLooks record →
    record machine.memory = record memory ++ looks.map Prod.fst

theorem time?_of_ofCycle? {event : Event} (foreign : event.ofCycle? = none) :
    event.time? = none := by
  cases event <;> first | rfl | cases foreign

/-- The clock is looked at just when it is noted, once in each cycle. -/
theorem looks_run {table : Timetable σ} {count : Nat} {underway : List (Nat × Event)}
    (world : World σ) (config : Config) (memory : σ) (agenda : List (Nat × Call)) (limit : Nat)
    (left : table.Underway count underway)
    (recounts : Recounts table count underway
      (({ memory, agenda } : Machine σ).run world config limit)) :
    Looks world memory (table.looks (if underway.isEmpty then count else count + 1))
      (({ memory, agenda } : Machine σ).run world config limit) := by
  have noted := view_eq_filterMap_chronicle
    (({ memory, agenda } : Machine σ).run world config limit) Event.time?
    fun _ => time?_of_ofCycle?
  rw [recounts.chronicle, table.time?_cycles_append left] at noted
  refine ⟨noted, fun record records => ?_⟩
  rw [← noted]
  refine run_induction (fun machine =>
    record machine.memory = record memory ++ (machine.view Event.time?).map Prod.fst)
    (fun looked advance => ?_) (by simp [view, events]) limit
  obtain ⟨moment, added, notes, calls⟩ := advance.exists_calls
  rw [calls.looked record records, looked, notes.view, List.map_append, List.map_map,
    List.append_assoc]
  rfl

end Machine

/-! ## Warnings in the log -/

/-- The scheduler's own warning about an event. -/
def Event.warning? (config : Config) : Event → Option Log.Entry
  | .reported _ => none
  | event => (event.entries config).find? (·.level = .warn)

theorem Event.warning?_eq (config : Config) (event : Event) :
    event.warning? config =
      match event with
      | .clockWentBack time last =>
          some (entry .warn ("Clock went backwards: " ++ toString time.toInt ++ " < " ++
            toString last.toInt))
      | _ => none := by
  cases event with
  | entered before after => cases before <;> rfl
  | _ => rfl

/-- Whether an event is a warning about the clock. -/
def Event.isWarning : Event → Bool
  | .clockWentBack _ _ => true
  | _ => false

/-- The scheduler's own warnings about some events, and when. -/
def warnings (config : Config) (events : List (Nat × Event)) : List (Nat × Log.Entry) :=
  events.filterMap fun entry => (entry.2.warning? config).map (entry.1, ·)

theorem warnings_append (config : Config) (front back : List (Nat × Event)) :
    warnings config (front ++ back) = warnings config front ++ warnings config back :=
  List.filterMap_append

theorem warnings_map_moment (config : Config) (moment : Nat) (events : List Event) :
    warnings config (events.map (moment, ·)) =
      (events.filterMap (Event.warning? config)).map (moment, ·) :=
  Machine.filterMap_map_moment _ moment events

namespace Timetable

variable (table : Timetable σ) (config : Config)

/-- The warning of a cycle in the log. The first cycle has none. -/
def warningEntry? (table : Timetable σ) : Nat → Option Log.Entry
  | 0 => none
  | k + 1 =>
      if table.time (k + 1) < table.time k then
        some (entry .warn ("Clock went backwards: " ++ toString (table.time (k + 1)).toInt ++
          " < " ++ toString (table.time k).toInt))
      else none

theorem warnings_begun (k : Nat) : warnings config (table.begun k) = [] := by
  rw [begun, warnings_map_moment]
  simp [opening, giving, Event.warning?_eq]

theorem warnings_closing (k : Nat) :
    warnings config ((table.closing k).map (table.ends k, ·)) =
      ((table.warningEntry? k).map (table.ends k, ·)).toList := by
  have reported :
      ((table.reply k).entries.map Event.reported).filterMap (Event.warning? config) = [] := by
    rw [List.filterMap_eq_nil_iff]
    simp [Event.warning?_eq]
  rw [warnings_map_moment, closing, List.append_assoc, List.filterMap_append, reported]
  cases k with
  | zero => simp [Event.warning?_eq, warning, warningEntry?]
  | succ k =>
      rw [warning, warningEntry?]
      split <;> simp [Event.warning?_eq]

theorem warnings_cycles (count : Nat) :
    warnings config (table.cycles count) =
      (List.range count).filterMap fun k => (table.warningEntry? k).map (table.ends k, ·) := by
  rw [List.filterMap_eq_flatMap_toList, cycles, warnings, List.filterMap_flatMap]
  congr
  funext k
  exact (warnings_append config _ _).trans
    (congrArg₂ _ (table.warnings_begun config k) (table.warnings_closing config k))

/-- What is under way gives no warning yet. -/
theorem Underway.warnings {table : Timetable σ} {count : Nat} {underway : List (Nat × Event)}
    (left : table.Underway count underway) : Scheduler.warnings config underway = [] := by
  cases left with
  | nothing => rfl
  | delivering writes => exact table.warnings_begun config count
  | failed error unwritten =>
      rw [warnings_map_moment]
      simp [opening, Event.warning?_eq]

end Timetable

namespace Machine

variable {world : World σ} {config : Config} {machine : Machine σ} {table : Timetable σ}
  {count : Nat} {underway : List (Nat × Event)}

/-- The warnings of a run are those of its whole cycles. -/
theorem warnings_of_recounts (recounts : Recounts table count underway machine)
    (left : table.Underway count underway) (config : Config) :
    warnings config machine.events =
      (List.range count).filterMap fun k => (table.warningEntry? k).map (table.ends k, ·) := by
  have own : warnings config machine.events = warnings config machine.chronicle := by
    refine machine.view_eq_filterMap_chronicle (Event.warning? config) fun event foreign => ?_
    rw [Event.warning?_eq]
    cases event <;> first | rfl | cases foreign
  rw [own, recounts.chronicle, warnings_append, table.warnings_cycles, left.warnings,
    List.append_nil]

/-! ## Runs without warnings -/

/-- A machine with a further past. -/
def recalling (past : List (Nat × Event)) (machine : Machine σ) : Machine σ :=
  machine.retold (· ++ past) machine.agenda

variable {past : List (Nat × Event)}

theorem recalling_resume :
    (machine.recalling past).resume world config =
      (machine.resume world config).recalling past := by
  rw [recalling, retold_resume fun _ _ _ _ => rfl, recalling, agenda_resume]

theorem recalling_call (doing : Call) :
    (machine.recalling past).call world config doing =
      (machine.call world config doing).recalling past := by
  cases doing with
  | observe => rfl
  | cancel => rw [call, call, recalling, retold_cancel fun _ _ _ _ => rfl, recalling, agenda_cancel]
  | run =>
      rw [call, call]
      by_cases idle : machine.state = .idle
      · have agenda : (machine.start world config).agenda = machine.agenda := by
          rw [start, if_pos idle, agenda_proceed]
          rfl
        rw [recalling, retold_start (fun _ _ _ _ => rfl) idle, recalling, agenda]
      · rw [start, start, if_neg idle, if_neg (by exact idle)]
        rfl

/-- What has been noted has no influence on what is done. -/
theorem step?_recalling :
    (machine.recalling past).step? world config =
      (machine.step? world config).map (recalling past) := by
  have waits : (machine.recalling past).due? = machine.due? := rfl
  cases stepped : machine.step? world config with
  | none =>
      obtain ⟨done, idle⟩ := agenda_of_step?_eq_none stepped
      have done' : (machine.recalling past).agenda = [] := done
      simp [step?, done', waits, idle]
  | some next =>
      rcases step?_cases stepped with ⟨due, later, first, rfl⟩ | ⟨_, doing, _, ahead, early, rfl⟩
      · rw [step?_resume (by exact later) (by exact first), recalling_resume]
        rfl
      · rw [step?_call (by exact ahead) (by exact early), Option.map_some, ← recalling_call]
        rfl

/-- A machine without the notes of its warnings. -/
def unwarned (machine : Machine σ) : Machine σ :=
  { machine with trace := machine.trace.filter (!·.2.isWarning) }

/-- A run whose warnings are struck out as soon as they are noted. -/
def runUnwarned (world : World σ) (config : Config) : (limit : Nat) → Machine σ → Machine σ
  | 0, machine => machine
  | limit + 1, machine =>
      match machine.step? world config with
      | some next => next.unwarned.runUnwarned world config limit
      | none => machine

/-- Without a warning a machine goes on as with it. -/
theorem step?_unwarned :
    (machine.unwarned.step? world config).map unwarned =
      (machine.step? world config).map unwarned := by
  have strikes (past : List (Nat × Event)) :
      unwarned ∘ recalling (past.filter (!·.2.isWarning)) =
        (unwarned ∘ recalling past : Machine σ → Machine σ) := by
    funext other
    simp [unwarned, recalling, retold]
  let fresh : Machine σ := { machine with trace := [] }
  calc
    (machine.unwarned.step? world config).map unwarned =
        ((fresh.recalling (machine.trace.filter (!·.2.isWarning))).step? world config).map
          unwarned := rfl
    _ = (fresh.step? world config).map (unwarned ∘ recalling machine.trace) := by
        rw [step?_recalling, Option.map_map, strikes]
    _ = ((fresh.recalling machine.trace).step? world config).map unwarned := by
        rw [step?_recalling, Option.map_map]
    _ = (machine.step? world config).map unwarned := rfl

/-- A run in which no warning is noted does the same. -/
theorem unwarned_run (limit : Nat) :
    (machine.run world config limit).unwarned =
      machine.unwarned.runUnwarned world config limit := by
  induction limit generalizing machine with
  | zero => rfl
  | succ limit ih =>
      have same : (machine.unwarned.step? world config).map unwarned =
          (machine.step? world config).map unwarned := step?_unwarned
      cases stepped : machine.step? world config with
      | none =>
          rw [stepped, Option.map_none, Option.map_eq_none_iff] at same
          rw [run_of_step?_eq_none stepped, runUnwarned, same]
      | some next =>
          rw [stepped, Option.map_some, Option.map_eq_some_iff] at same
          obtain ⟨other, stepped', struck⟩ := same
          rw [run_succ stepped, ih, runUnwarned, stepped', ← struck]

/-! ## Runs -/

/-- Whatever time a clock shows at first, and wherever others or the publisher move it, between
the cycles or in them: each cycle reads it once, when it begins, and the value is the time of
its payload, its graph and document, and its record in the summary. The scheduler warns of the
clock at the end of just those cycles behind the first one whose time is smaller than that of
the cycle before, whatever became of its delivery. If its warnings are struck out at once, it
goes on in the same way. -/
theorem timestamps_of_run (world : World σ) (millis : Int64) (moves : Nat → σ → List Clock.Move)
    (config : Config) (memory : σ) (agenda : List (Nat × Call)) (limit : Nat) :
    let clocked := world.withClock millis moves
    let table := timetable clocked config memory agenda
    let final := ({ memory, agenda } : Machine σ).run clocked config limit
    (∀ k, table.Timed millis moves k) ∧
      (∃ count underway, table.Underway count underway ∧ (∀ k < count, table.Writes k) ∧
        final.chronicle = table.cycles count ++ underway ∧
        final.summary = table.recorded count ∧
        (∀ summary, final.result? = some (.ok summary) → summary = table.recorded count) ∧
        Looks clocked memory (table.looks (if underway.isEmpty then count else count + 1)) final ∧
        warnings config final.events =
          (List.range count).filterMap fun k => (table.warningEntry? k).map (table.ends k, ·)) ∧
      final.unwarned = ({ memory, agenda } : Machine σ).runUnwarned clocked config limit := by
  intro clocked table final
  obtain ⟨count, underway, left, recounts, returned⟩ :=
    chronicle_of_run clocked config memory agenda limit
  exact ⟨Timetable.timed_of_withClock rfl,
    ⟨count, underway, left, recounts.writes, recounts.chronicle, recounts.summary, returned,
      looks_run clocked config memory agenda limit left recounts,
      warnings_of_recounts recounts left config⟩, unwarned_run limit⟩

/-- A world that remembers when its clock was looked at. -/
def lookingWorld : World (List Nat) where
  clock _ _ := 0
  tick moment looks := looks ++ [moment]
  draw looks := (⟨1⟩, ⟨2⟩, looks)
  deliver looks _ := ({ delay := 4000, outcome := .rejected 503 "" }, looks)

/-- What moves its clock: during the first delivery it is advanced, in the pause behind it it is
set beyond all dates, and when that pause ends it is advanced beyond sixty-four bits. -/
def shakes (moment : Nat) (_ : List Nat) : List Clock.Move :=
  [.advance 7, .set 9000000000000000000, .advance 9000000000000000000].take (moment / 3000)

/-- A run in it. Another run is refused, and the third delivery is asked to be the last. -/
def shakenRun : Machine (List Nat) :=
  ({ memory := [], agenda := [(0, .run), (1000, .run), (20000, .cancel)] } :
    Machine (List Nat)).run (lookingWorld.withClock 1000 shakes) Config.exampleConfig 9

theorem timestamps_of_shakenRun :
    shakenRun.memory = (shakenRun.view Event.time?).map Prod.fst ∧
      shakenRun.view Event.time? = [(0, 1000), (9000, 0), (18000, 0)] ∧
      (shakenRun.view Event.payload?).map (fun entry => entry.2.update.timestamp) =
        [1000, 0, 0] ∧
      warnings Config.exampleConfig shakenRun.events =
        [(13000, entry .warn "Clock went backwards: 0 < 1000")] ∧
      shakenRun.unwarned =
        ({ memory := [], agenda := [(0, .run), (1000, .run), (20000, .cancel)] } :
          Machine (List Nat)).runUnwarned (lookingWorld.withClock 1000 shakes)
          Config.exampleConfig 9 := by
  obtain ⟨-, ⟨_, _, -, -, -, -, -, looks, -⟩, unwarned⟩ :=
    timestamps_of_run lookingWorld 1000 shakes Config.exampleConfig []
      [(0, .run), (1000, .run), (20000, .cancel)] 9
  have records : (lookingWorld.withClock 1000 shakes).RecordsLooks id :=
    ⟨fun _ _ => rfl, fun _ => rfl, fun _ _ => rfl⟩
  have recorded := looks.recorded id records
  rw [← looks.noted] at recorded
  exact ⟨recorded, by decide +kernel, by decide +kernel, by decide +kernel, unwarned⟩

end Machine

end Scheduler

end ContextStream
