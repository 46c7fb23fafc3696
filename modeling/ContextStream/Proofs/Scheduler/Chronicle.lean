import ContextStream.Proofs.Scheduler.Cadence

/-!
# The chronicle of a run

The events of a run that belong to its cycles, with their moments, are those of its
timetable: whole cycles one after the other, and behind them perhaps one that is under
way or has failed. This holds whatever others do, in whatever order, and `chronicle_of_run`
says it of every run.
-/

namespace ContextStream.Scheduler

variable {σ : Type}

/-- What is noted in a cycle. The beginning and the end of a run and what others do
belong to none. -/
def Event.ofCycle? : Event → Option Event
  | .started | .finished _ | .cancelRequested | .observed _ | .refused _ => none
  | .entered _ .idle | .entered _ .running | .entered _ .stopped => none
  | event => some event

theorem Event.eq_of_ofCycle? {event other : Event} (kept : event.ofCycle? = some other) :
    other = event := by
  unfold ofCycle? at kept
  split at kept <;> cases kept
  rfl

theorem Summary.lastTimestamp_record (summary : Summary) (outcome : Outcome) (time : Int64) :
    (summary.record outcome time).lastTimestamp = some time := by
  cases outcome <;> rfl

/-! ## The cycles of a timetable -/

namespace Timetable

/-- What the clock shows when a cycle begins. -/
def time (table : Timetable σ) (k : Nat) : Int64 :=
  table.world.clock (table.starts k) (table.beginning k).memory

/-- The update that a cycle makes. -/
def built (table : Timetable σ) (k : Nat) : Assertion :=
  (table.beginning k).built table.world table.config

/-- What a cycle notes until it writes its update. -/
def opening (table : Timetable σ) (k : Nat) : List Event :=
  [.entered .running .building, .clockRead (table.time k), .entered .building .serializing]

/-- What a cycle notes when it gives its update to the publisher. -/
def giving (table : Timetable σ) (k : Nat) : List Event :=
  [.built (table.built k).id (table.built k).toGraph.size (table.time k),
    .entered .serializing .delivering, .delivering (table.payload k)]

/-- The warning of a cycle: its time is smaller than that of the cycle before it. -/
def warning (table : Timetable σ) : Nat → List Event
  | 0 => []
  | k + 1 =>
      if table.time (k + 1) < table.time k then
        [.clockWentBack (table.time (k + 1)) (table.time k)]
      else []

/-- What a cycle notes when the publisher is done. -/
def closing (table : Timetable σ) (k : Nat) : List Event :=
  (table.reply k).entries.map .reported ++ .delivered (table.reply k).outcome ::
    table.warning k ++ [.entered .delivering .waiting]

/-- What a cycle notes up to its delivery, and when. -/
def begun (table : Timetable σ) (k : Nat) : List (Nat × Event) :=
  (table.opening k ++ table.giving k).map (table.starts k, ·)

/-- What a cycle notes, and when. -/
def cycle (table : Timetable σ) (k : Nat) : List (Nat × Event) :=
  table.begun k ++ (table.closing k).map (table.ends k, ·)

/-- What the first cycles note, and when. -/
def cycles (table : Timetable σ) (count : Nat) : List (Nat × Event) :=
  (List.range count).flatMap table.cycle

theorem cycles_succ (table : Timetable σ) (count : Nat) :
    table.cycles (count + 1) = table.cycles count ++ table.cycle count := by
  simp [cycles, List.range_succ]

/-- What the first cycles have counted. -/
def recorded (table : Timetable σ) : (count : Nat) → Summary
  | 0 => {}
  | k + 1 => (table.recorded k).record (table.reply k).outcome (table.time k)

/-- What a run may have noted behind its whole cycles. -/
inductive Underway (table : Timetable σ) (k : Nat) : List (Nat × Event) → Prop
  | nothing : Underway table k []
  | delivering (writes : table.Writes k) : Underway table k (table.begun k)
  | failed (error : Error) (unwritten : ¬table.Writes k) :
      Underway table k ((table.opening k ++ [Event.failed error]).map (table.starts k, ·))

end Timetable

/-- When others first ask for a run. -/
def firstRun? (agenda : List (Nat × Call)) : Option Nat :=
  (agenda.find? fun entry => entry.2 = .run).map Prod.fst

theorem firstRun?_run (moment : Nat) (agenda : List (Nat × Call)) :
    firstRun? ((moment, .run) :: agenda) = some moment := by
  simp [firstRun?]

theorem firstRun?_cons {doing : Call} (other : doing ≠ .run) (moment : Nat)
    (agenda : List (Nat × Call)) : firstRun? ((moment, doing) :: agenda) = firstRun? agenda := by
  simp [firstRun?, other]

namespace Machine

variable {table : Timetable σ} {machine next : Machine σ} {count : Nat}
  {underway : List (Nat × Event)}

/-- What is noted about the cycles, and when. -/
def chronicle (machine : Machine σ) : List (Nat × Event) :=
  machine.view Event.ofCycle?

/-- What only events of cycles tell is told by the chronicle. -/
theorem view_eq_filterMap_chronicle {β : Type} (machine : Machine σ) (tells : Event → Option β)
    (own : ∀ event, event.ofCycle? = none → tells event = none) :
    machine.view tells =
      machine.chronicle.filterMap fun entry => (tells entry.2).map (entry.1, ·) := by
  unfold chronicle view
  rw [List.filterMap_filterMap]
  apply List.filterMap_congr
  rintro ⟨moment, event⟩ -
  cases kept : event.ofCycle? with
  | none => simp [own event kept]
  | some other =>
      obtain rfl := Event.eq_of_ofCycle? kept
      simp

/-- At the end of a delivery its cycle closes. -/
theorem notes_closing (state : machine.state = .delivering)
    (summary : machine.summary = table.recorded count) :
    Notes machine machine.moment (table.closing count)
      (machine.counted (table.reply count) (table.time count)) := by
  have closing : table.closing count =
      machine.outcomeEvents (table.reply count) (table.time count) ++
        [.entered machine.state .waiting] := by
    unfold outcomeEvents Timetable.closing
    rw [summary, state]
    cases count with
    | zero => rfl
    | succ k => rw [Timetable.recorded, Summary.lastTimestamp_record, Timetable.warning]
  rw [closing]
  exact notes_counted machine _ _

/-- All that is noted at the end of a delivery belongs to the cycle. -/
theorem filterMap_ofCycle?_closing (table : Timetable σ) (k : Nat) :
    (table.closing k).filterMap Event.ofCycle? = table.closing k := by
  have all : ∀ event ∈ table.closing k, event.ofCycle? = some event := by
    intro event member
    unfold Timetable.closing at member
    rcases List.mem_append.mp member with before | last
    · rcases List.mem_append.mp before with reported | behind
      · obtain ⟨entry, -, rfl⟩ := List.mem_map.mp reported
        rfl
      · rcases List.mem_cons.mp behind with rfl | warning
        · rfl
        · cases k with
          | zero => cases warning
          | succ k =>
              rw [Timetable.warning] at warning
              split_ifs at warning
              · obtain rfl := List.mem_singleton.mp warning
                rfl
              · cases warning
    · obtain rfl := List.mem_singleton.mp last
      rfl
  rw [List.filterMap_congr all, List.filterMap_some]

/-! ## Where a run stands -/

/-- A run has noted and counted some whole cycles of a timetable, and noted something
behind them. -/
structure Recounts (table : Timetable σ) (count : Nat) (underway : List (Nat × Event))
    (machine : Machine σ) : Prop where
  writes : ∀ k < count, table.Writes k
  chronicle : machine.chronicle = table.cycles count ++ underway
  summary : machine.summary = table.recorded count

/-- What belongs to no cycle does not change what a run recounts. -/
theorem Recounts.of_notes (recounts : Recounts table count underway machine) {moment : Nat}
    {added : List Event} (notes : Notes machine moment added next)
    (silent : added.filterMap Event.ofCycle? = []) (summary : next.summary = machine.summary) :
    Recounts table count underway next where
  writes := recounts.writes
  chronicle := by
    rw [Machine.chronicle, notes.view, silent, List.map_nil, List.append_nil]
    exact recounts.chronicle
  summary := summary.trans recounts.summary

/-- How far a run has come in its timetable. -/
inductive Progress (table : Timetable σ) (machine : Machine σ) : Prop
  | ahead (state : machine.state = .idle) (activity : machine.activity = .idle)
      (memory : machine.memory = table.memory)
      (first : ∀ moment ∈ firstRun? machine.agenda, moment = table.start)
      (recounts : Recounts table 0 [] machine)
  | delivering (k : Nat) (writes : table.Writes k)
      (activity : machine.activity = .delivering (table.ends k) (table.reply k) (table.time k))
      (state : machine.state = .delivering)
      (memory : machine.memory = (table.beginning (k + 1)).memory)
      (recounts : Recounts table k (table.begun k) machine)
  | waiting (k : Nat) (activity : machine.activity = .waiting (table.starts k))
      (state : machine.state = .waiting) (memory : machine.memory = (table.beginning k).memory)
      (recounts : Recounts table k [] machine)
  | ended {underway : List (Nat × Event)} (k : Nat) (result : Except Error Summary)
      (activity : machine.activity = .ended result) (state : machine.state = .stopped)
      (is : ∀ summary, result = .ok summary → summary = machine.summary)
      (left : table.Underway k underway) (recounts : Recounts table k underway machine)

/-- What changes nothing but the agenda leaves a run where it is. -/
theorem Progress.of_notes (progress : Progress table machine) {moment : Nat} {added : List Event}
    (notes : Notes machine moment added next) (silent : added.filterMap Event.ofCycle? = [])
    (same : next.activity = machine.activity ∧ next.state = machine.state ∧
      next.memory = machine.memory ∧ next.summary = machine.summary)
    (agenda : machine.state = .idle → firstRun? next.agenda = firstRun? machine.agenda) :
    Progress table next := by
  obtain ⟨activity, state, memory, summary⟩ := same
  cases progress with
  | ahead state' activity' memory' first recounts =>
      refine .ahead (state.trans state') (activity.trans activity') (memory.trans memory') ?_
        (recounts.of_notes notes silent summary)
      rw [agenda state']
      exact first
  | delivering k writes activity' state' memory' recounts =>
      exact .delivering k writes (activity.trans activity') (state.trans state')
        (memory.trans memory') (recounts.of_notes notes silent summary)
  | waiting k activity' state' memory' recounts =>
      exact .waiting k (activity.trans activity') (state.trans state') (memory.trans memory')
        (recounts.of_notes notes silent summary)
  | ended k result activity' state' is left recounts =>
      refine .ended k result (activity.trans activity') (state.trans state') ?_ left
        (recounts.of_notes notes silent summary)
      rw [summary]
      exact is

/-- A run that finishes leaves nothing behind its whole cycles. -/
theorem progress_finish (recounts : Recounts table count [] machine) :
    Progress table machine.finish := by
  refine .ended count _ rfl rfl ?_ .nothing (recounts.of_notes (notes_finish machine) rfl rfl)
  rintro summary ⟨⟩
  rfl

/-- A cycle that begins at its time is the next one of the timetable. -/
theorem progress_of_publishes (recounts : Recounts table count [] machine)
    (running : machine.state = .running) (moment : machine.moment = table.starts count)
    (memory : machine.memory = (table.beginning count).memory) (writes : table.Writes count)
    (publishes : Publishes table.world table.config machine next) : Progress table next := by
  obtain ⟨time, built, payload, answer⟩ := cycle_congr table.world table.config moment memory
  have notes : Notes machine machine.moment _ next := publishes.trace
  refine .delivering count writes ?_ publishes.state ?_ ⟨recounts.writes, ?_, ?_⟩
  · rw [publishes.activity, answer, moment, time]
    rfl
  · rw [publishes.memory, answer]
    rfl
  · rw [chronicle, notes.view, running, time, built, payload, moment]
    exact congrArg (· ++ table.begun count) (recounts.chronicle.trans (List.append_nil _))
  · exact publishes.summary.trans recounts.summary

/-- A cycle that fails in front of the publisher is the last one. -/
theorem progress_of_fails (recounts : Recounts table count [] machine)
    (running : machine.state = .running) (moment : machine.moment = table.starts count)
    (memory : machine.memory = (table.beginning count).memory) (unwritten : ¬table.Writes count)
    (fails : Fails table.world machine next) : Progress table next := by
  obtain ⟨misshape, trace⟩ := fails.trace
  obtain ⟨_, activity⟩ := fails.activity
  have notes : Notes machine machine.moment _ next := trace
  refine .ended count _ activity fails.state nofun (.failed (.malformedGraph misshape) unwritten)
    ⟨recounts.writes, ?_, fails.summary.trans recounts.summary⟩
  rw [chronicle, notes.view, running, (cycle_congr _ table.config moment memory).1, moment]
  exact congrArg (· ++ (table.opening count ++ [Event.failed _]).map (table.starts count, ·))
    (recounts.chronicle.trans (List.append_nil _))

/-- A run that goes on at the time of its next cycle comes to it. -/
theorem progress_of_proceeds (recounts : Recounts table count [] machine)
    (running : machine.state = .running) (moment : machine.moment = table.starts count)
    (memory : machine.memory = (table.beginning count).memory)
    (proceeds : Proceeds table.world table.config machine next) : Progress table next := by
  have built := (cycle_congr table.world table.config moment memory).2.1
  cases proceeds with
  | finished asked => exact progress_finish recounts
  | @published _ document unasked written publishes =>
      rw [built] at written
      exact progress_of_publishes recounts running moment memory ⟨document, written⟩ publishes
  | failed unasked refused fails =>
      rw [built] at refused
      refine progress_of_fails recounts running moment memory ?_ fails
      rintro ⟨document, written⟩
      cases written.symm.trans refused

/-- The end of a delivery comes at its time and makes its cycle whole. -/
theorem Progress.settles (progress : Progress table machine) {due : Nat} {reply : Reply}
    {time : Int64} (delivers : machine.activity = .delivering due reply time) :
    ∃ k, due = table.ends k ∧ machine.memory = (table.beginning (k + 1)).memory ∧
      Recounts table (k + 1) [] ({ machine with moment := due }.counted reply time) := by
  cases progress with
  | ahead _ activity => simp [activity] at delivers
  | waiting k activity => simp [activity] at delivers
  | ended k result activity => simp [activity] at delivers
  | delivering k writes activity state memory recounts =>
      obtain ⟨rfl, rfl, rfl⟩ := Activity.delivering.inj (activity.symm.trans delivers)
      have notes : Notes { machine with moment := table.ends k } (table.ends k) (table.closing k)
          ({ machine with moment := table.ends k }.counted (table.reply k) (table.time k)) :=
        notes_closing state recounts.summary
      refine ⟨k, rfl, memory, fun j within => ?_, ?_, ?_⟩
      · rcases Nat.lt_succ_iff_lt_or_eq.mp within with earlier | rfl
        · exact recounts.writes j earlier
        · exact writes
      · rw [chronicle, notes.view, filterMap_ofCycle?_closing, table.cycles_succ,
          List.append_nil, Timetable.cycle, ← List.append_assoc]
        exact congrArg (· ++ (table.closing k).map (table.ends k, ·)) recounts.chronicle
      · exact congrArg (·.record (table.reply k).outcome (table.time k)) recounts.summary

/-- Every advance goes on in the timetable. -/
theorem progress_advance (progress : Progress table machine)
    (advance : Advance table.world table.config machine next) : Progress table next := by
  cases advance with
  | @aside moment doing agenda event ahead early is =>
      refine progress.of_notes (notes_aside machine moment agenda event) ?_ ⟨rfl, rfl, rfl, rfl⟩
        fun idle => ?_
      · rcases is with ⟨-, rfl⟩ | ⟨-, -, rfl⟩ <;> rfl
      · rcases is with ⟨rfl, -⟩ | ⟨-, begun, -⟩
        · rw [ahead, firstRun?_cons (by decide)]
          rfl
        · exact absurd idle begun
  | @asked moment agenda ahead early late =>
      refine progress.of_notes (notes_asked machine moment agenda) rfl ⟨rfl, rfl, rfl, rfl⟩
        fun _ => ?_
      rw [ahead, firstRun?_cons (by decide)]
      rfl
  | @cut moment due agenda ahead early waits =>
      cases progress with
      | ahead _ activity => simp [activity] at waits
      | delivering k _ activity => simp [activity] at waits
      | ended k result activity => simp [activity] at waits
      | waiting k activity state memory recounts =>
          exact progress_finish (recounts.of_notes (notes_asked machine moment agenda) rfl rfl)
  | @begun moment agenda _ ahead idle proceeds =>
      cases progress with
      | delivering k _ _ state => simp [state] at idle
      | waiting k _ state => simp [state] at idle
      | ended k result _ state => simp [state] at idle
      | ahead state activity memory first recounts =>
          have now : moment = table.start := first moment (by simp [ahead, firstRun?_run])
          exact progress_of_proceeds
            (recounts.of_notes (notes_begun machine moment agenda) rfl rfl) rfl now memory proceeds
  | finished delivers first asked =>
      obtain ⟨k, -, -, recounts⟩ := progress.settles delivers
      exact progress_finish recounts
  | @paused due reply time delivers first goesOn =>
      obtain ⟨k, rfl, memory, recounts⟩ := progress.settles delivers
      exact .waiting (k + 1) rfl rfl memory
        ⟨recounts.writes, recounts.chronicle, recounts.summary⟩
  | @resumed due _ waits first proceeds =>
      cases progress with
      | ahead _ activity => simp [activity] at waits
      | delivering k _ activity => simp [activity] at waits
      | ended k result activity => simp [activity] at waits
      | waiting k activity state memory recounts =>
          obtain rfl := Activity.waiting.inj (activity.symm.trans waits)
          exact progress_of_proceeds
            (recounts.of_notes (notes_resumed machine (table.starts k)) rfl rfl) rfl rfl memory
            proceeds

/-- The timetable of the run that an agenda begins. -/
def timetable (world : World σ) (config : Config) (memory : σ) (agenda : List (Nat × Call)) :
    Timetable σ where
  world := world
  config := config
  start := (firstRun? agenda).getD 0
  memory := memory

theorem progress_run (world : World σ) (config : Config) (memory : σ)
    (agenda : List (Nat × Call)) (limit : Nat) :
    Progress (timetable world config memory agenda)
      (({ memory, agenda } : Machine σ).run world config limit) := by
  refine run_induction (Progress (timetable world config memory agenda)) progress_advance ?_ limit
  refine .ahead rfl rfl rfl (fun moment is => ?_) ⟨nofun, rfl, rfl⟩
  rw [timetable, Option.mem_def.mp is, Option.getD_some]

/-- Every run has noted whole cycles of its timetable, and perhaps one that is under way or
has failed, and it has counted the whole ones. A summary that it returns is the one it
has kept. -/
theorem chronicle_of_run (world : World σ) (config : Config) (memory : σ)
    (agenda : List (Nat × Call)) (limit : Nat) :
    let table := timetable world config memory agenda
    let final := ({ memory, agenda } : Machine σ).run world config limit
    ∃ count underway, table.Underway count underway ∧ Recounts table count underway final ∧
      ∀ summary, final.result? = some (.ok summary) → summary = table.recorded count := by
  intro table final
  have progress : Progress table final := progress_run world config memory agenda limit
  cases progress with
  | ahead state activity memory first recounts =>
      exact ⟨0, [], .nothing, recounts, by simp [result?, activity]⟩
  | delivering k writes activity state memory recounts =>
      exact ⟨k, _, .delivering writes, recounts, by simp [result?, activity]⟩
  | waiting k activity state memory recounts =>
      exact ⟨k, [], .nothing, recounts, by simp [result?, activity]⟩
  | ended k result activity state is left recounts =>
      refine ⟨k, _, left, recounts, fun summary ended => ?_⟩
      rw [← recounts.summary]
      exact is summary (by simpa [result?, activity] using ended)

end Machine

end ContextStream.Scheduler
