import ContextStream.Proofs.Scheduler.Cadence

/-!
# The order of moments

Time does not go back. If others do what they do in order, an advance notes all that it notes
at one moment, which comes after no moment that is still ahead and before none that has
passed. A run that is due at a moment does something of its own then, unless it did so before.
-/

namespace ContextStream.Scheduler

variable {σ : Type}

/-- Whether an event is something that the run itself does. Others ask it to end, look at its
state, or ask for another run. -/
def Event.isOwn : Event → Bool
  | .cancelRequested | .observed _ | .refused _ => false
  | _ => true

namespace Machine

variable {world : World σ} {config : Config} {machine next : Machine σ}

/-! ## Runs after runs -/

theorem run_add (first second : Nat) :
    machine.run world config (first + second) =
      (machine.run world config first).run world config second := by
  induction first generalizing machine with
  | zero => rw [Nat.zero_add, run]
  | succ first ih =>
      cases stepped : machine.step? world config with
      | none => simp only [run_of_step?_eq_none stepped]
      | some next =>
          rw [Nat.add_right_comm, run_succ stepped, run_succ stepped]
          exact ih

/-- The last advance of a run. -/
theorem run_concat {limit : Nat}
    (stepped : (machine.run world config limit).step? world config = some next) :
    machine.run world config (limit + 1) = next := by
  rw [run_add, run_succ stepped, run]

theorem run_concat_of_step?_eq_none {limit : Nat}
    (rests : (machine.run world config limit).step? world config = none) :
    machine.run world config (limit + 1) = machine.run world config limit := by
  rw [run_add, run_of_step?_eq_none rests]

/-! ## Time -/

/-- Others do what they do in order, and nothing that they do is ahead of what has passed. -/
structure Orderly (machine : Machine σ) : Prop where
  sorted : machine.agenda.Pairwise fun entry later => entry.1 ≤ later.1
  ahead : ∀ entry ∈ machine.agenda, machine.moment ≤ entry.1
  past : ∀ entry ∈ machine.events, entry.1 ≤ machine.moment

/-- What is noted now keeps the order. -/
theorem Orderly.of_notes (orderly : Orderly machine) {added : List Event}
    (notes : Notes machine machine.moment added next) (now : next.moment = machine.moment)
    (same : next.agenda = machine.agenda) : Orderly next where
  sorted := same ▸ orderly.sorted
  ahead := by
    rw [same, now]
    exact orderly.ahead
  past := by
    rw [notes.events, now]
    intro entry member
    rcases List.mem_append.mp member with before | added
    · exact orderly.past entry before
    · obtain ⟨event, -, rfl⟩ := List.mem_map.mp added
      exact Nat.le_refl _

/-- Others do what comes next. -/
theorem Orderly.take (orderly : Orderly machine) {moment : Nat} {doing : Call}
    {agenda : List (Nat × Call)} (ahead : machine.agenda = (moment, doing) :: agenda) :
    machine.moment ≤ moment ∧ Orderly { machine with moment, agenda } := by
  have sorted := orderly.sorted
  rw [ahead, List.pairwise_cons] at sorted
  have later : machine.moment ≤ moment := orderly.ahead (moment, doing) (by simp [ahead])
  exact ⟨later, sorted.2, sorted.1, fun entry member =>
    Nat.le_trans (orderly.past entry member) later⟩

theorem due?_of_delivering {due : Nat} {reply : Reply} {time : Int64}
    (delivers : machine.activity = .delivering due reply time) : machine.due? = some due := by
  rw [due?, delivers]

theorem due?_of_waiting {due : Nat} (waits : machine.activity = .waiting due) :
    machine.due? = some due := by
  rw [due?, waits]

/-- The run goes on by itself before others do anything. -/
theorem Orderly.wait (orderly : Orderly machine) {due : Nat} (waits : machine.due? = some due)
    (late : machine.moment ≤ due)
    (first : ∀ entry ∈ machine.agenda.head?, machine.goesOn world entry.1 = true) :
    Orderly { machine with moment := due } where
  sorted := orderly.sorted
  ahead := le_of_head orderly.sorted fun entry head => due_le_of_goesOn waits (first entry head)
  past entry member := Nat.le_trans (orderly.past entry member) late

/-- What is due has no result. -/
theorem result?_of_due? {due : Nat} (waits : machine.due? = some due) :
    machine.result? = none := by
  unfold due? at waits
  split at waits
  · next is => rw [result?, is]
  · next is => rw [result?, is]
  · cases waits
  · cases waits

/-- Nothing is ahead, not even of the run itself, that should have happened before. -/
structure Timely (machine : Machine σ) : Prop extends Orderly machine where
  waits : ∀ due ∈ machine.due?, machine.moment ≤ due

/-- A move of the run takes no time, and what it notes is its own. -/
theorem Proceeds.timely (proceeds : Proceeds world config machine next)
    (orderly : Orderly machine) : Timely next ∧ next.moment = machine.moment := by
  cases proceeds with
  | finished asked => exact ⟨⟨orderly.of_notes (notes_finish machine) rfl rfl, nofun⟩, rfl⟩
  | published unasked written publishes =>
      have now := publishes.moment
      refine ⟨⟨orderly.of_notes publishes.trace now publishes.agenda, ?_⟩, now⟩
      simp [due?, publishes.activity, now]
  | failed unasked refused fails =>
      obtain ⟨misshape, trace⟩ := fails.trace
      obtain ⟨_, activity⟩ := fails.activity
      have now := fails.moment
      exact ⟨⟨orderly.of_notes trace now fails.agenda, by simp [due?, activity]⟩, now⟩

/-- Time does not go back. -/
theorem timely_advance (timely : Timely machine) (advance : Advance world config machine next) :
    Timely next ∧ machine.moment ≤ next.moment := by
  cases advance with
  | @aside moment doing agenda event ahead early is =>
      obtain ⟨later, orderly⟩ := timely.take ahead
      exact ⟨⟨orderly.of_notes (notes_aside machine moment agenda event) rfl rfl, early⟩, later⟩
  | @asked moment agenda ahead early late =>
      obtain ⟨later, orderly⟩ := timely.take ahead
      exact ⟨⟨orderly.of_notes (notes_asked machine moment agenda) rfl rfl, early⟩, later⟩
  | @cut moment due agenda ahead early waits =>
      obtain ⟨later, orderly⟩ := timely.take ahead
      exact ⟨⟨orderly.of_notes (notes_cut machine moment agenda) rfl rfl, nofun⟩, later⟩
  | @begun moment agenda _ ahead idle proceeds =>
      obtain ⟨later, orderly⟩ := timely.take ahead
      obtain ⟨timely, now⟩ :=
        proceeds.timely (orderly.of_notes (notes_begun machine moment agenda) rfl rfl)
      exact ⟨timely, later.trans now.ge⟩
  | @finished due reply time delivers first asked =>
      have waits := due?_of_delivering delivers
      have late : machine.moment ≤ due := timely.waits due waits
      have counted := (timely.wait waits late first).of_notes (notes_counted _ reply time) rfl rfl
      exact ⟨⟨counted.of_notes (notes_finish _) rfl rfl, nofun⟩, late⟩
  | @paused due reply time delivers first goesOn =>
      have waits := due?_of_delivering delivers
      have late : machine.moment ≤ due := timely.waits due waits
      have counted := (timely.wait waits late first).of_notes (notes_counted _ reply time) rfl rfl
      refine ⟨⟨⟨counted.sorted, counted.ahead, counted.past⟩, ?_⟩, late⟩
      rintro _ ⟨⟩
      exact Nat.le_add_right due config.interval
  | @resumed due _ waits first proceeds =>
      have waits := due?_of_waiting waits
      have late : machine.moment ≤ due := timely.waits due waits
      obtain ⟨timely, now⟩ :=
        proceeds.timely
          ((timely.wait waits late first).of_notes (notes_resumed machine due) rfl rfl)
      exact ⟨timely, late.trans now.ge⟩

/-! ## What is noted at a moment -/

/-- A move of the run takes no time and notes no observation. -/
theorem Proceeds.exists_notes (proceeds : Proceeds world config machine next) :
    next.moment = machine.moment ∧ next.agenda = machine.agenda ∧
      ∃ added, Notes machine machine.moment added next ∧ ∀ state, .observed state ∉ added := by
  cases proceeds with
  | finished asked => exact ⟨rfl, rfl, _, notes_finish machine, by simp⟩
  | published unasked written publishes =>
      exact ⟨publishes.moment, publishes.agenda, _, publishes.trace, by simp⟩
  | failed unasked refused fails =>
      obtain ⟨misshape, trace⟩ := fails.trace
      exact ⟨fails.moment, fails.agenda, _, trace, by simp⟩

/-- All that an advance notes is noted at its moment, and an observation is what the state
is then. -/
theorem Advance.exists_notes (advance : Advance world config machine next) :
    ∃ added, Notes machine next.moment added next ∧
      ∀ state, .observed state ∈ added → state = next.state := by
  have unseen (machine : Machine σ) (reply : Reply) (time : Int64) (state : State) :
      .observed state ∉ machine.outcomeEvents reply time := by
    intro member
    rcases mem_outcomeEvents member with ⟨_, is⟩ | is | ⟨_, is⟩ <;> cases is
  cases advance with
  | @aside moment doing agenda event ahead early is =>
      refine ⟨_, notes_aside machine moment agenda event, fun state seen => ?_⟩
      rcases is with ⟨-, rfl⟩ | ⟨-, -, rfl⟩
      · cases List.mem_singleton.mp seen
        rfl
      · cases List.mem_singleton.mp seen
  | @asked moment agenda ahead early late =>
      exact ⟨_, notes_asked machine moment agenda, by simp⟩
  | @cut moment due agenda ahead early waits =>
      exact ⟨_, notes_cut machine moment agenda, by simp⟩
  | @begun moment agenda _ ahead idle proceeds =>
      obtain ⟨now, -, added, notes, silent⟩ := proceeds.exists_notes
      rw [now]
      refine ⟨_, (notes_begun machine moment agenda).trans notes, fun state seen => ?_⟩
      simp only [List.mem_append, silent, List.mem_cons, List.not_mem_nil, reduceCtorEq,
        or_self] at seen
  | @finished due reply time delivers first asked =>
      have counted := notes_counted { machine with moment := due } reply time
      refine ⟨_, counted.trans (notes_finish _), fun state seen => ?_⟩
      simp only [List.mem_append, unseen, List.mem_cons, List.not_mem_nil, reduceCtorEq,
        or_self] at seen
  | @paused due reply time delivers first goesOn =>
      refine ⟨_, notes_counted { machine with moment := due } reply time, fun state seen => ?_⟩
      simp only [List.mem_append, unseen, List.mem_cons, List.not_mem_nil, reduceCtorEq,
        or_self] at seen
  | @resumed due _ waits first proceeds =>
      obtain ⟨now, -, added, notes, silent⟩ := proceeds.exists_notes
      rw [now]
      refine ⟨_, (notes_resumed machine due).trans notes, fun state seen => ?_⟩
      simp only [List.mem_append, silent, List.mem_cons, List.not_mem_nil, reduceCtorEq,
        or_self] at seen

/-- What is noted from now on is noted at later moments. -/
theorem exists_events_run (timely : Timely machine) (limit : Nat) :
    ∃ added, (machine.run world config limit).events = machine.events ++ added ∧
      ∀ entry ∈ added, machine.moment ≤ entry.1 := by
  induction limit generalizing machine with
  | zero => exact ⟨[], (List.append_nil _).symm, List.forall_mem_nil _⟩
  | succ limit ih =>
      cases stepped : machine.step? world config with
      | none =>
          rw [run_of_step?_eq_none stepped]
          exact ⟨[], (List.append_nil _).symm, List.forall_mem_nil _⟩
      | some next =>
          obtain ⟨timely', later⟩ := timely_advance timely (advance_of_step? stepped)
          obtain ⟨now, notes, -⟩ := (advance_of_step? stepped).exists_notes
          obtain ⟨added, noted, ahead⟩ := ih timely'
          rw [run_succ stepped, noted, notes.events, List.append_assoc]
          refine ⟨_, rfl, fun entry member => ?_⟩
          rcases List.mem_append.mp member with first | behind
          · obtain ⟨event, -, rfl⟩ := List.mem_map.mp first
            exact later
          · exact later.trans (ahead entry behind)

theorem Timely.run (timely : Timely machine) (world : World σ) (config : Config) (limit : Nat) :
    Timely (machine.run world config limit) :=
  run_induction Timely (fun timely advance => (timely_advance timely advance).1) timely limit

/-- What has been noted stays noted. -/
theorem events_run_isPrefix (timely : Timely machine) (world : World σ) (config : Config)
    {first limit : Nat} (earlier : first ≤ limit) :
    (machine.run world config first).events <+: (machine.run world config limit).events := by
  obtain ⟨added, rfl⟩ := Nat.exists_eq_add_of_le earlier
  obtain ⟨behind, noted, -⟩ := exists_events_run (timely.run world config first) added
  rw [run_add, noted]
  exact List.prefix_append _ _

/-- What is noted at any time has been noted by now, or is not noted before now. -/
theorem mem_or_le_of_mem_events_run (timely : Timely machine) {limit : Nat} (now : Nat)
    {entry : Nat × Event} (noted : entry ∈ (machine.run world config limit).events) :
    entry ∈ (machine.run world config now).events ∨
      (machine.run world config now).moment ≤ entry.1 := by
  rcases Nat.le_total limit now with before | after
  · exact Or.inl ((events_run_isPrefix timely world config before).subset noted)
  · obtain ⟨added, rfl⟩ := Nat.exists_eq_add_of_le after
    obtain ⟨behind, is, later⟩ := exists_events_run (timely.run world config now) added
    rw [run_add, is] at noted
    exact (List.mem_append.mp noted).imp id (later entry)

theorem Notes.mem {moment : Nat} {added : List Event} (notes : Notes machine moment added next)
    {event : Event} (noted : event ∈ added) : (moment, event) ∈ next.events := by
  rw [notes.events]
  exact List.mem_append_right _ (List.mem_map_of_mem noted)

/-- A run that is due now does something of its own, unless others do something first and leave
it as it is. -/
theorem own_or_due_of_advance (timely : Timely machine) (begun : machine.state ≠ .idle)
    (now : machine.due? = some machine.moment) (advance : Advance world config machine next) :
    (∃ event, (machine.moment, event) ∈ next.events ∧ event.isOwn = true) ∨
      next.state ≠ .idle ∧ next.moment = machine.moment ∧ next.due? = some next.moment ∧
        next.agenda.length < machine.agenda.length := by
  have atOnce {due : Nat} (is : machine.due? = some due) : due = machine.moment :=
    Option.some.inj (is.symm.trans now)
  cases advance with
  | @aside moment doing agenda event ahead early is =>
      obtain rfl : moment = machine.moment :=
        Nat.le_antisymm (early _ now) (timely.take ahead).1
      exact Or.inr ⟨begun, rfl, now, by simp [ahead, note]⟩
  | @asked moment agenda ahead early late =>
      obtain rfl : moment = machine.moment :=
        Nat.le_antisymm (early _ now) (timely.take ahead).1
      exact Or.inr ⟨begun, rfl, now, by simp [ahead, note]⟩
  | @cut moment due agenda ahead early waits =>
      obtain rfl : due = machine.moment := atOnce (due?_of_waiting waits)
      obtain rfl : moment = machine.moment := Nat.le_antisymm early (timely.take ahead).1
      exact Or.inl ⟨.entered machine.state .stopped,
        (notes_cut machine machine.moment agenda).mem (by simp), rfl⟩
  | begun ahead idle proceeds => exact absurd idle begun
  | @finished due reply time delivers first asked =>
      obtain rfl : due = machine.moment := atOnce (due?_of_delivering delivers)
      have counted := notes_counted machine reply time
      exact Or.inl ⟨.entered machine.state .waiting,
        (counted.trans (notes_finish _)).mem (by simp), rfl⟩
  | @paused due reply time delivers first goesOn =>
      obtain rfl : due = machine.moment := atOnce (due?_of_delivering delivers)
      exact Or.inl ⟨.entered machine.state .waiting,
        (notes_counted machine reply time).mem (by simp), rfl⟩
  | @resumed due _ waits first proceeds =>
      obtain rfl : due = machine.moment := atOnce (due?_of_waiting waits)
      obtain ⟨-, -, added, notes, -⟩ := proceeds.exists_notes
      exact Or.inl ⟨.entered machine.state .running,
        ((notes_resumed machine machine.moment).trans notes).mem (by simp), rfl⟩

/-- A run that is due now does something of its own now, when others have done what they do
now. -/
theorem exists_own_of_due (timely : Timely machine) (begun : machine.state ≠ .idle)
    (now : machine.due? = some machine.moment) :
    ∃ limit event, (machine.moment, event) ∈ (machine.run world config limit).events ∧
      event.isOwn = true := by
  induction size : machine.agenda.length using Nat.strongRecOn generalizing machine with
  | ind size ih =>
      cases stepped : machine.step? world config with
      | none => simp [(agenda_of_step?_eq_none stepped).2] at now
      | some next =>
          have advance := advance_of_step? stepped
          rcases own_or_due_of_advance timely begun now advance with
            ⟨event, noted, own⟩ | ⟨begun, same, now, fewer⟩
          · exact ⟨1, event, by rwa [run_succ stepped, run], own⟩
          · obtain ⟨limit, event, noted, own⟩ :=
              ih _ (size ▸ fewer) (timely_advance timely advance).1 begun now rfl
            exact ⟨limit + 1, event, by rwa [run_succ stepped, ← same], own⟩

end Machine

end ContextStream.Scheduler
