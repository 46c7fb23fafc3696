import ContextStream.Proofs.Config
import ContextStream.Proofs.Scheduler.Advances

/-!
# The cadence of a run

A timetable says when a run would begin and end each delivery if nobody asked it to end:
the next one begins an interval after the end of the last one, whatever became of it. A
request to end only cuts the timetable off. The run performs those deliveries that begin
before the request, each at its time and to its end, and returns when it was asked to,
or at the end of the last delivery if that is later.
-/

namespace ContextStream.Scheduler

variable {σ : Type}

/-! ## Timetables -/

/-- What decides when a run that is not asked to end does what. -/
structure Timetable (σ : Type) where
  world : World σ
  config : Config
  /-- When the run begins. -/
  start : Nat
  /-- What is remembered then. -/
  memory : σ

namespace Timetable

/-- The moment and the memory with which a cycle begins. -/
def beginning (table : Timetable σ) : Nat → Machine σ
  | 0 => { moment := table.start, memory := table.memory }
  | k + 1 =>
      let before := table.beginning k
      let answer := before.answer table.world table.config
      { moment := before.moment + answer.1.delay + table.config.interval, memory := answer.2 }

/-- When a delivery begins. -/
def starts (table : Timetable σ) (k : Nat) : Nat :=
  (table.beginning k).moment

/-- What is delivered. -/
def payload (table : Timetable σ) (k : Nat) : Payload :=
  (table.beginning k).payload table.world table.config

/-- What the publisher answers. -/
def reply (table : Timetable σ) (k : Nat) : Reply :=
  ((table.beginning k).answer table.world table.config).1

/-- When a delivery ends. -/
def ends (table : Timetable σ) (k : Nat) : Nat :=
  table.starts k + (table.reply k).delay

theorem starts_succ (table : Timetable σ) (k : Nat) :
    table.starts (k + 1) = table.ends k + table.config.interval :=
  rfl

/-- The first deliveries, with their times. -/
def deliveries (table : Timetable σ) (count : Nat) : List (Nat × Payload) :=
  (List.range count).map fun k => (table.starts k, table.payload k)

/-- The first outcomes, with their times. -/
def outcomes (table : Timetable σ) (count : Nat) : List (Nat × Outcome) :=
  (List.range count).map fun k => (table.ends k, (table.reply k).outcome)

theorem deliveries_succ (table : Timetable σ) (count : Nat) :
    table.deliveries (count + 1) =
      table.deliveries count ++ [(table.starts count, table.payload count)] := by
  simp [deliveries, List.range_succ]

theorem outcomes_succ (table : Timetable σ) (count : Nat) :
    table.outcomes (count + 1) =
      table.outcomes count ++ [(table.ends count, (table.reply count).outcome)] := by
  simp [outcomes, List.range_succ]

/-- Whether a delivery is performed when others ask the run to end at a moment, or never:
it begins before that, and the publisher did not ask the run to end before. -/
def Performs (table : Timetable σ) (request : Option Nat) (k : Nat) : Prop :=
  (∀ moment ∈ request, table.starts k < moment) ∧ ∀ j < k, (table.reply j).cancels = false

theorem starts_mono (table : Timetable σ) : Monotone table.starts := by
  apply monotone_nat_of_le_succ
  intro k
  rw [starts_succ, ends, Nat.add_assoc]
  exact Nat.le_add_right _ _

/-- If a delivery is performed, all earlier ones are. -/
theorem Performs.mono {table : Timetable σ} {request : Option Nat} {j k : Nat}
    (performs : table.Performs request k) (before : j ≤ k) : table.Performs request j :=
  ⟨fun moment is => Nat.lt_of_le_of_lt (table.starts_mono before) (performs.1 moment is),
    fun i earlier => performs.2 i (Nat.lt_of_lt_of_le earlier before)⟩

/-- When a run of some deliveries returns. -/
def returns (table : Timetable σ) (request : Option Nat) : (count : Nat) → Nat
  | 0 => max (request.getD 0) table.start
  | k + 1 =>
      if (table.reply k).cancels then table.ends k else max (request.getD 0) (table.ends k)

/-- Whether an update is written in a cycle. -/
def Writes (table : Timetable σ) (k : Nat) : Prop :=
  ∃ document,
    Assertion.document ((table.beginning k).built table.world table.config).toGraph = .ok document

end Timetable

/-- When somebody first asks the run to end. -/
def firstRequest? (agenda : List (Nat × Call)) : Option Nat :=
  (agenda.find? fun entry => entry.2 = .cancel).map Prod.fst

theorem firstRequest?_cancel (moment : Nat) (agenda : List (Nat × Call)) :
    firstRequest? ((moment, .cancel) :: agenda) = some moment := by
  simp [firstRequest?]

theorem firstRequest?_cons {doing : Call} (other : doing ≠ .cancel) (moment : Nat)
    (agenda : List (Nat × Call)) :
    firstRequest? ((moment, doing) :: agenda) = firstRequest? agenda := by
  simp [firstRequest?, other]

theorem mem_of_firstRequest? {agenda : List (Nat × Call)} {moment : Nat}
    (first : firstRequest? agenda = some moment) : (moment, .cancel) ∈ agenda := by
  obtain ⟨⟨time, doing⟩, found, rfl⟩ := Option.map_eq_some_iff.mp first
  have is : doing = .cancel := by simpa using List.find?_some found
  exact is ▸ List.mem_of_find?_eq_some found

namespace Machine

variable {table : Timetable σ} {request : Option Nat} {machine next : Machine σ} {count : Nat}

/-! ## Requests -/

/-- What has become of the requests to end, after some outcomes: either there was none
yet, or there was one from others or from the publisher. -/
structure Heeds (table : Timetable σ) (request : Option Nat) (count : Nat)
    (machine : Machine σ) : Prop where
  sorted : machine.agenda.Pairwise fun entry later => entry.1 ≤ later.1
  ahead : ∀ entry ∈ machine.agenda, machine.moment ≤ entry.1
  unasked : machine.cancelled = false →
    firstRequest? machine.agenda = request ∧ ∀ j < count, (table.reply j).cancels = false
  asked : machine.cancelled = true →
    (∃ moment ∈ request, moment ≤ machine.moment) ∨ ∃ j < count, (table.reply j).cancels = true

theorem Heeds.note (heeds : Heeds table request count machine) (event : Event) :
    Heeds table request count (machine.note event) :=
  ⟨heeds.sorted, heeds.ahead, heeds.unasked, heeds.asked⟩

theorem Heeds.enter (heeds : Heeds table request count machine) (state : State) :
    Heeds table request count (machine.enter state) :=
  ⟨heeds.sorted, heeds.ahead, heeds.unasked, heeds.asked⟩

/-- What is not a request does not change what has become of the requests. -/
theorem Heeds.aside (heeds : Heeds table request count machine) {moment : Nat} {doing : Call}
    {agenda : List (Nat × Call)} (ahead : machine.agenda = (moment, doing) :: agenda)
    (other : doing ≠ .cancel) : Heeds table request count { machine with moment, agenda } := by
  have sorted := heeds.sorted
  rw [ahead, List.pairwise_cons] at sorted
  have later := heeds.ahead (moment, doing) (by simp [ahead])
  refine ⟨sorted.2, fun entry after => sorted.1 entry after, fun unasked => ?_, fun asked => ?_⟩
  · rw [← firstRequest?_cons other moment, ← ahead]
    exact heeds.unasked unasked
  · rcases heeds.asked asked with ⟨early, is, before⟩ | publisher
    · exact Or.inl ⟨early, is, Nat.le_trans before later⟩
    · exact Or.inr publisher

/-- After a request the run is asked to end. -/
theorem Heeds.cancel (heeds : Heeds table request count machine) {moment : Nat}
    {agenda : List (Nat × Call)} (ahead : machine.agenda = (moment, .cancel) :: agenda) :
    Heeds table request count { machine with moment, agenda, cancelled := true } := by
  have sorted := heeds.sorted
  rw [ahead, List.pairwise_cons] at sorted
  have later := heeds.ahead (moment, .cancel) (by simp [ahead])
  refine ⟨sorted.2, fun entry after => sorted.1 entry after, fun unasked => ?_, fun _ => ?_⟩
  · cases unasked
  · cases already : machine.cancelled with
    | false =>
        have first := (heeds.unasked already).1
        rw [ahead, firstRequest?_cancel] at first
        exact Or.inl ⟨moment, first.symm, Nat.le_refl moment⟩
    | true =>
        rcases heeds.asked already with ⟨early, is, before⟩ | publisher
        · exact Or.inl ⟨early, is, Nat.le_trans before later⟩
        · exact Or.inr publisher

/-- What comes up to the first of sorted entries comes up to all of them. -/
theorem le_of_head {agenda : List (Nat × Call)}
    (sorted : agenda.Pairwise fun entry later => entry.1 ≤ later.1) {due : Nat}
    (first : ∀ entry ∈ agenda.head?, due ≤ entry.1) : ∀ entry ∈ agenda, due ≤ entry.1 := by
  intro entry member
  cases agenda with
  | nil => cases member
  | cons head agenda =>
      have before : due ≤ head.1 := first head (by simp)
      rcases List.mem_cons.mp member with rfl | behind
      · exact before
      · exact Nat.le_trans before ((List.pairwise_cons.mp sorted).1 entry behind)

/-- The scheduler goes on by itself before others do anything. -/
theorem Heeds.wait (heeds : Heeds table request count machine) {due : Nat}
    (late : machine.moment ≤ due) (first : ∀ entry ∈ machine.agenda.head?, due ≤ entry.1) :
    Heeds table request count { machine with moment := due } := by
  refine ⟨heeds.sorted, le_of_head heeds.sorted first, heeds.unasked, ?_⟩
  intro asked
  rcases heeds.asked asked with ⟨early, is, before⟩ | publisher
  · exact Or.inl ⟨early, is, Nat.le_trans before late⟩
  · exact Or.inr publisher

/-- What is due comes before a request to end, if it never goes first at the moment of the
request. -/
theorem Heeds.lt_of_first (heeds : Heeds table request count machine)
    (unasked : machine.cancelled = false) {world : World σ} {due : Nat}
    (waits : machine.due? = some due)
    (first : ∀ entry ∈ machine.agenda.head?, machine.goesOn world entry.1 = true)
    (ties : request = some due → ∀ memory, world.goesFirst due memory = false) :
    ∀ moment ∈ request, due < moment := by
  intro moment is
  have asks : (moment, .cancel) ∈ machine.agenda :=
    mem_of_firstRequest? ((heeds.unasked unasked).1.trans is)
  have before := le_of_head heeds.sorted
    (fun entry head => due_le_of_goesOn waits (first entry head)) _ asks
  refine Nat.lt_of_le_of_ne before ?_
  rintro rfl
  -- Nothing on the agenda comes before the request, so what is due would go first.
  cases ahead : machine.agenda with
  | nil => simp [ahead] at asks
  | cons head agenda =>
      have sorted := heeds.sorted
      rw [ahead] at asks sorted
      have head_le : head.1 ≤ due := by
        rcases List.mem_cons.mp asks with rfl | behind
        · exact Nat.le_refl _
        · exact (List.pairwise_cons.mp sorted).1 _ behind
      have now : machine.goesOn world due = true :=
        goesOn_of_le (first head (by simp [ahead])) head_le
      obtain ⟨_, waits', less | ⟨-, goesFirst⟩⟩ := goesOn_iff.mp now
      · cases waits.symm.trans waits'
        exact absurd less (Nat.lt_irrefl due)
      · rw [ties is] at goesFirst
        cases goesFirst

/-- The publisher may ask the run to end with its answer. -/
theorem Heeds.counted (heeds : Heeds table request count machine) (time : Int64) :
    Heeds table request (count + 1) (machine.counted (table.reply count) time) := by
  refine ⟨heeds.sorted, heeds.ahead, fun unasked => ?_, fun asked => ?_⟩
  · obtain ⟨before, now⟩ := Bool.or_eq_false_iff.mp unasked
    obtain ⟨first, others⟩ := heeds.unasked before
    refine ⟨first, fun j within => ?_⟩
    rcases Nat.lt_succ_iff_lt_or_eq.mp within with earlier | rfl
    · exact others j earlier
    · exact now
  · rcases Bool.or_eq_true_iff.mp asked with before | now
    · rcases heeds.asked before with others | ⟨j, within, publisher⟩
      · exact Or.inl others
      · exact Or.inr ⟨j, Nat.lt_succ_of_lt within, publisher⟩
    · exact Or.inr ⟨count, Nat.lt_succ_self count, now⟩

/-- A run that was not asked to end performs its next delivery, if nobody asks it to end
up to then. -/
theorem Heeds.performs (heeds : Heeds table request count machine)
    (unasked : machine.cancelled = false)
    (later : ∀ moment ∈ request, table.starts count < moment) :
    table.Performs request count :=
  ⟨later, (heeds.unasked unasked).2⟩

/-- A run that was asked to end performs no delivery any more. -/
theorem Heeds.not_performs (heeds : Heeds table request count machine)
    (asked : machine.cancelled = true) (early : machine.moment ≤ table.starts count) :
    ¬table.Performs request count := by
  rintro ⟨outside, inside⟩
  rcases heeds.asked asked with ⟨moment, is, before⟩ | ⟨j, within, publisher⟩
  · have after := outside moment is
    omega
  · rw [inside j within] at publisher
    cases publisher

/-- A run that was asked to end by the end of its last delivery returns then. -/
theorem Heeds.returns (heeds : Heeds table request (count + 1) machine)
    (asked : machine.cancelled = true) (now : machine.moment = table.ends count)
    (performed : table.Performs request count) :
    table.returns request (count + 1) = table.ends count := by
  rw [Timetable.returns]
  split
  · rfl
  · next silent =>
      rcases heeds.asked asked with ⟨moment, rfl, before⟩ | ⟨j, within, publisher⟩
      · exact Nat.max_eq_right (now ▸ before)
      · rcases Nat.lt_succ_iff_lt_or_eq.mp within with earlier | rfl
        · rw [performed.2 j earlier] at publisher
          cases publisher
        · exact absurd publisher silent

/-! ## Where a run stands -/

/-- A machine has begun and ended some deliveries of a timetable, and has not returned. -/
structure Follows (table : Timetable σ) (request : Option Nat) (begun ended : Nat)
    (machine : Machine σ) : Prop where
  heeds : Heeds table request ended machine
  performed : ∀ k < begun, table.Performs request k
  deliveries : machine.view Event.payload? = table.deliveries begun
  outcomes : machine.view Event.outcome? = table.outcomes ended
  unreturned : machine.view Event.summary? = []

/-- Where a run stands after some advances. Each advance takes one entry off the agenda or
begins or ends a delivery, so that their number tells how far the run has come. -/
inductive Stands (table : Timetable σ) (request : Option Nat) (after : List (Nat × Call))
    (entries advances : Nat) (machine : Machine σ) : Prop
  | ahead (front : List (Nat × Call))
      (agenda : machine.agenda = front ++ (table.start, .run) :: after)
      (noRun : ∀ entry ∈ front, entry.2 ≠ .run) (state : machine.state = .idle)
      (activity : machine.activity = .idle) (memory : machine.memory = table.memory)
      (follows : Follows table request 0 0 machine)
      (far : advances + machine.agenda.length = entries)
  | delivering (k : Nat)
      (activity : ∃ time, machine.activity = .delivering (table.ends k) (table.reply k) time)
      (state : machine.state ≠ .idle) (memory : machine.memory = (table.beginning (k + 1)).memory)
      (early : machine.moment ≤ table.ends k) (follows : Follows table request (k + 1) k machine)
      (far : advances + machine.agenda.length = entries + 2 * k)
  | waiting (k : Nat) (activity : machine.activity = .waiting (table.starts (k + 1)))
      (state : machine.state ≠ .idle) (memory : machine.memory = (table.beginning (k + 1)).memory)
      (late : table.ends k ≤ machine.moment) (early : machine.moment ≤ table.starts (k + 1))
      (slips : machine.cancelled = true → machine.moment = table.starts (k + 1) ∧
        table.returns request (k + 1) = table.starts (k + 1))
      (follows : Follows table request (k + 1) (k + 1) machine)
      (far : advances + machine.agenda.length = entries + 2 * k + 1)
  | ended (k : Nat) (summary : Summary) (activity : machine.activity = .ended (.ok summary))
      (state : machine.state ≠ .idle) (performed : ∀ k' < k, table.Performs request k')
      (past : ¬table.Performs request k)
      (deliveries : machine.view Event.payload? = table.deliveries k)
      (outcomes : machine.view Event.outcome? = table.outcomes k)
      (returned : machine.view Event.summary? = [(table.returns request k, summary)])

variable {after : List (Nat × Call)} {entries advances begun ended : Nat}

/-- Notes that tell no delivery and no end leave a machine where it stands. -/
theorem Follows.of_notes (follows : Follows table request begun ended machine) {moment : Nat}
    {added : List Event} (notes : Notes machine moment added next)
    (noUpdate : added.filterMap Event.payload? = [])
    (noOutcome : added.filterMap Event.outcome? = [])
    (noSummary : added.filterMap Event.summary? = [])
    (heeds : Heeds table request ended next) : Follows table request begun ended next where
  heeds := heeds
  performed := follows.performed
  deliveries := by rw [notes.view, noUpdate, List.map_nil, List.append_nil, follows.deliveries]
  outcomes := by rw [notes.view, noOutcome, List.map_nil, List.append_nil, follows.outcomes]
  unreturned := by rw [notes.view, noSummary, List.map_nil, List.append_nil, follows.unreturned]

/-- A run that performs no delivery any more returns. -/
theorem stands_finish (follows : Follows table request count count machine)
    (past : ¬table.Performs request count) (now : machine.moment = table.returns request count) :
    Stands table request after entries advances machine.finish := by
  have notes := notes_finish machine
  refine .ended count machine.summary rfl nofun follows.performed past ?_ ?_ ?_
  · rw [notes.view, follows.deliveries]
    exact List.append_nil _
  · rw [notes.view, follows.outcomes]
    exact List.append_nil _
  · rw [notes.view, follows.unreturned, ← now]
    rfl

/-- What a cycle builds depends on the moment and the memory only. -/
theorem cycle_congr (world : World σ) (config : Config) {other : Machine σ}
    (moment : machine.moment = other.moment) (memory : machine.memory = other.memory) :
    machine.time world = other.time world ∧
      machine.built world config = other.built world config ∧
      machine.payload world config = other.payload world config ∧
      machine.answer world config = other.answer world config := by
  unfold answer payload built drawn time
  rw [moment, memory]
  exact ⟨rfl, rfl, rfl, rfl⟩

/-- A cycle that begins at its time begins the next delivery. -/
theorem stands_of_publishes (follows : Follows table request count count machine)
    (performs : table.Performs request count) (moment : machine.moment = table.starts count)
    (memory : machine.memory = (table.beginning count).memory)
    (publishes : Publishes table.world table.config machine next)
    (far : advances + machine.agenda.length = entries + 2 * count) :
    Stands table request after entries advances next := by
  obtain ⟨-, -, payload, answer⟩ := cycle_congr table.world table.config moment memory
  have notes : Notes machine machine.moment _ next := publishes.trace
  have activity : next.activity = .delivering (table.ends count) (table.reply count)
      (machine.time table.world) := by
    rw [publishes.activity, answer, moment]
    rfl
  refine .delivering count ⟨_, activity⟩ ?_ ?_ ?_ ⟨⟨?_, ?_, ?_, ?_⟩, ?_, ?_, ?_, ?_⟩ ?_
  · simp [publishes.state]
  · rw [publishes.memory, answer]
    rfl
  · rw [publishes.moment, moment]
    exact Nat.le_add_right _ _
  · rw [publishes.agenda]
    exact follows.heeds.sorted
  · rw [publishes.agenda, publishes.moment]
    exact follows.heeds.ahead
  · rw [publishes.agenda, publishes.cancelled]
    exact follows.heeds.unasked
  · rw [publishes.moment, publishes.cancelled]
    exact follows.heeds.asked
  · intro k within
    rcases Nat.lt_succ_iff_lt_or_eq.mp within with earlier | rfl
    · exact follows.performed k earlier
    · exact performs
  · rw [notes.view, follows.deliveries, table.deliveries_succ, moment, payload]
    rfl
  · rw [notes.view, follows.outcomes]
    exact List.append_nil _
  · rw [notes.view, follows.unreturned]
    rfl
  · rw [publishes.agenda]
    exact far

/-- A run that goes on at the time of its next delivery performs it, unless it was asked
to end. -/
theorem stands_of_proceeds (follows : Follows table request count count machine)
    (writes : ∀ k, table.Performs request k → table.Writes k)
    (moment : machine.moment = table.starts count)
    (memory : machine.memory = (table.beginning count).memory)
    (later : machine.cancelled = false → ∀ moment ∈ request, table.starts count < moment)
    (returns : machine.cancelled = true → table.returns request count = table.starts count)
    (proceeds : Proceeds table.world table.config machine next)
    (far : advances + machine.agenda.length = entries + 2 * count) :
    Stands table request after entries advances next := by
  cases proceeds with
  | finished asked =>
      exact stands_finish follows (follows.heeds.not_performs asked moment.le)
        (moment.trans (returns asked).symm)
  | published unasked written publishes =>
      exact stands_of_publishes follows (follows.heeds.performs unasked (later unasked)) moment
        memory publishes far
  | failed unasked refused fails =>
      obtain ⟨document, written⟩ := writes count (follows.heeds.performs unasked (later unasked))
      rw [← (cycle_congr _ _ moment memory).2.1, refused] at written
      cases written

/-- What others do to no effect, or a request to end that does not cut a pause short, only
takes an entry off the agenda. -/
theorem Stands.pass (stands : Stands table request after entries advances machine)
    {moment : Nat} {doing : Call} {agenda : List (Nat × Call)} {event : Event}
    (ahead : machine.agenda = (moment, doing) :: agenda)
    (early : ∀ due ∈ machine.due?, moment ≤ due)
    (notes : Notes machine moment [event] next)
    (silent : event.payload? = none ∧ event.outcome? = none ∧ event.summary? = none)
    (same : next.moment = moment ∧ next.agenda = agenda ∧ next.activity = machine.activity ∧
      next.state = machine.state ∧ next.memory = machine.memory)
    (heeds : ∀ count, Heeds table request count machine → Heeds table request count next)
    (noRun : machine.state = .idle → doing ≠ .run)
    (calm : next.cancelled = machine.cancelled ∨
      doing = .cancel ∧ ∀ due, machine.activity = .waiting due → due = moment) :
    Stands table request after entries (advances + 1) next := by
  obtain ⟨noUpdate, noOutcome, noSummary⟩ := silent
  obtain ⟨moves, rests, activity, state, memory⟩ := same
  have kept : ∀ {begun ended}, Follows table request begun ended machine →
      Follows table request begun ended next := by
    intro begun ended follows
    apply follows.of_notes notes _ _ _ (heeds ended follows.heeds)
    · simp [noUpdate]
    · simp [noOutcome]
    · simp [noSummary]
  have shorter : machine.agenda.length = next.agenda.length + 1 := by
    rw [ahead, rests, List.length_cons]
  cases stands with
  | ahead front is noRunIn idle waits remembered follows far =>
      cases front with
      | nil =>
          rw [ahead, List.nil_append, List.cons.injEq, Prod.mk.injEq] at is
          exact absurd is.1.2 (noRun idle)
      | cons entry front =>
          rw [ahead, List.cons_append, List.cons.injEq] at is
          refine .ahead front (rests.trans is.2) ?_ (state.trans idle) (activity.trans waits)
            (memory.trans remembered) (kept follows) ?_
          · exact fun entry member => noRunIn entry (List.mem_cons_of_mem _ member)
          · omega
  | delivering k delivers begun remembered _ follows far =>
      obtain ⟨time, delivers⟩ := delivers
      have before : moment ≤ table.ends k := early _ (by simp [due?, delivers])
      exact .delivering k ⟨time, activity.trans delivers⟩ (state ▸ begun)
        (memory.trans remembered) (moves ▸ before) (kept follows) (by omega)
  | waiting k waits begun remembered late _ slips follows far =>
      have before : moment ≤ table.starts (k + 1) := early _ (by simp [due?, waits])
      have behind : machine.moment ≤ moment := follows.heeds.ahead (moment, doing) (by simp [ahead])
      refine .waiting k (activity.trans waits) (state ▸ begun) (memory.trans remembered)
        (moves ▸ Nat.le_trans late behind) (moves ▸ before) ?_ (kept follows) (by omega)
      intro asked
      rw [moves]
      cases already : machine.cancelled with
      | true =>
          obtain ⟨now, returns⟩ := slips already
          exact ⟨Nat.le_antisymm before (now ▸ behind), returns⟩
      | false =>
          -- The first request comes at the end of the pause.
          rcases calm with same | ⟨rfl, now⟩
          · rw [same, already] at asked
            cases asked
          · obtain ⟨first, silent⟩ := follows.heeds.unasked already
            rw [ahead, firstRequest?_cancel] at first
            refine ⟨(now _ waits).symm, ?_⟩
            rw [now _ waits, Timetable.returns, silent k (Nat.lt_succ_self k), ← first]
            exact Nat.max_eq_left (Nat.le_trans late behind)
  | ended k summary ends begun performed past deliveries outcomes returned =>
      refine .ended k summary (activity.trans ends) (state ▸ begun) performed past ?_ ?_ ?_
      · rw [notes.view, deliveries]
        simp [noUpdate]
      · rw [notes.view, outcomes]
        simp [noOutcome]
      · rw [notes.view, returned]
        simp [noSummary]

/-- A request to end cuts a pause short. -/
theorem stands_of_cut (stands : Stands table request after entries advances machine)
    {moment due : Nat} {agenda : List (Nat × Call)}
    (ahead : machine.agenda = (moment, .cancel) :: agenda) (early : moment ≤ due)
    (waits : machine.activity = .waiting due) :
    Stands table request after entries (advances + 1)
      ({ machine with moment, agenda, cancelled := true }.note .cancelRequested).finish := by
  cases stands with
  | ahead _ _ _ _ activity => simp [activity] at waits
  | delivering k activity =>
      obtain ⟨time, activity⟩ := activity
      simp [activity] at waits
  | ended k summary activity => simp [activity] at waits
  | waiting k activity state memory late _ slips follows far =>
      obtain rfl := Activity.waiting.inj (activity.symm.trans waits)
      have heeds := (follows.heeds.cancel ahead).note .cancelRequested
      have notes := notes_asked machine moment agenda
      refine stands_finish (follows.of_notes notes rfl rfl rfl heeds)
        (heeds.not_performs rfl early) ?_
      have behind : machine.moment ≤ moment :=
        follows.heeds.ahead (moment, .cancel) (by simp [ahead])
      cases asked : machine.cancelled with
      | false =>
          -- This is the first request, and the publisher made none.
          obtain ⟨first, silent⟩ := follows.heeds.unasked asked
          rw [ahead, firstRequest?_cancel] at first
          rw [Timetable.returns, silent k (Nat.lt_succ_self k), ← first]
          exact (Nat.max_eq_left (Nat.le_trans late behind)).symm
      | true =>
          -- An earlier request at the end of the pause went unnoticed.
          obtain ⟨now, returns⟩ := slips asked
          rw [returns]
          exact Nat.le_antisymm early (now ▸ behind)

/-- A run begins with its first delivery, unless it was asked to end before. -/
theorem stands_of_begun (stands : Stands table request after entries advances machine)
    (writes : ∀ k, table.Performs request k → table.Writes k)
    (apart : (table.start, .cancel) ∉ after) {moment : Nat} {agenda : List (Nat × Call)}
    (ahead : machine.agenda = (moment, .run) :: agenda) (idle : machine.state = .idle)
    (proceeds : Proceeds table.world table.config
      (({ machine with moment, agenda }.enter .running).note .started) next) :
    Stands table request after entries (advances + 1) next := by
  cases stands with
  | delivering _ _ state => exact absurd idle state
  | waiting _ _ state => exact absurd idle state
  | ended _ _ _ state => exact absurd idle state
  | ahead front is noRun _ _ memory follows far =>
      have here : moment = table.start ∧ agenda = after := by
        cases front with
        | nil => simpa [ahead] using is
        | cons entry front =>
            rw [ahead, List.cons_append, List.cons.injEq] at is
            exact absurd rfl (is.1 ▸ noRun entry List.mem_cons_self)
      obtain ⟨rfl, rfl⟩ := here
      have heeds : Heeds table request 0
          (({ machine with moment := table.start, agenda }.enter .running).note .started) :=
        ((follows.heeds.aside ahead (by decide)).enter _).note _
      have notes := notes_begun machine table.start agenda
      apply stands_of_proceeds (follows.of_notes notes rfl rfl rfl heeds) writes rfl memory
        _ _ proceeds
      · rw [ahead, List.length_cons] at far
        change advances + 1 + agenda.length = _
        omega
      · intro unasked time is
        have member : (time, .cancel) ∈ agenda :=
          mem_of_firstRequest? ((heeds.unasked unasked).1.trans is)
        have later : table.start ≤ time := heeds.ahead (time, .cancel) member
        rcases Nat.lt_or_eq_of_le later with before | rfl
        · exact before
        · exact absurd member apart
      · intro asked
        rcases heeds.asked asked with ⟨early, rfl, before⟩ | ⟨j, within, _⟩
        · exact Nat.max_eq_right before
        · cases within

/-- At the end of a delivery its outcome is noted. -/
theorem follows_counted (follows : Follows table request (count + 1) count machine)
    (now : machine.moment = table.ends count) (time : Int64) :
    Follows table request (count + 1) (count + 1)
      (machine.counted (table.reply count) time) := by
  have notes := notes_counted machine (table.reply count) time
  refine ⟨follows.heeds.counted time, follows.performed, ?_, ?_, ?_⟩
  · rw [notes.view, List.filterMap_append,
      filterMap_outcomeEvents _ _ _ (fun _ => rfl) (fun _ _ => rfl), follows.deliveries]
    exact List.append_nil _
  · rw [notes.view, List.filterMap_append,
      filterMap_outcomeEvents _ _ _ (fun _ => rfl) (fun _ _ => rfl), follows.outcomes,
      table.outcomes_succ, now]
    rfl
  · rw [notes.view, List.filterMap_append,
      filterMap_outcomeEvents _ _ _ (fun _ => rfl) (fun _ _ => rfl), follows.unreturned]
    rfl

/-- The end of a delivery comes at its time, and leaves nothing of it open. -/
theorem Stands.settles (stands : Stands table request after entries advances machine) {due : Nat}
    {reply : Reply} {time : Int64} (delivers : machine.activity = .delivering due reply time)
    (first : ∀ entry ∈ machine.agenda.head?, machine.goesOn table.world entry.1 = true) :
    ∃ k, due = table.ends k ∧ reply = table.reply k ∧
      machine.memory = (table.beginning (k + 1)).memory ∧
      Follows table request (k + 1) (k + 1) ({ machine with moment := due }.counted reply time) ∧
      advances + machine.agenda.length = entries + 2 * k := by
  cases stands with
  | ahead _ _ _ _ activity => simp [activity] at delivers
  | waiting k activity => simp [activity] at delivers
  | ended k summary activity => simp [activity] at delivers
  | delivering k activity state memory early follows far =>
      obtain ⟨_, activity⟩ := activity
      obtain ⟨rfl, rfl, rfl⟩ := Activity.delivering.inj (activity.symm.trans delivers)
      have heeds := follows.heeds.wait early fun entry head =>
        due_le_of_goesOn (by simp [due?, activity]) (first entry head)
      have moved : Follows table request (k + 1) k { machine with moment := table.ends k } :=
        ⟨heeds, follows.performed, follows.deliveries, follows.outcomes, follows.unreturned⟩
      exact ⟨k, rfl, rfl, memory, follows_counted moved rfl _, far⟩

/-- After its pause a run goes on at the time of the next delivery. -/
theorem stands_of_resumed (stands : Stands table request after entries advances machine)
    (writes : ∀ k, table.Performs request k → table.Writes k)
    (ties : ∀ k, request = some (table.starts (k + 1)) →
      ∀ memory, table.world.goesFirst (table.starts (k + 1)) memory = false) {due : Nat}
    (waits : machine.activity = .waiting due)
    (first : ∀ entry ∈ machine.agenda.head?, machine.goesOn table.world entry.1 = true)
    (proceeds : Proceeds table.world table.config
      ({ machine with moment := due }.enter .running) next) :
    Stands table request after entries (advances + 1) next := by
  cases stands with
  | ahead _ _ _ _ activity => simp [activity] at waits
  | delivering k activity =>
      obtain ⟨time, activity⟩ := activity
      simp [activity] at waits
  | ended k summary activity => simp [activity] at waits
  | waiting k activity state memory late early slips follows far =>
      obtain rfl := Activity.waiting.inj (activity.symm.trans waits)
      have later : machine.due? = some (table.starts (k + 1)) := by simp [due?, activity]
      have heeds := follows.heeds.wait early fun entry head =>
        due_le_of_goesOn later (first entry head)
      have notes := notes_resumed machine (table.starts (k + 1))
      apply stands_of_proceeds (follows.of_notes notes rfl rfl rfl (heeds.enter .running)) writes
        rfl memory _ _ proceeds
      · change advances + 1 + machine.agenda.length = _
        omega
      · exact fun unasked => follows.heeds.lt_of_first unasked later first (ties k)
      · exact fun asked => (slips asked).2

/-- Every advance follows the timetable. -/
theorem stands_advance (stands : Stands table request after entries advances machine)
    (writes : ∀ k, table.Performs request k → table.Writes k)
    (apart : (table.start, .cancel) ∉ after)
    (ties : ∀ k, request = some (table.starts (k + 1)) →
      ∀ memory, table.world.goesFirst (table.starts (k + 1)) memory = false)
    (advance : Advance table.world table.config machine next) :
    Stands table request after entries (advances + 1) next := by
  cases advance with
  | @aside moment doing agenda event ahead early is =>
      have other : doing ≠ .cancel := by
        rcases is with ⟨rfl, -⟩ | ⟨rfl, -, -⟩ <;> decide
      have notes := notes_aside machine moment agenda event
      apply stands.pass ahead early notes _ ⟨rfl, rfl, rfl, rfl, rfl⟩
      · exact fun count heeds => (heeds.aside ahead other).note event
      · rcases is with ⟨rfl, -⟩ | ⟨rfl, begun, -⟩
        · exact fun _ => by decide
        · exact fun idle => absurd idle begun
      · exact Or.inl rfl
      · rcases is with ⟨-, rfl⟩ | ⟨-, -, rfl⟩ <;> exact ⟨rfl, rfl, rfl⟩
  | @asked moment agenda ahead early late =>
      have notes := notes_asked machine moment agenda
      apply stands.pass ahead early notes ⟨rfl, rfl, rfl⟩ ⟨rfl, rfl, rfl, rfl, rfl⟩
      · exact fun count heeds => (heeds.cancel ahead).note _
      · exact fun _ => by decide
      · exact Or.inr ⟨rfl, late⟩
  | cut ahead early waits => exact stands_of_cut stands ahead early waits
  | begun ahead idle proceeds => exact stands_of_begun stands writes apart ahead idle proceeds
  | finished delivers first asked =>
      obtain ⟨k, rfl, rfl, -, follows, -⟩ := stands.settles delivers first
      apply stands_finish follows
      · apply follows.heeds.not_performs asked
        exact Nat.le_add_right _ _
      · exact (follows.heeds.returns asked rfl (follows.performed k (Nat.lt_succ_self k))).symm
  | @paused due reply time delivers first goesOn =>
      obtain ⟨k, rfl, rfl, memory, follows, far⟩ := stands.settles delivers first
      have heeds := follows.heeds
      have slips (asked : (machine.cancelled || (table.reply k).cancels) = true) :
          table.ends k = table.starts (k + 1) ∧
            table.returns request (k + 1) = table.starts (k + 1) := by
        have meets : table.starts (k + 1) = table.ends k := by
          rw [table.starts_succ, goesOn asked, Nat.add_zero]
        refine ⟨meets.symm, ?_⟩
        rw [meets]
        exact heeds.returns asked rfl (follows.performed k (Nat.lt_succ_self k))
      refine .waiting k rfl nofun memory (Nat.le_refl _) (Nat.le_add_right _ _) slips
        ⟨⟨heeds.sorted, heeds.ahead, heeds.unasked, heeds.asked⟩, follows.performed,
          follows.deliveries, follows.outcomes, follows.unreturned⟩ ?_
      change advances + 1 + machine.agenda.length = _
      omega
  | resumed waits first proceeds =>
      exact stands_of_resumed stands writes ties waits first proceeds

/-- A run stands where its advances have led it, unless it has returned. -/
theorem stands_run (stands : Stands table request after entries advances machine)
    (writes : ∀ k, table.Performs request k → table.Writes k)
    (apart : (table.start, .cancel) ∉ after)
    (ties : ∀ k, request = some (table.starts (k + 1)) →
      ∀ memory, table.world.goesFirst (table.starts (k + 1)) memory = false) (limit : Nat) :
    ∃ made, Stands table request after entries made
        (machine.run table.world table.config limit) ∧
      (made = advances + limit ∨
        (machine.run table.world table.config limit).result?.isSome) := by
  induction limit generalizing machine advances with
  | zero => exact ⟨advances, stands, Or.inl rfl⟩
  | succ limit ih =>
      cases stepped : machine.step? table.world table.config with
      | some next =>
          rw [run_succ stepped, Nat.add_comm limit, ← Nat.add_assoc]
          exact ih (stands_advance stands writes apart ties (advance_of_step? stepped))
      | none =>
          rw [run_of_step?_eq_none stepped]
          obtain ⟨done, idle⟩ := agenda_of_step?_eq_none stepped
          refine ⟨advances, stands, Or.inr ?_⟩
          cases stands with
          | ahead front is => simp [done] at is
          | delivering k activity =>
              obtain ⟨time, activity⟩ := activity
              simp [due?, activity] at idle
          | waiting k activity => simp [due?, activity] at idle
          | ended k summary activity => simp [result?, activity]

/-- A run that has made enough advances is beyond a delivery, unless it has returned. -/
theorem Stands.of_far (stands : Stands table request after entries advances machine)
    (far : advances = entries + 2 * count + 1 ∨ machine.result?.isSome) :
    (∃ k, count < k ∧ (∀ j < k, table.Performs request j) ∧
      machine.view Event.outcome? = table.outcomes k) ∨
    ∃ k, machine.result?.isSome ∧ ¬table.Performs request k ∧
      machine.view Event.outcome? = table.outcomes k := by
  cases stands with
  | ahead _ _ _ _ activity _ _ made =>
      simp only [result?, activity, Option.isSome_none, Bool.false_eq_true, or_false] at far
      omega
  | delivering k activity _ _ _ follows made =>
      obtain ⟨time, activity⟩ := activity
      simp only [result?, activity, Option.isSome_none, Bool.false_eq_true, or_false] at far
      refine Or.inl ⟨k, by omega, ?_, follows.outcomes⟩
      exact fun j within => follows.performed j (Nat.lt_succ_of_lt within)
  | waiting k activity _ _ _ _ _ follows made =>
      simp only [result?, activity, Option.isSome_none, Bool.false_eq_true, or_false] at far
      exact Or.inl ⟨k + 1, by omega, follows.performed, follows.outcomes⟩
  | ended k summary activity _ _ past _ outcomes =>
      exact Or.inr ⟨k, by simp [result?, activity], past, outcomes⟩

/-! ## Runs -/

/-- How the advances of a run follow a timetable that a request cuts off. -/
structure Cadence (table : Timetable σ) (request : Option Nat) (run : Nat → Machine σ) : Prop where
  /-- At any time the first deliveries have begun and ended, each at its time, and all of
  them are to be performed. If the run has returned, then at its time, with a summary,
  and with all that were to be performed. -/
  soFar : ∀ limit, ∃ begun ended, ended ≤ begun ∧ begun ≤ ended + 1 ∧
    (∀ k < begun, table.Performs request k) ∧
    (run limit).view Event.payload? = table.deliveries begun ∧
    (run limit).view Event.outcome? = table.outcomes ended ∧
    ((run limit).result? = none ∧ (run limit).view Event.summary? = [] ∨
      begun = ended ∧ (∀ k, table.Performs request k ↔ k < ended) ∧
        ∃ summary, (run limit).result? = some (.ok summary) ∧
          (run limit).view Event.summary? = [(table.returns request ended, summary)])
  /-- What is to be performed is performed at some time. -/
  goesOn : ∀ count, (∀ k < count, table.Performs request k) →
    ∃ limit, count ≤ ((run limit).view Event.outcome?).length
  /-- If there is a delivery that is not to be performed, the run returns. -/
  returns : ∀ k, ¬table.Performs request k → ∃ limit, (run limit).result?.isSome

variable {before : List (Nat × Call)}

/-- A run stands at the beginning of its timetable before it advances. -/
theorem stands_begin (table : Timetable σ)
    (sorted : (before ++ (table.start, .run) :: after).Pairwise fun entry later =>
      entry.1 ≤ later.1)
    (noRun : ∀ entry ∈ before, entry.2 ≠ .run) :
    Stands table (firstRequest? (before ++ (table.start, .run) :: after)) after
      (before ++ (table.start, .run) :: after).length 0
      { memory := table.memory, agenda := before ++ (table.start, .run) :: after } := by
  refine .ahead before rfl noRun rfl rfl rfl ⟨⟨sorted, ?_, fun _ => ⟨rfl, nofun⟩, nofun⟩, nofun,
    rfl, rfl, rfl⟩ (Nat.zero_add _)
  exact fun entry _ => Nat.zero_le entry.1

/-- A run whose updates can be written follows its timetable. Only two coincidences must be
ruled out: a request in the moment of the beginning that comes after it, and a request in the
moment at which a pause ends, if what is due may go first then. -/
theorem cadence_of_run (table : Timetable σ) (before after : List (Nat × Call))
    (sorted : (before ++ (table.start, .run) :: after).Pairwise fun entry later =>
      entry.1 ≤ later.1)
    (noRun : ∀ entry ∈ before, entry.2 ≠ .run) (apart : (table.start, .cancel) ∉ after)
    (writes : ∀ k, table.Performs (firstRequest? (before ++ (table.start, .run) :: after)) k →
      table.Writes k)
    (ties : ∀ k,
      firstRequest? (before ++ (table.start, .run) :: after) = some (table.starts (k + 1)) →
        ∀ memory, table.world.goesFirst (table.starts (k + 1)) memory = false) :
    Cadence table (firstRequest? (before ++ (table.start, .run) :: after))
      (({ memory := table.memory, agenda := before ++ (table.start, .run) :: after } :
        Machine σ).run table.world table.config) := by
  have stands := stands_run (stands_begin table sorted noRun) writes apart ties
  generalize firstRequest? (before ++ (table.start, .run) :: after) = request at *
  generalize (before ++ (table.start, .run) :: after).length = entries at *
  constructor
  · intro limit
    obtain ⟨made, stands, -⟩ := stands limit
    cases stands with
    | ahead _ _ _ _ activity _ follows =>
        refine ⟨0, 0, Nat.le_refl 0, Nat.zero_le 1, follows.performed, follows.deliveries,
          follows.outcomes, Or.inl ⟨?_, follows.unreturned⟩⟩
        simp [result?, activity]
    | delivering k activity _ _ _ follows =>
        obtain ⟨time, activity⟩ := activity
        refine ⟨k + 1, k, Nat.le_succ k, Nat.le_refl (k + 1), follows.performed,
          follows.deliveries, follows.outcomes, Or.inl ⟨?_, follows.unreturned⟩⟩
        simp [result?, activity]
    | waiting k activity _ _ _ _ _ follows =>
        refine ⟨k + 1, k + 1, Nat.le_refl _, Nat.le_succ _, follows.performed,
          follows.deliveries, follows.outcomes, Or.inl ⟨?_, follows.unreturned⟩⟩
        simp [result?, activity]
    | ended k summary activity _ performed past deliveries outcomes returned =>
        refine ⟨k, k, Nat.le_refl k, Nat.le_succ k, performed, deliveries, outcomes,
          Or.inr ⟨rfl, fun j => ⟨fun performs => ?_, performed j⟩, summary, ?_, returned⟩⟩
        · by_contra later
          exact past (performs.mono (Nat.le_of_not_lt later))
        · simp [result?, activity]
  · intro count performed
    refine ⟨entries + 2 * count + 1, ?_⟩
    obtain ⟨made, stands, far⟩ := stands (entries + 2 * count + 1)
    rcases stands.of_far (by simpa using far) with ⟨k, beyond, -, outcomes⟩ | ⟨k, -, past, outcomes⟩
    · rw [outcomes, Timetable.outcomes, List.length_map, List.length_range]
      exact beyond.le
    · rw [outcomes, Timetable.outcomes, List.length_map, List.length_range]
      by_contra short
      exact past (performed k (Nat.lt_of_not_le short))
  · intro k past
    obtain ⟨made, stands, far⟩ := stands (entries + 2 * k + 1)
    rcases stands.of_far (by simpa using far) with ⟨_, beyond, performed, -⟩ | ⟨_, returned, -⟩
    · exact absurd (performed k beyond) past
    · exact ⟨_, returned⟩

/-- A timetable of deliveries that take longer and longer. -/
def slowingTable : Timetable Nat where
  world :=
    { clock := fun moment _ => Int64.ofNat moment
      draw := fun count => (⟨1⟩, ⟨2⟩, count)
      deliver := fun count _ =>
        ({ delay := 1000 * (count + 1), outcome := .rejected 503 "" }, count + 1) }
  config := Config.exampleConfig
  start := 100
  memory := 0

/-- The third delivery would begin after the request to end, the second one does not. -/
theorem cadence_of_slowingTable :
    ∃ limit summary,
      let final :=
        ({ memory := 0, agenda := [(0, .observe), (100, .run), (500, .run), (9000, .cancel)] } :
          Machine Nat).run slowingTable.world slowingTable.config limit
      final.result? = some (.ok summary) ∧ final.view Event.summary? = [(9000, summary)] ∧
        final.view Event.outcome? = [(1100, .rejected 503 ""), (8100, .rejected 503 "")] := by
  have writes : ∀ k, slowingTable.Writes k := by
    intro k
    refine ⟨_, document_built ?_ ?_⟩
    · change Config.exampleConfig.assertionType ≠ Vocabulary.binaryAssertion
      decide +kernel
    · change (⟨1⟩ : Uuid) ≠ ⟨2⟩
      decide
  have cadence := cadence_of_run slowingTable [(0, .observe)] [(500, .run), (9000, .cancel)]
    (by decide) (by decide) (by decide) (fun k _ => writes k) (fun _ _ _ => rfl)
  have second : slowingTable.Performs (some 9000) 1 := by
    refine ⟨?_, fun j _ => rfl⟩
    rintro moment ⟨⟩
    decide
  have third : ¬slowingTable.Performs (some 9000) 2 := fun performs =>
    absurd (performs.1 9000 rfl) (by decide)
  obtain ⟨limit, returned⟩ := cadence.returns 2 third
  obtain ⟨begun, ended, -, -, -, -, outcomes, unreturned | ⟨-, upTo, summary, result, returns⟩⟩ :=
    cadence.soFar limit
  · obtain ⟨result, is⟩ := Option.isSome_iff_exists.mp returned
    cases is.symm.trans unreturned.1
  · have two : ended = 2 :=
      Nat.le_antisymm (Nat.le_of_not_lt fun more => third ((upTo 2).mpr more)) ((upTo 1).mp second)
    subst two
    exact ⟨limit, summary, result, returns, outcomes⟩

end Machine

end ContextStream.Scheduler
