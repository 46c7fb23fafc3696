import ContextStream.Proofs.Scheduler.Chronicle
import ContextStream.Proofs.Scheduler.Moments
import ContextStream.Proofs.Scheduler.Tally

/-!
# Where a run stands

What has been noted tells where a run stands in its timetable: it has not begun, a delivery
takes place, it pauses, or it has returned. The cycles tell the deliveries and the outcomes;
beginning and return are counted beside them, so that a run which has returned is known to have
ended every delivery that it began.
-/

namespace ContextStream.Scheduler

variable {σ : Type}

namespace Event

/-- Whether a run begins. -/
def isBegin : Event → Bool
  | .started => true
  | _ => false

/-- Whether a run returns. -/
def isReturn : Event → Bool
  | .finished _ | .failed _ => true
  | _ => false

end Event

/-! ## Deliveries and outcomes -/

namespace Timetable

variable (table : Timetable σ)

theorem ends_mono : Monotone table.ends := by
  apply monotone_nat_of_le_succ
  intro k
  rw [ends, ends, starts_succ, ends]
  omega

theorem mem_deliveries {count k : Nat} (begun : k < count) :
    (table.starts k, table.payload k) ∈ table.deliveries count :=
  List.mem_map.mpr ⟨k, List.mem_range.mpr begun, rfl⟩

theorem mem_outcomes {count k : Nat} (ended : k < count) :
    (table.ends k, (table.reply k).outcome) ∈ table.outcomes count :=
  List.mem_map.mpr ⟨k, List.mem_range.mpr ended, rfl⟩

theorem length_deliveries (count : Nat) : (table.deliveries count).length = count := by
  rw [deliveries, List.length_map, List.length_range]

theorem length_outcomes (count : Nat) : (table.outcomes count).length = count := by
  rw [outcomes, List.length_map, List.length_range]

/-- What a cycle notes when the publisher is done tells one outcome. -/
theorem filterMap_closing {β : Type} (tells : Event → Option β) (k : Nat)
    (reported : ∀ entry, tells (.reported entry) = none)
    (wentBack : ∀ time last, tells (.clockWentBack time last) = none)
    (entered : tells (.entered .delivering .waiting) = none) :
    (table.closing k).filterMap tells = (tells (.delivered (table.reply k).outcome)).toList := by
  have unreported : ((table.reply k).entries.map Event.reported).filterMap tells = [] := by
    simp [List.filterMap_map, reported]
  have unwarned : (table.warning k).filterMap tells = [] := by
    cases k with
    | zero => rfl
    | succ k =>
        rw [warning]
        split <;> simp [wentBack]
  rw [closing, List.append_assoc, List.filterMap_append, unreported, List.nil_append,
    List.cons_append, ← List.singleton_append, List.filterMap_append, List.filterMap_append,
    unwarned]
  cases told : tells (.delivered (table.reply k).outcome) <;> simp [told, entered]

/-- What the cycles give to the publisher are the deliveries. -/
theorem payload?_cycles (count : Nat) :
    (table.cycles count).filterMap (fun entry => (Event.payload? entry.2).map (entry.1, ·)) =
      table.deliveries count := by
  induction count with
  | zero => rfl
  | succ count ih =>
      rw [cycles_succ, deliveries_succ, List.filterMap_append, ih, cycle, begun,
        List.filterMap_append, Machine.filterMap_map_moment, Machine.filterMap_map_moment,
        filterMap_closing _ _ _ (fun _ => rfl) (fun _ _ => rfl) rfl]
      rfl

/-- What the cycles get back are the outcomes. -/
theorem outcome?_cycles (count : Nat) :
    (table.cycles count).filterMap (fun entry => (Event.outcome? entry.2).map (entry.1, ·)) =
      table.outcomes count := by
  induction count with
  | zero => rfl
  | succ count ih =>
      rw [cycles_succ, outcomes_succ, List.filterMap_append, ih, cycle, begun,
        List.filterMap_append, Machine.filterMap_map_moment, Machine.filterMap_map_moment,
        filterMap_closing _ _ _ (fun _ => rfl) (fun _ _ => rfl) rfl]
      rfl

end Timetable

namespace Machine

variable {table : Timetable σ} {machine next : Machine σ}

/-- The moments of the events of a kind. -/
def moments (kind : Event → Bool) (machine : Machine σ) : List Nat :=
  (machine.events.filter (kind ·.2)).map Prod.fst

theorem mem_moments {kind : Event → Bool} {moment : Nat} :
    moment ∈ machine.moments kind ↔
      ∃ event, (moment, event) ∈ machine.events ∧ kind event = true := by
  simp [moments]

theorem Notes.moments {moment : Nat} {added : List Event} (notes : Notes machine moment added next)
    (kind : Event → Bool) :
    next.moments kind = machine.moments kind ++ (added.filter kind).map fun _ => moment := by
  unfold Machine.moments
  rw [notes.events, List.filter_append, List.map_append, List.filter_map, List.map_map]
  rfl

theorem Orderly.le_moment (orderly : Orderly machine) {kind : Event → Bool} {moment : Nat}
    (noted : moment ∈ machine.moments kind) : moment ≤ machine.moment := by
  obtain ⟨event, member, -⟩ := mem_moments.mp noted
  exact orderly.past _ member

theorem Orderly.le_moment_of_view {β : Type} (orderly : Orderly machine)
    {tells : Event → Option β} {entry : Nat × β} (told : entry ∈ machine.view tells) :
    entry.1 ≤ machine.moment := by
  obtain ⟨noted, member, is⟩ := List.mem_filterMap.mp told
  obtain ⟨_, -, rfl⟩ := Option.map_eq_some_iff.mp is
  exact orderly.past _ member

/-! ## The beginning and the end of a run -/

/-- What has been noted of the beginning and the end of a run. -/
inductive Framed (table : Timetable σ) (machine : Machine σ) : Prop
  | ahead (activity : machine.activity = .idle) (state : machine.state = .idle)
      (begins : machine.moments Event.isBegin = []) (returns : machine.moments Event.isReturn = [])
  | begun (unended : machine.result? = none) (state : machine.state ≠ .idle)
      (begins : machine.moments Event.isBegin = [table.start])
      (returns : machine.moments Event.isReturn = [])
      (heard : ∀ due, machine.activity = .waiting due → machine.view Event.outcome? ≠ [])
  | ended (returned : Nat) (ended : machine.result?.isSome) (state : machine.state ≠ .idle)
      (begins : machine.moments Event.isBegin = [table.start])
      (returns : machine.moments Event.isReturn = [returned]) (since : table.start ≤ returned)
      (heard : ∀ entry ∈ machine.view Event.outcome?, entry.1 ≤ returned)

/-- What others do alone is no part of it. -/
theorem Framed.of_notes (framed : Framed table machine) {moment : Nat} {added : List Event}
    (notes : Notes machine moment added next)
    (silent : added.filter Event.isBegin = [] ∧ added.filter Event.isReturn = [] ∧
      added.filterMap Event.outcome? = [])
    (same : next.activity = machine.activity ∧ next.state = machine.state) :
    Framed table next := by
  obtain ⟨noBegin, noReturn, noOutcome⟩ := silent
  obtain ⟨activity, state⟩ := same
  have begins : next.moments Event.isBegin = machine.moments Event.isBegin := by
    rw [notes.moments, noBegin, List.map_nil, List.append_nil]
  have returns : next.moments Event.isReturn = machine.moments Event.isReturn := by
    rw [notes.moments, noReturn, List.map_nil, List.append_nil]
  have outcomes : next.view Event.outcome? = machine.view Event.outcome? := by
    rw [notes.view, noOutcome, List.map_nil, List.append_nil]
  have result : next.result? = machine.result? := by rw [result?, result?, activity]
  cases framed with
  | ahead activity' state' begins' returns' =>
      exact .ahead (activity.trans activity') (state.trans state') (begins.trans begins')
        (returns.trans returns')
  | begun unended state' begins' returns' heard =>
      refine .begun (result.trans unended) (state ▸ state') (begins.trans begins')
        (returns.trans returns') ?_
      rw [activity, outcomes]
      exact heard
  | ended returned ended state' begins' returns' since heard =>
      refine .ended returned (result ▸ ended) (state ▸ state') (begins.trans begins')
        (returns.trans returns') since ?_
      rw [outcomes]
      exact heard

/-- A run that returns does so after all that it has noted. -/
theorem framed_of_return (orderly : Orderly machine)
    (begins : machine.moments Event.isBegin = [table.start])
    (returns : machine.moments Event.isReturn = []) {added : List Event}
    (notes : Notes machine machine.moment added next)
    (last : added.filter Event.isBegin = [] ∧ (∃ event, added.filter Event.isReturn = [event]) ∧
      added.filterMap Event.outcome? = [])
    (ended : next.result?.isSome) (state : next.state ≠ .idle) : Framed table next := by
  obtain ⟨noBegin, ⟨event, isReturn⟩, noOutcome⟩ := last
  refine .ended machine.moment ended state ?_ ?_ ?_ ?_
  · rw [notes.moments, noBegin, begins]
    rfl
  · rw [notes.moments, isReturn, returns]
    rfl
  · exact orderly.le_moment (begins ▸ List.mem_singleton_self _)
  · rw [notes.view, noOutcome, List.map_nil, List.append_nil]
    exact fun entry member => orderly.le_moment_of_view member

theorem framed_finish (orderly : Orderly machine)
    (begins : machine.moments Event.isBegin = [table.start])
    (returns : machine.moments Event.isReturn = []) : Framed table machine.finish :=
  framed_of_return orderly begins returns (notes_finish machine) ⟨rfl, ⟨_, rfl⟩, rfl⟩ rfl nofun

theorem framed_of_proceeds {world : World σ} {config : Config} (orderly : Orderly machine)
    (begins : machine.moments Event.isBegin = [table.start])
    (returns : machine.moments Event.isReturn = [])
    (proceeds : Proceeds world config machine next) : Framed table next := by
  cases proceeds with
  | finished asked => exact framed_finish orderly begins returns
  | published unasked written publishes =>
      have notes : Notes machine machine.moment _ next := publishes.trace
      refine .begun ?_ ?_ ?_ ?_ ?_
      · rw [result?, publishes.activity]
      · simp [publishes.state]
      · rw [notes.moments, begins]
        rfl
      · rw [notes.moments, returns]
        rfl
      · simp [publishes.activity]
  | failed unasked refused fails =>
      obtain ⟨misshape, trace⟩ := fails.trace
      obtain ⟨_, activity⟩ := fails.activity
      refine framed_of_return orderly begins returns trace ⟨rfl, ⟨_, rfl⟩, rfl⟩ ?_ ?_
      · simp [result?, activity]
      · simp [fails.state]

/-- A run that is due has begun and has not returned. -/
theorem Framed.of_due (framed : Framed table machine) {due : Nat}
    (waits : machine.due? = some due) :
    machine.moments Event.isBegin = [table.start] ∧ machine.moments Event.isReturn = [] := by
  cases framed with
  | ahead activity => simp [due?, activity] at waits
  | begun unended state begins returns heard => exact ⟨begins, returns⟩
  | ended returned ended =>
      rw [result?_of_due? waits] at ended
      cases ended

/-- The end of a delivery is neither the beginning nor the end of the run. -/
theorem moments_counted (machine : Machine σ) {kind : Event → Bool} (reply : Reply) (time : Int64)
    (reported : ∀ entry, kind (.reported entry) = false)
    (delivered : ∀ outcome, kind (.delivered outcome) = false)
    (wentBack : ∀ time last, kind (.clockWentBack time last) = false)
    (entered : ∀ before after, kind (.entered before after) = false) :
    (machine.counted reply time).moments kind = machine.moments kind := by
  rw [(notes_counted machine reply time).moments, List.filter_eq_nil_iff.mpr, List.map_nil,
    List.append_nil]
  intro event noted
  rcases List.mem_append.mp noted with outcome | last
  · rcases mem_outcomeEvents outcome with ⟨entry, rfl⟩ | rfl | ⟨last, rfl⟩
    · simp [reported]
    · simp [delivered]
    · simp [wentBack]
  · obtain rfl := List.mem_singleton.mp last
    simp [entered]

theorem framing_counted (machine : Machine σ) (reply : Reply) (time : Int64) :
    (machine.counted reply time).moments Event.isBegin = machine.moments Event.isBegin ∧
      (machine.counted reply time).moments Event.isReturn = machine.moments Event.isReturn :=
  ⟨moments_counted machine reply time (fun _ => rfl) (fun _ => rfl) (fun _ _ => rfl)
      (fun _ _ => rfl),
    moments_counted machine reply time (fun _ => rfl) (fun _ => rfl) (fun _ _ => rfl)
      (fun _ _ => rfl)⟩

theorem framed_advance {table : Timetable σ} (progress : Progress table machine)
    (timely : Timely machine) (framed : Framed table machine)
    (advance : Advance table.world table.config machine next) : Framed table next := by
  cases advance with
  | @aside moment doing agenda event ahead early is =>
      refine framed.of_notes (notes_aside machine moment agenda event) ?_ ⟨rfl, rfl⟩
      rcases is with ⟨-, rfl⟩ | ⟨-, -, rfl⟩ <;> exact ⟨rfl, rfl, rfl⟩
  | @asked moment agenda ahead early late =>
      exact framed.of_notes (notes_asked machine moment agenda) ⟨rfl, rfl, rfl⟩ ⟨rfl, rfl⟩
  | @cut moment due agenda ahead early waits =>
      obtain ⟨begins, returns⟩ := framed.of_due (due?_of_waiting waits)
      obtain ⟨-, orderly⟩ := timely.take ahead
      exact framed_of_return orderly begins returns (notes_cut machine moment agenda)
        ⟨rfl, ⟨_, rfl⟩, rfl⟩ rfl nofun
  | @begun moment agenda _ ahead idle proceeds =>
      cases framed with
      | begun _ state => exact absurd idle state
      | ended _ _ state => exact absurd idle state
      | ahead activity state begins returns =>
          have now : moment = table.start := by
            cases progress with
            | ahead _ _ _ first => exact first moment (by simp [ahead, firstRun?_run])
            | delivering _ _ _ other => simp [other] at idle
            | waiting _ _ other => simp [other] at idle
            | ended _ _ _ other => simp [other] at idle
          have notes := notes_begun machine moment agenda
          obtain ⟨-, orderly⟩ := timely.take ahead
          refine framed_of_proceeds (orderly.of_notes notes rfl rfl) ?_ ?_ proceeds
          · rw [notes.moments, begins, now]
            rfl
          · rw [notes.moments, returns]
            rfl
  | @finished due reply time delivers first asked =>
      have waits := due?_of_delivering delivers
      obtain ⟨begins, returns⟩ := framed.of_due waits
      obtain ⟨sameBegins, sameReturns⟩ := framing_counted { machine with moment := due } reply time
      have orderly := timely.wait waits (timely.waits due waits) first
      exact framed_finish (orderly.of_notes (notes_counted _ reply time) rfl rfl)
        (sameBegins.trans begins) (sameReturns.trans returns)
  | @paused due reply time delivers first goesOn =>
      obtain ⟨begins, returns⟩ := framed.of_due (due?_of_delivering delivers)
      obtain ⟨sameBegins, sameReturns⟩ := framing_counted { machine with moment := due } reply time
      refine .begun rfl nofun (sameBegins.trans begins) (sameReturns.trans returns) fun _ _ => ?_
      change (counted { machine with moment := due } reply time).view Event.outcome? ≠ []
      rw [(notes_counted { machine with moment := due } reply time).view, List.filterMap_append,
        filterMap_outcomeEvents _ _ _ (fun _ => rfl) (fun _ _ => rfl)]
      simp [Event.outcome?]
  | @resumed due _ waits first proceeds =>
      obtain ⟨begins, returns⟩ := framed.of_due (due?_of_waiting waits)
      have notes := notes_resumed machine due
      have later : machine.due? = some due := due?_of_waiting waits
      have orderly := timely.wait later (timely.waits due later) first
      refine framed_of_proceeds (orderly.of_notes notes rfl rfl) ?_ ?_ proceeds
      · rw [notes.moments]
        exact (List.append_nil _).trans begins
      · rw [notes.moments]
        exact (List.append_nil _).trans returns

/-! ## Where a run stands -/

/-- Some deliveries of a timetable have begun, and some have ended. -/
structure Dealt (table : Timetable σ) (begun ended : Nat) (machine : Machine σ) : Prop where
  deliveries : machine.view Event.payload? = table.deliveries begun
  outcomes : machine.view Event.outcome? = table.outcomes ended

/-- What is told of the cycles is told by the whole ones and by what is under way. -/
theorem Recounts.view {β : Type} {count : Nat} {underway : List (Nat × Event)}
    (recounts : Recounts table count underway machine) (tells : Event → Option β)
    (own : ∀ event, event.ofCycle? = none → tells event = none) :
    machine.view tells =
      (table.cycles count).filterMap (fun entry => (tells entry.2).map (entry.1, ·)) ++
        underway.filterMap fun entry => (tells entry.2).map (entry.1, ·) := by
  rw [machine.view_eq_filterMap_chronicle tells own, recounts.chronicle, List.filterMap_append]

theorem payload?_of_ofCycle? {event : Event} (foreign : event.ofCycle? = none) :
    event.payload? = none := by
  cases event <;> first | rfl | cases foreign

theorem outcome?_of_ofCycle? {event : Event} (foreign : event.ofCycle? = none) :
    event.outcome? = none := by
  cases event <;> first | rfl | cases foreign

/-- Between two cycles all deliveries that have begun have ended. -/
theorem Recounts.dealt {count : Nat} {underway : List (Nat × Event)}
    (recounts : Recounts table count underway machine)
    (unpaid : underway.filterMap (fun entry => (Event.payload? entry.2).map (entry.1, ·)) = [])
    (unheard : underway.filterMap (fun entry => (Event.outcome? entry.2).map (entry.1, ·)) = []) :
    Dealt table count count machine where
  deliveries := by
    rw [recounts.view _ fun _ => payload?_of_ofCycle?, table.payload?_cycles, unpaid,
      List.append_nil]
  outcomes := by
    rw [recounts.view _ fun _ => outcome?_of_ofCycle?, table.outcome?_cycles, unheard,
      List.append_nil]

theorem Recounts.dealt_begun {count : Nat}
    (recounts : Recounts table count (table.begun count) machine) :
    Dealt table (count + 1) count machine where
  deliveries := by
    rw [recounts.view _ fun _ => payload?_of_ofCycle?, table.payload?_cycles, table.deliveries_succ]
    rfl
  outcomes := by
    rw [recounts.view _ fun _ => outcome?_of_ofCycle?, table.outcome?_cycles]
    exact List.append_nil _

/-- A run that stands still has got back as much as it has given. -/
theorem length_payload?_of_ended {world : World σ} {memory : σ}
    (accounts : Accounts world memory machine) (ended : machine.result?.isSome) :
    (machine.view Event.payload?).length = (machine.view Event.outcome?).length := by
  cases accounts with
  | settled history _ _ ledger =>
      have given := congrArg List.length ledger.payloads
      have back := congrArg List.length ledger.outcomes
      simp only [payloads, outcomes, List.length_map, List.append_nil] at given back
      rw [given, back]
  | pending _ _ activity => simp [result?, activity] at ended

/-- Where a run stands, by what has been noted. -/
inductive Place (table : Timetable σ) (machine : Machine σ) : Prop
  | ahead (state : machine.state = .idle) (unended : machine.result? = none)
      (dealt : Dealt table 0 0 machine) (begins : machine.moments Event.isBegin = [])
      (returns : machine.moments Event.isReturn = [])
  | delivering (k : Nat) (state : machine.state = .delivering)
      (due : machine.due? = some (table.ends k)) (dealt : Dealt table (k + 1) k machine)
      (begins : machine.moments Event.isBegin = [table.start])
      (returns : machine.moments Event.isReturn = [])
  | waiting (k : Nat) (state : machine.state = .waiting)
      (due : machine.due? = some (table.starts (k + 1)))
      (dealt : Dealt table (k + 1) (k + 1) machine)
      (begins : machine.moments Event.isBegin = [table.start])
      (returns : machine.moments Event.isReturn = [])
  | ended (k returned : Nat) (state : machine.state = .stopped) (ended : machine.result?.isSome)
      (dealt : Dealt table k k machine) (begins : machine.moments Event.isBegin = [table.start])
      (returns : machine.moments Event.isReturn = [returned]) (since : table.start ≤ returned)
      (heard : ∀ j < k, table.ends j ≤ returned)

theorem place_of_progress {world : World σ} {memory : σ} (progress : Progress table machine)
    (framed : Framed table machine) (accounts : Accounts world memory machine) :
    Place table machine := by
  cases progress with
  | ahead state activity _ _ recounts =>
      cases framed with
      | ahead _ _ begins returns =>
          have unended : machine.result? = none := by rw [result?, activity]
          exact .ahead state unended (recounts.dealt rfl rfl) begins returns
      | begun _ begun => exact absurd state begun
      | ended _ _ begun => exact absurd state begun
  | delivering k writes activity state _ recounts =>
      have due := due?_of_delivering activity
      obtain ⟨begins, returns⟩ := framed.of_due due
      exact .delivering k state due recounts.dealt_begun begins returns
  | waiting k activity state _ recounts =>
      have due := due?_of_waiting activity
      have dealt := recounts.dealt rfl rfl
      cases framed with
      | ahead idle => simp [activity] at idle
      | ended _ ended => simp [result?, activity] at ended
      | begun _ _ begins returns heard =>
          cases k with
          | zero => exact absurd dealt.outcomes (heard _ activity)
          | succ k => exact .waiting k state due dealt begins returns
  | ended k result activity state _ left recounts =>
      cases framed with
      | ahead idle => simp [activity] at idle
      | begun unended => simp [result?, activity] at unended
      | ended returned ended _ begins returns since heard =>
          have dealt : Dealt table k k machine := by
            cases left with
            | nothing => exact recounts.dealt rfl rfl
            | failed error unwritten => exact recounts.dealt rfl rfl
            | delivering writes =>
                have dealt := recounts.dealt_begun
                have same := length_payload?_of_ended accounts ended
                rw [dealt.deliveries, dealt.outcomes, table.length_deliveries,
                  table.length_outcomes] at same
                omega
          refine .ended k returned state ended dealt begins returns since fun j before => ?_
          exact heard _ (dealt.outcomes ▸ table.mem_outcomes before)

/-- A run begins when its timetable does. -/
theorem Place.eq_start (place : Place table machine) :
    ∀ start ∈ machine.moments Event.isBegin, start = table.start := by
  cases place with
  | ahead _ _ _ none? => simp [none?]
  | delivering _ _ _ _ is => simp [is]
  | waiting _ _ _ _ is => simp [is]
  | ended _ _ _ _ _ is => simp [is]

/-- The deliveries that have begun have ended, but for the last one perhaps. -/
theorem Place.exists_dealt (place : Place table machine) :
    ∃ begun ended, ended ≤ begun ∧ begun ≤ ended + 1 ∧ Dealt table begun ended machine := by
  cases place with
  | ahead _ _ dealt => exact ⟨0, 0, Nat.le_refl 0, Nat.zero_le 1, dealt⟩
  | delivering k _ _ dealt => exact ⟨k + 1, k, Nat.le_succ k, Nat.le_refl (k + 1), dealt⟩
  | waiting k _ _ dealt => exact ⟨k + 1, k + 1, Nat.le_refl _, Nat.le_succ _, dealt⟩
  | ended k _ _ _ dealt => exact ⟨k, k, Nat.le_refl k, Nat.le_succ k, dealt⟩

/-- A run has a result from the moment at which it returns. -/
theorem Place.isSome_result?_iff (place : Place table machine) :
    machine.result?.isSome ↔ machine.moments Event.isReturn ≠ [] := by
  cases place with
  | ahead _ unended _ _ none? => simp [unended, none?]
  | delivering _ _ due _ _ none? => simp [result?_of_due? due, none?]
  | waiting _ _ due _ _ none? => simp [result?_of_due? due, none?]
  | ended _ _ _ ended _ _ is => simp [ended, is]

theorem Place.length_returns_le (place : Place table machine) :
    (machine.moments Event.isReturn).length ≤ 1 := by
  cases place with
  | ahead _ _ _ _ none? => simp [none?]
  | delivering _ _ _ _ _ none? => simp [none?]
  | waiting _ _ _ _ _ none? => simp [none?]
  | ended _ _ _ _ _ _ is => simp [is]

/-- The states on the way to a delivery are passed at one moment. -/
theorem Place.not_fleeting (place : Place table machine) :
    machine.state ≠ .running ∧ machine.state ≠ .building ∧ machine.state ≠ .serializing := by
  cases place <;> simp [*]

/-- A run that has begun a delivery has begun. -/
theorem Place.begins (place : Place table machine) {k : Nat}
    (begun : k < (machine.view Event.payload?).length) :
    machine.moments Event.isBegin = [table.start] := by
  cases place with
  | ahead state unended dealt =>
      rw [dealt.deliveries] at begun
      cases begun
  | delivering k state due dealt begins => exact begins
  | waiting k state due dealt begins => exact begins
  | ended k returned state ended dealt begins => exact begins

/-- A run that has returned has begun, and has ended all deliveries that it has begun. -/
theorem Place.of_return (place : Place table machine) {returned : Nat}
    (returns : returned ∈ machine.moments Event.isReturn) :
    machine.moments Event.isBegin = [table.start] ∧ table.start ≤ returned ∧
      ∀ k < (machine.view Event.payload?).length, table.ends k ≤ returned := by
  cases place with
  | ahead _ _ _ _ none? => simp [none?] at returns
  | delivering _ _ _ _ _ none? => simp [none?] at returns
  | waiting _ _ _ _ _ none? => simp [none?] at returns
  | ended k last state ended dealt begins is since heard =>
      obtain rfl : returned = last := by simpa [is] using returns
      rw [dealt.deliveries, table.length_deliveries]
      exact ⟨begins, since, heard⟩

/-! ## Runs -/

section Runs

variable (world : World σ) (config : Config) (memory : σ) {agenda : List (Nat × Call)}

theorem timely_begin {memory : σ} (sorted : agenda.Pairwise fun entry later => entry.1 ≤ later.1) :
    Timely ({ memory, agenda } : Machine σ) :=
  ⟨⟨sorted, fun entry _ => Nat.zero_le entry.1, by simp [events]⟩, by simp [due?]⟩

theorem place_run (sorted : agenda.Pairwise fun entry later => entry.1 ≤ later.1) (limit : Nat) :
    Place (timetable world config memory agenda)
      (({ memory, agenda } : Machine σ).run world config limit) := by
  have framed : Framed (timetable world config memory agenda)
      (({ memory, agenda } : Machine σ).run world config limit) := by
    refine (run_induction (fun machine => Progress (timetable world config memory agenda) machine ∧
      Timely machine ∧ Framed (timetable world config memory agenda) machine) ?_ ?_ limit).2.2
    · rintro machine next ⟨progress, timely, framed⟩ advance
      exact ⟨progress_advance progress advance, (timely_advance timely advance).1,
        framed_advance progress timely framed advance⟩
    · exact ⟨progress_run world config memory agenda 0, timely_begin sorted, .ahead rfl rfl rfl rfl⟩
  exact place_of_progress (progress_run world config memory agenda limit) framed
    (accounts_run world config memory agenda limit)

end Runs

end Machine

end ContextStream.Scheduler
