import ContextStream.Proofs.Scheduler.Places

/-!
# What an observer sees

Between the moments at which a run does something, somebody who looks at its state sees what
the timetable tells: the run has not begun, a delivery takes place, a pause lasts, or the run has
returned. The other states are taken and left at one moment, and are never seen.
-/

namespace ContextStream.Scheduler

variable {σ : Type}

/-- The state that somebody sees. -/
def Event.seen? : Event → Option State
  | .observed state => some state
  | _ => none

namespace Machine

variable {table : Timetable σ} {machine next : Machine σ}

/-! ## What a run shows -/

/-- A run does nothing of its own at a moment. -/
def Quiet (run : Nat → Machine σ) (moment : Nat) : Prop :=
  ∀ limit, moment ∉ (run limit).moments Event.isOwn

/-- A delivery takes place in a run. -/
def TakesPlace (run : Nat → Machine σ) (k : Nat) : Prop :=
  ∃ limit, k < ((run limit).view Event.payload?).length

/-- What a run shows at a moment. -/
inductive Shows (table : Timetable σ) (run : Nat → Machine σ) (moment : Nat) : State → Prop
  /-- The run has not begun. -/
  | idle (ahead : ∀ limit, ∀ start ∈ (run limit).moments Event.isBegin, moment < start) :
      Shows table run moment .idle
  /-- A delivery has begun and has not ended. -/
  | delivering (k : Nat) (takesPlace : TakesPlace run k) (since : table.starts k < moment)
      (before : moment < table.ends k) : Shows table run moment .delivering
  /-- A delivery has ended, the next one would begin later, and the run has not returned. -/
  | waiting (k : Nat) (takesPlace : TakesPlace run k) (since : table.ends k < moment)
      (before : moment < table.starts (k + 1))
      (unreturned : ∀ limit, ∀ returned ∈ (run limit).moments Event.isReturn, moment < returned) :
      Shows table run moment .waiting
  /-- The run has returned. -/
  | stopped (limit returned : Nat) (returns : returned ∈ (run limit).moments Event.isReturn)
      (since : returned < moment) : Shows table run moment .stopped

theorem shows_delivering_iff {run : Nat → Machine σ} {moment : Nat} :
    Shows table run moment .delivering ↔
      ∃ k, TakesPlace run k ∧ table.starts k < moment ∧ moment < table.ends k := by
  constructor
  · intro shows
    cases shows with
    | delivering k takesPlace since before => exact ⟨k, takesPlace, since, before⟩
  · rintro ⟨k, takesPlace, since, before⟩
    exact .delivering k takesPlace since before

theorem Quiet.ne {run : Nat → Machine σ} {moment other limit : Nat} {event : Event}
    (quiet : Quiet run moment) (noted : (other, event) ∈ (run limit).events)
    (own : event.isOwn = true) : other ≠ moment := by
  rintro rfl
  exact quiet limit (mem_moments.mpr ⟨event, noted, own⟩)

theorem mem_view {β : Type} {tells : Event → Option β} {moment : Nat} {told : β} :
    (moment, told) ∈ machine.view tells ↔
      ∃ event, (moment, event) ∈ machine.events ∧ tells event = some told := by
  simp [view]

theorem isOwn_of_payload? {event : Event} {payload : Payload}
    (gives : event.payload? = some payload) : event.isOwn = true := by
  cases event <;> first | rfl | cases gives

theorem isOwn_of_outcome? {event : Event} {outcome : Outcome}
    (hears : event.outcome? = some outcome) : event.isOwn = true := by
  cases event <;> first | rfl | cases hears

theorem isOwn_of_isBegin {event : Event} (begins : event.isBegin = true) : event.isOwn = true := by
  cases event <;> first | rfl | cases begins

theorem isOwn_of_isReturn {event : Event} (returns : event.isReturn = true) :
    event.isOwn = true := by
  cases event <;> first | rfl | cases returns

section Seen

variable {world : World σ} {config : Config} (timely : Timely machine)
  (places : ∀ limit, Place table (machine.run world config limit))

include places

/-- A state other than idle is shown after the beginning. -/
theorem Shows.begun {moment : Nat} {state : State}
    (shows : Shows table (machine.run world config) moment state) (other : state ≠ .idle) :
    ∃ limit, ∃ start ∈ (machine.run world config limit).moments Event.isBegin, start < moment := by
  have ofDelivery {k : Nat} (takesPlace : TakesPlace (machine.run world config) k)
      (since : table.starts k < moment) :
      ∃ limit, ∃ start ∈ (machine.run world config limit).moments Event.isBegin,
        start < moment := by
    obtain ⟨limit, begun⟩ := takesPlace
    exact ⟨limit, table.start, (places limit).begins begun ▸ List.mem_singleton_self _,
      Nat.lt_of_le_of_lt (table.starts_mono (Nat.zero_le k)) since⟩
  cases shows with
  | idle => exact absurd rfl other
  | delivering k takesPlace since before => exact ofDelivery takesPlace since
  | waiting k takesPlace since before unreturned =>
      exact ofDelivery takesPlace (Nat.lt_of_le_of_lt (Nat.le_add_right _ _) since)
  | stopped limit returned returns since =>
      obtain ⟨begins, first, -⟩ := (places limit).of_return returns
      exact ⟨limit, table.start, begins ▸ List.mem_singleton_self _,
        Nat.lt_of_le_of_lt first since⟩

include timely

/-- A state other than stopped is shown before the return. -/
theorem Shows.unreturned {moment : Nat} {state : State}
    (shows : Shows table (machine.run world config) moment state) (other : state ≠ .stopped) :
    ∀ limit, ∀ returned ∈ (machine.run world config limit).moments Event.isReturn,
      moment < returned := by
  intro limit returned returns
  cases shows with
  | idle ahead =>
      obtain ⟨begins, first, -⟩ := (places limit).of_return returns
      exact Nat.lt_of_lt_of_le (ahead limit _ (begins ▸ List.mem_singleton_self _)) first
  | delivering k takesPlace since before =>
      obtain ⟨upTo, begun⟩ := takesPlace
      -- When the delivery has begun and the run has returned, the delivery has ended before.
      have prefix₁ := events_run_isPrefix timely world config (Nat.le_max_left upTo limit)
      have prefix₂ := events_run_isPrefix timely world config (Nat.le_max_right upTo limit)
      have returns :
          returned ∈ (machine.run world config (max upTo limit)).moments Event.isReturn := by
        obtain ⟨event, noted, is⟩ := mem_moments.mp returns
        exact mem_moments.mpr ⟨event, prefix₂.subset noted, is⟩
      have begun : k < ((machine.run world config (max upTo limit)).view Event.payload?).length :=
        Nat.lt_of_lt_of_le begun (prefix₁.filterMap _).length_le
      exact Nat.lt_of_lt_of_le before (((places _).of_return returns).2.2 k begun)
  | waiting k takesPlace since before unreturned => exact unreturned limit returned returns
  | stopped => exact absurd rfl other

/-- At every moment a run shows one state at most. -/
theorem Shows.eq {moment : Nat} {state other : State}
    (shows : Shows table (machine.run world config) moment state)
    (shows' : Shows table (machine.run world config) moment other) : other = state := by
  have idle {state : State} (shows : Shows table (machine.run world config) moment state)
      (ahead : ∀ limit, ∀ start ∈ (machine.run world config limit).moments Event.isBegin,
        moment < start) : state = .idle := by
    by_contra begun
    obtain ⟨limit, start, begins, since⟩ := shows.begun places begun
    exact Nat.lt_asymm since (ahead limit start begins)
  have stopped {state : State} (shows : Shows table (machine.run world config) moment state)
      {limit returned : Nat}
      (returns : returned ∈ (machine.run world config limit).moments Event.isReturn)
      (since : returned < moment) : state = .stopped := by
    by_contra unended
    exact Nat.lt_asymm since (shows.unreturned timely places unended limit returned returns)
  have apart {j k : Nat} (since : table.starts k < moment) (before : moment < table.ends k)
      (ended : table.ends j < moment) (next : moment < table.starts (j + 1)) : False := by
    rcases Nat.lt_or_ge j k with earlier | later
    · have := table.starts_mono (show j + 1 ≤ k from earlier)
      omega
    · have := table.ends_mono later
      omega
  have first := shows
  have second := shows'
  cases shows with
  | idle ahead => exact idle second ahead
  | stopped limit returned returns since => exact stopped second returns since
  | delivering k takesPlace since before =>
      cases shows' with
      | idle ahead => exact (idle first ahead).symm
      | stopped limit returned returns since => exact (stopped first returns since).symm
      | delivering => rfl
      | waiting j _ ended next => exact (apart since before ended next).elim
  | waiting j takesPlace ended next unreturned =>
      cases shows' with
      | idle ahead => exact (idle first ahead).symm
      | stopped limit returned returns since => exact (stopped first returns since).symm
      | delivering k _ since before => exact (apart since before ended next).elim
      | waiting => rfl

omit places

/-- What is noted now of the run itself was noted before a quiet moment. -/
theorem Quiet.lt_of_noted {now moment : Nat} {event : Event}
    (quiet : Quiet (machine.run world config) (machine.run world config now).moment)
    (noted : (moment, event) ∈ (machine.run world config now).events)
    (own : event.isOwn = true) : moment < (machine.run world config now).moment :=
  Nat.lt_of_le_of_ne ((timely.run world config now).past _ noted) (quiet.ne noted own)

/-- What is due at a quiet moment is due later. -/
theorem Quiet.lt_of_due {now due : Nat}
    (quiet : Quiet (machine.run world config) (machine.run world config now).moment)
    (waits : (machine.run world config now).due? = some due)
    (begun : (machine.run world config now).state ≠ .idle) :
    (machine.run world config now).moment < due := by
  have timelyNow := timely.run world config now
  refine Nat.lt_of_le_of_ne (timelyNow.waits due waits) ?_
  rintro rfl
  obtain ⟨limit, event, noted, own⟩ := exists_own_of_due timelyNow begun waits
  rw [← run_add] at noted
  exact quiet.ne noted own rfl

/-- What has not been noted of the run itself at a quiet moment is noted later, if at all. -/
theorem Quiet.lt_of_silent {now : Nat}
    (quiet : Quiet (machine.run world config) (machine.run world config now).moment)
    {kind : Event → Bool} (own : ∀ {event}, kind event = true → event.isOwn = true)
    (silent : (machine.run world config now).moments kind = []) (limit : Nat) :
    ∀ moment ∈ (machine.run world config limit).moments kind,
      (machine.run world config now).moment < moment := by
  intro moment mentioned
  obtain ⟨event, noted, is⟩ := mem_moments.mp mentioned
  rcases mem_or_le_of_mem_events_run timely now noted with here | later
  · have member := mem_moments.mpr ⟨event, here, is⟩
    rw [silent] at member
    cases member
  · exact Nat.lt_of_le_of_ne later (quiet.ne noted (own is)).symm

include places

/-- At a quiet moment a run shows the state that it is in. -/
theorem shows_run (now : Nat)
    (quiet : Quiet (machine.run world config) (machine.run world config now).moment) :
    Shows table (machine.run world config) (machine.run world config now).moment
      (machine.run world config now).state := by
  cases places now with
  | ahead state unended dealt begins returns =>
      rw [state]
      exact .idle (quiet.lt_of_silent timely isOwn_of_isBegin begins)
  | delivering k state due dealt begins returns =>
      have given := dealt.deliveries ▸ table.mem_deliveries (Nat.lt_succ_self k)
      obtain ⟨event, noted, is⟩ := mem_view.mp given
      rw [state]
      refine .delivering k ⟨now, ?_⟩ (quiet.lt_of_noted timely noted (isOwn_of_payload? is))
        (quiet.lt_of_due timely due (by simp [state]))
      rw [dealt.deliveries, table.length_deliveries]
      exact Nat.lt_succ_self k
  | waiting k state due dealt begins returns =>
      have heard := dealt.outcomes ▸ table.mem_outcomes (Nat.lt_succ_self k)
      obtain ⟨event, noted, is⟩ := mem_view.mp heard
      rw [state]
      refine .waiting k ⟨now, ?_⟩ (quiet.lt_of_noted timely noted (isOwn_of_outcome? is))
        (quiet.lt_of_due timely due (by simp [state]))
        (quiet.lt_of_silent timely isOwn_of_isReturn returns)
      rw [dealt.deliveries, table.length_deliveries]
      exact Nat.lt_succ_self k
  | ended k returned state ended dealt begins returns since heard =>
      have mentioned := returns ▸ List.mem_singleton_self returned
      obtain ⟨event, noted, is⟩ := mem_moments.mp mentioned
      rw [state]
      exact .stopped now returned mentioned
        (quiet.lt_of_noted timely noted (isOwn_of_isReturn is))

end Seen

/-! ## Observations -/

section Observations

variable {world : World σ} {config : Config}

/-- Somebody who has seen a state has seen that of the run at that moment. -/
theorem exists_now_of_seen (unseen : machine.view Event.seen? = []) {limit moment : Nat}
    {state : State} (seen : (moment, state) ∈ (machine.run world config limit).view Event.seen?) :
    ∃ now, (machine.run world config now).moment = moment ∧
      (machine.run world config now).state = state := by
  induction limit with
  | zero =>
      rw [run, unseen] at seen
      cases seen
  | succ limit ih =>
      cases stepped : (machine.run world config limit).step? world config with
      | none =>
          rw [run_concat_of_step?_eq_none stepped] at seen
          exact ih seen
      | some next =>
          obtain ⟨added, notes, is⟩ := (advance_of_step? stepped).exists_notes
          rw [run_concat stepped, notes.view] at seen
          rcases List.mem_append.mp seen with before | now
          · exact ih before
          · obtain ⟨other, told, same⟩ := List.mem_map.mp now
            cases same
            obtain ⟨event, noted, sees⟩ := List.mem_filterMap.mp told
            obtain rfl : event = .observed state := by
              cases event <;> cases sees
              rfl
            rw [is state noted, ← run_concat stepped]
            exact ⟨limit + 1, rfl, rfl⟩

/-- How much of the run has been noted: its deliveries and outcomes, and its return. -/
def effort (machine : Machine σ) : Nat :=
  (machine.view Event.payload?).length + (machine.view Event.outcome?).length +
    (machine.moments Event.isReturn).length

theorem Notes.effort {moment : Nat} {added : List Event} (notes : Notes machine moment added next) :
    next.effort = machine.effort + ((added.filterMap Event.payload?).length +
      (added.filterMap Event.outcome?).length + (added.filter Event.isReturn).length) := by
  unfold Machine.effort
  rw [notes.view, notes.view, notes.moments]
  simp only [List.length_append, List.length_map]
  omega

/-- The end of a delivery brings a run forward. -/
theorem effort_lt_counted (machine : Machine σ) (reply : Reply) (time : Int64) :
    machine.effort < (machine.counted reply time).effort := by
  rw [(notes_counted machine reply time).effort]
  simp only [List.filterMap_append,
    filterMap_outcomeEvents Event.outcome? _ _ (fun _ => rfl) (fun _ _ => rfl), List.length_append,
    Event.outcome?, Option.toList_some, List.length_singleton]
  omega

/-- A move of the run brings it forward. -/
theorem Proceeds.effort_lt (proceeds : Proceeds world config machine next) :
    machine.effort < next.effort := by
  cases proceeds with
  | finished asked =>
      rw [(notes_finish machine).effort]
      exact Nat.lt_succ_self _
  | published unasked written publishes =>
      have notes : Notes machine machine.moment _ next := publishes.trace
      rw [notes.effort]
      exact Nat.lt_succ_self _
  | failed unasked refused fails =>
      obtain ⟨misshape, trace⟩ := fails.trace
      have notes : Notes machine machine.moment _ next := trace
      rw [notes.effort]
      exact Nat.lt_succ_self _

/-- An advance brings the run forward, or takes the first entry off the agenda. Who looks at the
state then sees it. -/
theorem Advance.takes (advance : Advance world config machine next) :
    (next.agenda = machine.agenda ∧ machine.effort < next.effort) ∨
      ∃ doing, machine.agenda = (next.moment, doing) :: next.agenda ∧
        machine.effort ≤ next.effort ∧
        (doing = .observe → (next.moment, machine.state) ∈ next.view Event.seen?) := by
  cases advance with
  | @aside moment doing agenda event ahead early is =>
      have notes := notes_aside machine moment agenda event
      refine Or.inr ⟨doing, ahead, notes.effort ▸ Nat.le_add_right _ _, ?_⟩
      rintro rfl
      rcases is with ⟨-, rfl⟩ | ⟨⟨⟩, -⟩
      rw [notes.view]
      exact List.mem_append_right _ (List.mem_singleton_self _)
  | @asked moment agenda ahead early late =>
      have notes := notes_asked machine moment agenda
      exact Or.inr ⟨.cancel, ahead, notes.effort ▸ Nat.le_add_right _ _, nofun⟩
  | @cut moment due agenda ahead early waits =>
      have notes := notes_cut machine moment agenda
      exact Or.inr ⟨.cancel, ahead, notes.effort ▸ Nat.le_add_right _ _, nofun⟩
  | @begun moment agenda _ ahead idle proceeds =>
      obtain ⟨now, rest, -⟩ := proceeds.exists_notes
      have notes := notes_begun machine moment agenda
      refine Or.inr ⟨.run, ?_, ?_, nofun⟩
      · rw [now, rest]
        exact ahead
      · exact (notes.effort ▸ Nat.le_add_right _ _).trans proceeds.effort_lt.le
  | @finished due reply time delivers first asked =>
      have counted := effort_lt_counted { machine with moment := due } reply time
      have notes := notes_finish ({ machine with moment := due }.counted reply time)
      exact Or.inl ⟨rfl, counted.trans_le (notes.effort ▸ Nat.le_add_right _ _)⟩
  | @paused due reply time delivers first goesOn =>
      exact Or.inl ⟨rfl, effort_lt_counted { machine with moment := due } reply time⟩
  | @resumed due _ waits first proceeds =>
      obtain ⟨-, rest, -⟩ := proceeds.exists_notes
      have notes := notes_resumed machine due
      exact Or.inl ⟨rest, (notes.effort ▸ Nat.le_add_right _ _).trans_lt proceeds.effort_lt⟩

/-- While something is on the agenda, all advances are made, and each one either takes an entry
off it or brings the run forward. -/
theorem advances_le {limit : Nat} (pending : (machine.run world config limit).agenda ≠ []) :
    limit + (machine.run world config limit).agenda.length ≤
      machine.agenda.length + (machine.run world config limit).effort := by
  induction limit with
  | zero =>
      rw [run, Nat.zero_add]
      exact Nat.le_add_right _ _
  | succ limit ih =>
      cases stepped : (machine.run world config limit).step? world config with
      | none =>
          rw [run_concat_of_step?_eq_none stepped] at pending
          exact absurd (agenda_of_step?_eq_none stepped).1 pending
      | some next =>
          rw [run_concat stepped] at pending ⊢
          rcases (advance_of_step? stepped).takes with ⟨same, further⟩ | ⟨doing, ahead, further, -⟩
          · have before := ih (same ▸ pending)
            rw [same]
            omega
          · have before := ih (by rw [ahead]; exact List.cons_ne_nil _ _)
            rw [ahead, List.length_cons] at before
            omega

/-- Who is to look at the state will do so, or has seen it. -/
theorem pending_or_seen (world : World σ) (config : Config) {moment : Nat}
    (looks : (moment, .observe) ∈ machine.agenda) (limit : Nat) :
    (moment, .observe) ∈ (machine.run world config limit).agenda ∨
      ∃ state, (moment, state) ∈ (machine.run world config limit).view Event.seen? := by
  induction limit with
  | zero => exact Or.inl looks
  | succ limit ih =>
      cases stepped : (machine.run world config limit).step? world config with
      | none => rwa [run_concat_of_step?_eq_none stepped]
      | some next =>
          have advance := advance_of_step? stepped
          rw [run_concat stepped]
          rcases ih with pending | ⟨state, seen⟩
          · rcases advance.takes with ⟨same, -⟩ | ⟨doing, ahead, -, sees⟩
            · exact Or.inl (same ▸ pending)
            · rw [ahead] at pending
              rcases List.mem_cons.mp pending with now | later
              · cases now
                exact Or.inr ⟨_, sees rfl⟩
              · exact Or.inl later
          · obtain ⟨added, notes, -⟩ := advance.exists_notes
            rw [notes.view]
            exact Or.inr ⟨state, List.mem_append_left _ seen⟩

/-- Before a moment on the agenda a run comes only so far. -/
theorem Place.effort_le (place : Place table machine) (timely : Timely machine) {moment k : Nat}
    {doing : Call} (pending : (moment, doing) ∈ machine.agenda) (far : moment < table.starts k) :
    machine.effort ≤ 2 * k + 1 := by
  obtain ⟨begun, ended, ordered, -, dealt⟩ := place.exists_dealt
  have bound : begun ≤ k := by
    by_contra beyond
    have member := dealt.deliveries ▸ table.mem_deliveries (Nat.lt_of_not_le beyond)
    have past : table.starts k ≤ machine.moment := timely.le_moment_of_view member
    have ahead : machine.moment ≤ moment := timely.ahead _ pending
    omega
  have returns := place.length_returns_le
  rw [effort, dealt.deliveries, dealt.outcomes, table.length_deliveries, table.length_outcomes]
  omega

/-- Who looks at the state sees it, unless infinitely many cycles take no time before. -/
theorem exists_seen (timely : Timely machine)
    (places : ∀ limit, Place table (machine.run world config limit)) {moment k : Nat}
    (looks : (moment, .observe) ∈ machine.agenda) (far : moment < table.starts k) :
    ∃ limit state, (moment, state) ∈ (machine.run world config limit).view Event.seen? := by
  rcases pending_or_seen world config looks (machine.agenda.length + (2 * k + 2)) with
    pending | ⟨state, seen⟩
  · have made := advances_le (List.ne_nil_of_mem pending)
    have bound := (places _).effort_le (timely.run world config _) pending far
    omega
  · exact ⟨_, state, seen⟩

/-- A run that has come to rest is quiet at all moments at which it has done nothing. -/
theorem quiet_of_rests (timely : Timely machine) {last moment : Nat}
    (rests : (machine.run world config last).step? world config = none)
    (absent : moment ∉ (machine.run world config last).moments Event.isOwn) :
    Quiet (machine.run world config) moment := by
  intro limit present
  obtain ⟨event, (noted : _ ∈ (machine.run world config limit).events), own⟩ :=
    mem_moments.mp present
  refine absent (mem_moments.mpr ⟨event, ?_, own⟩)
  rcases Nat.le_total limit last with before | after
  · exact (events_run_isPrefix timely world config before).subset noted
  · obtain ⟨more, rfl⟩ := Nat.exists_eq_add_of_le after
    rwa [run_add, run_of_step?_eq_none rests] at noted

end Observations

/-- What those see who look at the state of a run. -/
structure Observed (table : Timetable σ) (agenda : List (Nat × Call)) (run : Nat → Machine σ) :
    Prop where
  /-- The run begins when the timetable does. -/
  begins : ∀ limit, ∀ start ∈ (run limit).moments Event.isBegin, start = table.start
  /-- The deliveries that take place are the first ones of the timetable. Each begins and ends
  at its time, and no other begins before. -/
  dealt : ∀ limit, ∃ begun ended, ended ≤ begun ∧ begun ≤ ended + 1 ∧
    Dealt table begun ended (run limit)
  /-- A run has a result from the moment at which it returns. -/
  returns : ∀ limit, (run limit).result?.isSome ↔ (run limit).moments Event.isReturn ≠ []
  /-- At a quiet moment a run shows one state, and this is the one that is seen. -/
  shown : ∀ limit moment state, (moment, state) ∈ (run limit).view Event.seen? →
    Quiet run moment → ∀ other, Shows table run moment other ↔ other = state
  /-- What is seen is a cycle while a delivery takes place, and at no other time. -/
  inCycle : ∀ limit moment state, (moment, state) ∈ (run limit).view Event.seen? →
    Quiet run moment →
      (state.inCycle ↔ ∃ k, TakesPlace run k ∧ table.starts k < moment ∧ moment < table.ends k)
  /-- These states are never seen, not even when the run does something. -/
  fleeting : ∀ limit moment state, (moment, state) ∈ (run limit).view Event.seen? →
    state ≠ .running ∧ state ≠ .building ∧ state ≠ .serializing
  /-- Whoever looks sees something, unless infinitely many cycles take no time before. A pause
  that lasts excludes this. -/
  looks : ∀ moment, (moment, .observe) ∈ agenda → (∃ k, moment < table.starts k) →
    ∃ limit state, (moment, state) ∈ (run limit).view Event.seen?

/-- Those who look at the state of a run, at any moments, see that it has not begun, that a
delivery takes place, that it pauses, or that it has returned, just as the timetable tells;
this holds too when it was asked to end meanwhile, when others ask for another run, and when a
cycle fails. -/
theorem observations_of_run (world : World σ) (config : Config) (memory : σ)
    (agenda : List (Nat × Call)) (sorted : agenda.Pairwise fun entry later => entry.1 ≤ later.1) :
    Observed (timetable world config memory agenda) agenda
      (({ memory, agenda } : Machine σ).run world config) := by
  have timely : Timely ({ memory, agenda } : Machine σ) := timely_begin sorted
  have places := place_run world config memory sorted
  have shown : ∀ limit moment state,
      (moment, state) ∈ (({ memory, agenda } : Machine σ).run world config limit).view Event.seen? →
      Quiet (({ memory, agenda } : Machine σ).run world config) moment →
        ∀ other, Shows (timetable world config memory agenda)
          (({ memory, agenda } : Machine σ).run world config) moment other ↔ other = state := by
    intro limit moment state seen quiet other
    obtain ⟨now, rfl, rfl⟩ := exists_now_of_seen rfl seen
    have shows := shows_run timely places now quiet
    constructor
    · exact fun shows' => shows.eq timely places shows'
    · rintro rfl
      exact shows
  have fleeting : ∀ limit moment state,
      (moment, state) ∈ (({ memory, agenda } : Machine σ).run world config limit).view Event.seen? →
        state ≠ .running ∧ state ≠ .building ∧ state ≠ .serializing := by
    intro limit moment state seen
    obtain ⟨now, rfl, rfl⟩ := exists_now_of_seen rfl seen
    exact (places now).not_fleeting
  constructor
  · exact fun limit => (places limit).eq_start
  · exact fun limit => (places limit).exists_dealt
  · exact fun limit => (places limit).isSome_result?_iff
  · exact shown
  · intro limit moment state seen quiet
    rw [← shows_delivering_iff, shown limit moment state seen quiet .delivering]
    obtain ⟨notRunning, notBuilding, notSerializing⟩ := fleeting limit moment state seen
    cases state <;> simp_all [State.inCycle]
  · exact fleeting
  · rintro moment looks ⟨k, far⟩
    exact exists_seen timely places looks far

/-- What others do in a run: they ask it to end in its second delivery, and look at its state
five times. -/
def watchfulAgenda : List (Nat × Call) :=
  [(50, .observe), (100, .run), (600, .observe), (3000, .observe), (7000, .cancel),
    (7500, .observe), (9000, .observe)]

/-- A run among them whose deliveries take their time. -/
def watchfulRun : Nat → Machine Nat :=
  ({ memory := 0, agenda := watchfulAgenda } : Machine Nat).run slowingTable.world
    slowingTable.config

/-- A delivery is seen to its end, though the run was asked to end before. -/
theorem observations_of_watchfulAgenda :
    watchfulAgenda.Pairwise (fun entry later => entry.1 ≤ later.1) ∧
      (watchfulRun 10).view Event.seen? =
          [(50, .idle), (600, .delivering), (3000, .waiting), (7500, .delivering),
            (9000, .stopped)] ∧
        ∀ other, Shows (timetable slowingTable.world slowingTable.config 0 watchfulAgenda)
          watchfulRun 7500 other ↔ other = .delivering := by
  have sorted : watchfulAgenda.Pairwise (fun entry later => entry.1 ≤ later.1) := by decide
  have seen : (watchfulRun 10).view Event.seen? =
      [(50, .idle), (600, .delivering), (3000, .waiting), (7500, .delivering),
        (9000, .stopped)] := by
    decide +kernel
  have rests : (watchfulRun 10).step? slowingTable.world slowingTable.config = none :=
    Option.isNone_iff_eq_none.mp (by decide +kernel)
  have absent : 7500 ∉ (watchfulRun 10).moments Event.isOwn := by decide +kernel
  have quiet : Quiet watchfulRun 7500 := quiet_of_rests (timely_begin sorted) rests absent
  have observed :=
    observations_of_run slowingTable.world slowingTable.config 0 watchfulAgenda sorted
  have late : (7500, .delivering) ∈ (watchfulRun 10).view Event.seen? := by
    rw [seen]
    decide
  exact ⟨sorted, seen, observed.shown 10 7500 .delivering late quiet⟩

end Machine

end ContextStream.Scheduler
