import ContextStream.Proofs.Scheduler.Lifecycle

/-!
# Dealing with the publisher

To the publisher every advance is one of five things: it is given an update, it is done
with one, a cycle fails in front of it, the run ends without it, or nothing of
consequence happens. What the events tell of its calls is counted along these.
-/

namespace ContextStream.Scheduler.Machine

variable {σ : Type} {world : World σ} {config : Config} {machine middle next : Machine σ}

/-- The updates that the publisher was given. -/
def payloads (machine : Machine σ) : List Payload :=
  (machine.view Event.payload?).map Prod.snd

/-- What became of them. -/
def outcomes (machine : Machine σ) : List Outcome :=
  (machine.view Event.outcome?).map Prod.snd

/-- The number of cycles that were begun. -/
def cycles (machine : Machine σ) : Nat :=
  machine.states.count .building

/-- What is added from one machine to another: updates for the publisher, their outcomes,
and a number of cycles. -/
structure Deals (machine : Machine σ) (given : List Payload) (back : List Outcome) (begun : Nat)
    (next : Machine σ) : Prop where
  payloads : next.payloads = machine.payloads ++ given
  outcomes : next.outcomes = machine.outcomes ++ back
  cycles : next.cycles = machine.cycles + begun

theorem Notes.payloads {moment : Nat} {added : List Event}
    (notes : Notes machine moment added next) :
    next.payloads = machine.payloads ++ added.filterMap Event.payload? := by
  unfold Machine.payloads
  rw [notes.view, List.map_append, List.map_map]
  simp [Function.comp_def]

theorem Notes.outcomes {moment : Nat} {added : List Event}
    (notes : Notes machine moment added next) :
    next.outcomes = machine.outcomes ++ added.filterMap Event.outcome? := by
  unfold Machine.outcomes
  rw [notes.view, List.map_append, List.map_map]
  simp [Function.comp_def]

theorem Notes.deals {moment : Nat} {added : List Event}
    (notes : Notes machine moment added next) :
    Deals machine (added.filterMap Event.payload?) (added.filterMap Event.outcome?)
      ((added.filterMap Event.state?).count .building) next where
  payloads := notes.payloads
  outcomes := notes.outcomes
  cycles := by
    unfold Machine.cycles
    rw [notes.states, List.count_append]

theorem Deals.trans {given given' : List Payload} {back back' : List Outcome} {begun begun' : Nat}
    (first : Deals machine given back begun middle)
    (second : Deals middle given' back' begun' next) :
    Deals machine (given ++ given') (back ++ back') (begun + begun') next where
  payloads := by rw [second.payloads, first.payloads, List.append_assoc]
  outcomes := by rw [second.outcomes, first.outcomes, List.append_assoc]
  cycles := by rw [second.cycles, first.cycles, Nat.add_assoc]

/-- The run stands between two deliveries, or in front of the first one. -/
def Between (machine : Machine σ) : Prop :=
  machine.activity = .idle ∨ ∃ due, machine.activity = .waiting due

theorem not_between_of_delivering {due : Nat} {reply : Reply} {time : Int64}
    (delivers : machine.activity = .delivering due reply time) : ¬machine.Between := by
  rintro (idle | ⟨due, waits⟩)
  · simp [delivers] at idle
  · simp [delivers] at waits

/-- What an advance is to the publisher. -/
inductive Dealing (world : World σ) (machine next : Machine σ) : Prop
  /-- Others do something, and the run does nothing. -/
  | aside (deals : Deals machine [] [] 0 next) (activity : next.activity = machine.activity)
      (state : next.state = machine.state) (memory : next.memory = machine.memory)
      (summary : next.summary = machine.summary)
  /-- The run ends between two deliveries. -/
  | ended (between : machine.Between) (deals : Deals machine [] [] 0 next)
      (activity : next.activity = .ended (.ok next.summary)) (memory : next.memory = machine.memory)
      (summary : next.summary = machine.summary)
  /-- A cycle gives an update to the publisher. -/
  | given {payload : Payload} {reply : Reply} {due : Nat} (between : machine.Between)
      (deals : Deals machine [payload] [] 1 next)
      (answer : world.deliver (world.prepared next.moment machine.memory) payload =
        (reply, next.memory))
      (activity : next.activity = .delivering due reply payload.update.timestamp)
      (state : next.state = .delivering) (summary : next.summary = machine.summary)
  /-- A cycle fails in front of the publisher. -/
  | failed {error : Error} (between : machine.Between) (deals : Deals machine [] [] 1 next)
      (activity : next.activity = .ended (.error error))
      (memory : next.memory = world.prepared next.moment machine.memory)
      (summary : next.summary = machine.summary)
  /-- The publisher is done with an update. -/
  | done {due : Nat} {reply : Reply} {time : Int64}
      (delivers : machine.activity = .delivering due reply time)
      (deals : Deals machine [] [reply.outcome] 0 next)
      (activity : (∃ later, next.activity = .waiting later) ∨
        next.activity = .ended (.ok next.summary))
      (memory : next.memory = machine.memory)
      (summary : next.summary = machine.summary.record reply.outcome time)

/-- A run that goes on or ends deals with the publisher at most once. -/
theorem dealing_of_proceeds (between : machine.Between) (opened : Deals machine [] [] 0 middle)
    (memory : middle.memory = machine.memory) (summary : middle.summary = machine.summary)
    (proceeds : Proceeds world config middle next) : Dealing world machine next := by
  cases proceeds with
  | finished asked =>
      exact .ended between (opened.trans (notes_finish middle).deals) rfl memory summary
  | published unasked written publishes =>
      refine .given between (opened.trans (Notes.deals publishes.trace)) ?_ publishes.activity
        publishes.state (publishes.summary.trans summary)
      rw [publishes.memory, answer, publishes.moment, memory]
  | failed unasked refused fails =>
      obtain ⟨misshape, trace⟩ := fails.trace
      obtain ⟨_, activity⟩ := fails.activity
      exact .failed between (opened.trans (Notes.deals trace)) activity
        (by rw [fails.memory, fails.moment, memory]) (fails.summary.trans summary)

/-- What is added at the end of a delivery. -/
theorem deals_counted (machine : Machine σ) (reply : Reply) (time : Int64) :
    Deals machine [] [reply.outcome] 0 (machine.counted reply time) := by
  have deals := (notes_counted machine reply time).deals
  simp only [List.filterMap_append] at deals
  rwa [filterMap_outcomeEvents _ _ _ (fun _ => rfl) (fun _ _ => rfl),
    filterMap_outcomeEvents _ _ _ (fun _ => rfl) (fun _ _ => rfl),
    filterMap_outcomeEvents _ _ _ (fun _ => rfl) (fun _ _ => rfl)] at deals

theorem between_of_idle (lives : Lives machine) (idle : machine.state = .idle) :
    machine.Between := by
  cases lives with
  | idle activity => exact Or.inl activity
  | delivering rounds activity state => simp [state] at idle
  | waiting rounds activity state => simp [state] at idle
  | ended rounds activity state => simp [state] at idle

/-- Every advance deals with the publisher at most once. -/
theorem dealing_of_advance (lives : Lives machine) (advance : Advance world config machine next) :
    Dealing world machine next := by
  cases advance with
  | @aside moment doing agenda event ahead early is =>
      have notes := notes_aside machine moment agenda event
      refine .aside ?_ rfl rfl rfl rfl
      rcases is with ⟨-, rfl⟩ | ⟨-, -, rfl⟩ <;> exact notes.deals
  | @asked moment agenda ahead early late =>
      have notes := notes_asked machine moment agenda
      exact .aside notes.deals rfl rfl rfl rfl
  | @cut moment due agenda ahead early waits =>
      have notes := notes_cut machine moment agenda
      exact .ended (Or.inr ⟨due, waits⟩) notes.deals rfl rfl rfl
  | @begun moment agenda _ ahead idle proceeds =>
      have notes := notes_begun machine moment agenda
      exact dealing_of_proceeds (between_of_idle lives idle) notes.deals rfl rfl proceeds
  | @finished due reply time delivers first asked =>
      have counted := deals_counted { machine with moment := due } reply time
      have deals := counted.trans (notes_finish _).deals
      exact .done delivers ⟨deals.payloads, deals.outcomes, deals.cycles⟩ (Or.inr rfl) rfl rfl
  | @paused due reply time delivers first goesOn =>
      have counted := deals_counted { machine with moment := due } reply time
      exact .done delivers ⟨counted.payloads, counted.outcomes, counted.cycles⟩
        (Or.inl ⟨_, rfl⟩) rfl rfl
  | @resumed due _ waits first proceeds =>
      have notes := notes_resumed machine due
      exact dealing_of_proceeds (Or.inr ⟨due, waits⟩) notes.deals rfl rfl proceeds

/-- What every dealing with the publisher keeps, a run keeps. -/
theorem run_induction_of_dealing (keeps : Machine σ → Prop)
    (step : ∀ {machine next}, keeps machine → Dealing world machine next → keeps next)
    {memory : σ} {agenda : List (Nat × Call)} (begins : keeps { memory, agenda }) (limit : Nat) :
    keeps (({ memory, agenda } : Machine σ).run world config limit) := by
  refine (run_induction (fun machine => Lives machine ∧ keeps machine) ?_
    ⟨.idle rfl rfl rfl, begins⟩ limit).2
  rintro machine next ⟨lives, kept⟩ advance
  exact ⟨lives_advance lives advance, step kept (dealing_of_advance lives advance)⟩

end ContextStream.Scheduler.Machine
