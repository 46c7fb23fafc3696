import ContextStream.Proofs.Scheduler.Advances

/-!
# A scheduler in single moves

A machine advances by a whole cycle at once. Here the run is taken apart into single moves,
each of which changes the state once, or reads the clock, or calls the publisher, or looks at
the token. What others do falls between any two of them, and each caller of a run brings a
token of his own: only the token of the call that began the run is heeded. A call that is
turned away is answered later, when the state may be another one.

The runs of a machine are among the plays of such a stage (`exists_play_of_run`).
-/

namespace ContextStream.Scheduler

/-- What others do, and with which token. -/
inductive Deed (τ : Type) where
  | run (token : τ)
  | cancel (token : τ)
  | observe

/-- Whose turn it is. -/
inductive Turn (τ : Type) where
  /-- It is another moment. Nothing is asked of the order of the moments. -/
  | time (moment : Nat)
  | others (deed : Deed τ)
  /-- A caller that was turned away gets an answer. -/
  | answer
  /-- The run makes a move. -/
  | goOn

/-- What others do, without their tokens. -/
def Turn.call? {τ : Type} : Turn τ → Option Call
  | .others (.run _) => some .run
  | .others (.cancel _) => some .cancel
  | .others .observe => some .observe
  | .time _ | .answer | .goOn => none

/-- The next move of a run. -/
inductive Move where
  | tellStart
  | look
  | build
  | readClock
  | serialize (assertion : Assertion) (time : Int64)
  | write (assertion : Assertion) (time : Int64)
  | hand (document : String) (time : Int64)
  | publish (document : String) (time : Int64)
  | hear (reply : Reply) (time : Int64)
  | count (reply : Reply) (time : Int64)
  | pause
  | race
  | again
  | stop
  | tellEnd
  | tellFault (error : Error)
  | stopBy (error : Error)

/-- A scheduler between two moves. Whether the run was asked to end is told by the tokens,
and the machine has no agenda. -/
structure Stage (σ τ : Type) where
  machine : Machine σ
  /-- The next move, unless the run rests or has not begun. -/
  next? : Option Move := none
  /-- The token that the run heeds. -/
  token? : Option τ := none
  /-- The tokens with which an end was asked for. -/
  cancelled : List τ := []
  /-- How many callers were turned away and wait for an answer. -/
  turnedAway : Nat := 0

namespace Stage

variable {σ τ : Type}

def note (stage : Stage σ τ) (event : Event) : Stage σ τ :=
  { stage with machine := stage.machine.note event }

def enter (stage : Stage σ τ) (state : State) : Stage σ τ :=
  { stage with machine := stage.machine.enter state }

/-- The run makes this move next. -/
def before (stage : Stage σ τ) (move : Move) : Stage σ τ :=
  { stage with next? := some move }

/-- The run rests in an activity. -/
def rest (stage : Stage σ τ) (activity : Activity) : Stage σ τ :=
  { stage with machine := { stage.machine with activity }, next? := none }

/-- The clock is read, and an update is made of its time. -/
def readClock (world : World σ) (config : Config) (stage : Stage σ τ) : Stage σ τ :=
  let (time, memory) := world.read stage.machine.moment stage.machine.memory
  let (id, stampId, memory) := world.draw memory
  let stage := { stage with machine := { stage.machine with memory } }
  (stage.note (.clockRead time)).before (.serialize (config.assertion id stampId time) time)

/-- The update has a document, or it has none. -/
def written (stage : Stage σ τ) (assertion : Assertion) (time : Int64) :
    Except Assertion.Misshape String → Stage σ τ
  | .error misshape => stage.before (.tellFault (.malformedGraph misshape))
  | .ok document =>
      (stage.note (.built assertion.id assertion.toGraph.size time)).before (.hand document time)

/-- The publisher is called. -/
def publish (world : World σ) (config : Config) (stage : Stage σ τ) (document : String)
    (time : Int64) : Stage σ τ :=
  let payload := Payload.ofDocument config.stream document time
  let (reply, memory) := world.deliver stage.machine.memory payload
  let stage := { stage with machine := { stage.machine with memory } }
  (stage.note (.delivering payload)).rest
    (.delivering (stage.machine.moment + reply.delay) reply time)

/-- The publisher is done, and may have asked the run to end. -/
def hear (stage : Stage σ τ) (reply : Reply) (time : Int64) : Stage σ τ :=
  let machine := stage.machine.noteAll (stage.machine.outcomeEvents reply time)
  let cancelled :=
    if reply.cancels then stage.token?.toList ++ stage.cancelled else stage.cancelled
  { stage with machine, cancelled }.before (.count reply time)

def count (stage : Stage σ τ) (reply : Reply) (time : Int64) : Stage σ τ :=
  let summary := stage.machine.summary.record reply.outcome time
  { stage with machine := { stage.machine with summary } }.before .pause

/-- Whether the end of a pause is noticed before a request to end. -/
def slips (world : World σ) (stage : Stage σ τ) (due : Nat) : Bool :=
  due ≤ stage.machine.moment && world.pauseWins stage.machine.memory

/-- When its publisher is done or its pause is over, the run goes on. -/
def wake (stage : Stage σ τ) : Stage σ τ :=
  match stage.machine.activity with
  | .delivering due reply time =>
      if due ≤ stage.machine.moment then stage.before (.hear reply time) else stage
  | .waiting due => if due ≤ stage.machine.moment then stage.before .again else stage
  | .idle | .ended _ => stage

@[simp]
theorem machine_before (stage : Stage σ τ) (move : Move) :
    (stage.before move).machine = stage.machine :=
  rfl

@[simp]
theorem before_before (stage : Stage σ τ) (move later : Move) :
    (stage.before move).before later = stage.before later :=
  rfl

@[simp]
theorem rest_before (stage : Stage σ τ) (move : Move) (activity : Activity) :
    (stage.before move).rest activity = stage.rest activity :=
  rfl

section Tokens

variable [DecidableEq τ]

/-- Whether the run was asked to end. -/
def asked (stage : Stage σ τ) : Bool :=
  stage.token?.any (· ∈ stage.cancelled)

/-- The pause begins, unless the run was asked to end. -/
def race (world : World σ) (stage : Stage σ τ) (due : Nat) : Stage σ τ :=
  if stage.asked && !stage.slips world due then stage.before .stop
  else stage.rest (.waiting due)

/-- Makes a move. -/
def perform (world : World σ) (config : Config) (stage : Stage σ τ) : Move → Stage σ τ
  | .tellStart => (stage.note .started).before .look
  | .look => stage.before (if stage.asked then .stop else .build)
  | .build => (stage.enter .building).before .readClock
  | .readClock => stage.readClock world config
  | .serialize assertion time => (stage.enter .serializing).before (.write assertion time)
  | .write assertion time =>
      stage.written assertion time (Assertion.document assertion.toGraph)
  | .hand document time => (stage.enter .delivering).before (.publish document time)
  | .publish document time => stage.publish world config document time
  | .hear reply time => stage.hear reply time
  | .count reply time => stage.count reply time
  | .pause => (stage.enter .waiting).before .race
  | .race => stage.race world (stage.machine.moment + config.interval)
  | .again => (stage.enter .running).before .look
  | .stop => (stage.enter .stopped).before .tellEnd
  | .tellEnd =>
      (stage.note (.finished stage.machine.summary)).rest (.ended (.ok stage.machine.summary))
  | .tellFault error => (stage.note (.failed error)).before (.stopBy error)
  | .stopBy error => (stage.enter .stopped).rest (.ended (.error error))

/-- The run makes its next move. -/
def goOn (world : World σ) (config : Config) (stage : Stage σ τ) : Stage σ τ :=
  match stage.next? with
  | some move => stage.perform world config move
  | none => stage.wake

/-- An end was asked for with a token. -/
def remember (stage : Stage σ τ) (token : τ) : Stage σ τ :=
  { stage with cancelled := token :: stage.cancelled }.note .cancelRequested

/-- Whether the run pauses, and a request to end with a token cuts the pause short. -/
def cutBy (world : World σ) (stage : Stage σ τ) (token : τ) : Bool :=
  match stage.next?, stage.machine.activity with
  | none, .waiting due => decide (stage.token? = some token) && !stage.slips world due
  | _, _ => false

/-- The run begins with a token. -/
def start (stage : Stage σ τ) (token : τ) : Stage σ τ :=
  { stage.enter .running with token? := some token }.before .tellStart

/-- A request to end is remembered, and it cuts a pause short if the run heeds its token. -/
def cancel (world : World σ) (stage : Stage σ τ) (token : τ) : Stage σ τ :=
  if stage.cutBy world token then (stage.remember token).before .stop
  else stage.remember token

/-- Somebody does something. -/
def others (world : World σ) (stage : Stage σ τ) : Deed τ → Stage σ τ
  | .run token =>
      if stage.machine.state = .idle then stage.start token
      else { stage with turnedAway := stage.turnedAway + 1 }
  | .cancel token => stage.cancel world token
  | .observe => stage.note (.observed stage.machine.state)

/-- A caller that was turned away is told why. -/
def answer (stage : Stage σ τ) : Stage σ τ :=
  match stage.turnedAway with
  | 0 => stage
  | waiting + 1 =>
      { stage.note (.refused (.alreadyRun stage.machine.state)) with turnedAway := waiting }

/-- What happens in a turn. -/
def take (world : World σ) (config : Config) (stage : Stage σ τ) : Turn τ → Stage σ τ
  | .time moment => { stage with machine := { stage.machine with moment } }
  | .others deed => stage.others world deed
  | .answer => stage.answer
  | .goOn => stage.goOn world config

/-- What happens in turn after turn. -/
def play (world : World σ) (config : Config) (stage : Stage σ τ) (turns : List (Turn τ)) :
    Stage σ τ :=
  turns.foldl (take world config) stage

@[simp]
theorem asked_before (stage : Stage σ τ) (move : Move) :
    (stage.before move).asked = stage.asked :=
  rfl

/-- A run that is not at rest makes its next move. -/
@[simp]
theorem goOn_before (world : World σ) (config : Config) (stage : Stage σ τ) (move : Move) :
    (stage.before move).goOn world config = stage.perform world config move := by
  have opened : (stage.before move).goOn world config =
      (stage.before move).perform world config move := rfl
  rw [opened]
  cases move with
  | write assertion time =>
      simp only [perform]
      cases Assertion.document assertion.toGraph <;> rfl
  | race =>
      simp only [perform, race, asked_before, machine_before, before_before, rest_before]
      rfl
  | _ => rfl

theorem play_append (world : World σ) (config : Config) (stage : Stage σ τ)
    (first later : List (Turn τ)) :
    stage.play world config (first ++ later) =
      (stage.play world config first).play world config later :=
  List.foldl_append

end Tokens

/-! ## Stages and machines -/

variable {world : World σ} {config : Config} {stage : Stage σ Unit} {machine : Machine σ}
  {agenda : List (Nat × Call)} {calls : List Call}

/-- The machine of a stage, if all callers have the same token. -/
def asMachine (stage : Stage σ Unit) (agenda : List (Nat × Call)) : Machine σ :=
  { stage.machine with agenda, cancelled := decide (() ∈ stage.cancelled) }

/-- Nothing is left to be done before time passes or others do something. -/
structure Rests (stage : Stage σ Unit) : Prop where
  next : stage.next? = none
  answered : stage.turnedAway = 0
  heeds : stage.token? = some () ∨
    stage.token? = none ∧ stage.machine.state = .idle ∧ stage.machine.activity = .idle

/-- A run under way heeds the token, and nobody waits for an answer. -/
structure Moves (stage : Stage σ Unit) : Prop where
  answered : stage.turnedAway = 0
  heeds : stage.token? = some ()

theorem Moves.note (moves : stage.Moves) (event : Event) : (stage.note event).Moves :=
  ⟨moves.answered, moves.heeds⟩

theorem Moves.asked_eq (moves : stage.Moves) (agenda : List (Nat × Call)) :
    stage.asked = (stage.asMachine agenda).cancelled := by
  simp [asked, asMachine, moves.heeds]

/-- In some turns, among them these calls of others, a stage comes to rest as a machine. -/
def Reaches (world : World σ) (config : Config) (agenda : List (Nat × Call))
    (stage : Stage σ Unit) (calls : List Call) (machine : Machine σ) : Prop :=
  ∃ turns : List (Turn Unit), turns.filterMap Turn.call? = calls ∧
    (stage.play world config turns).Rests ∧
    (stage.play world config turns).asMachine agenda = machine

theorem Rests.reaches (rests : stage.Rests) :
    stage.Reaches world config agenda [] (stage.asMachine agenda) :=
  ⟨[], rfl, rests, rfl⟩

/-- One turn more. -/
theorem Reaches.of_take (turn : Turn Unit)
    (reaches : (stage.take world config turn).Reaches world config agenda calls machine) :
    stage.Reaches world config agenda (turn.call?.toList ++ calls) machine := by
  obtain ⟨turns, said, rests, same⟩ := reaches
  refine ⟨turn :: turns, ?_, rests, same⟩
  cases doing : turn.call? <;> simp [doing, said]

/-- One move more. -/
theorem Reaches.of_perform {move : Move}
    (reaches : (stage.perform world config move).Reaches world config agenda calls machine) :
    (stage.before move).Reaches world config agenda calls machine := by
  refine Reaches.of_take .goOn ?_
  rw [take, goOn_before]
  exact reaches

/-! ## The moves of a run -/

theorem Moves.finish (moves : stage.Moves) :
    (stage.before .stop).Reaches world config agenda [] (stage.asMachine agenda).finish :=
  .of_perform (.of_perform (Rests.reaches ⟨rfl, moves.answered, Or.inl moves.heeds⟩))

theorem Moves.fail (moves : stage.Moves) (error : Error) :
    (stage.before (.tellFault error)).Reaches world config agenda []
      ((stage.asMachine agenda).fail error) :=
  .of_perform (.of_perform (Rests.reaches ⟨rfl, moves.answered, Or.inl moves.heeds⟩))

theorem Moves.publish (moves : stage.Moves) (document : String) (time : Int64) :
    (stage.before (.hand document time)).Reaches world config agenda []
      (Machine.publish world config (stage.asMachine agenda) document time) :=
  .of_perform (.of_perform (Rests.reaches ⟨rfl, moves.answered, Or.inl moves.heeds⟩))

/-- In the first moves of a cycle an update is made. -/
theorem reaches_build
    (reaches : (({ stage with machine := stage.machine.serializing world } :
      Stage σ Unit).perform world config (.write ((stage.asMachine agenda).built world config)
        (stage.machine.time world))).Reaches world config agenda calls machine) :
    (stage.before .build).Reaches world config agenda calls machine :=
  .of_perform (.of_perform (.of_perform (.of_perform reaches)))

theorem Moves.cycle (moves : stage.Moves) :
    (stage.before .build).Reaches world config agenda []
      ((stage.asMachine agenda).cycle world config) := by
  have goesOn : ({ stage with machine := stage.machine.serializing world } : Stage σ Unit).Moves :=
    ⟨moves.answered, moves.heeds⟩
  apply reaches_build
  cases written : Assertion.document ((stage.asMachine agenda).built world config).toGraph with
  | error misshape =>
      rw [Machine.cycle_of_misshape written]
      rw [perform, written]
      exact goesOn.fail _
  | ok document =>
      rw [Machine.cycle_of_document written]
      rw [perform, written]
      exact (goesOn.note _).publish document _

theorem Moves.proceed (moves : stage.Moves) :
    (stage.before .look).Reaches world config agenda []
      ((stage.asMachine agenda).proceed world config) := by
  apply Reaches.of_perform
  rw [perform, moves.asked_eq agenda, Machine.proceed]
  by_cases asked : (stage.asMachine agenda).cancelled = true
  · rw [if_pos asked, if_pos asked]
    exact moves.finish
  · rw [if_neg asked, if_neg asked]
    exact moves.cycle

/-- What the first moves after a delivery lead to. -/
def counted (stage : Stage σ Unit) (reply : Reply) (time : Int64) : Stage σ Unit :=
  let told := stage.machine.noteAll (stage.machine.outcomeEvents reply time)
  let machine := { told with summary := told.summary.record reply.outcome time }.enter .waiting
  { stage with
    machine
    cancelled :=
      if reply.cancels then stage.token?.toList ++ stage.cancelled else stage.cancelled }

theorem reaches_hear {reply : Reply} {time : Int64}
    (reaches : ((stage.counted reply time).perform world config .race).Reaches world config agenda
      calls machine) :
    (stage.before (.hear reply time)).Reaches world config agenda calls machine :=
  .of_perform (.of_perform (.of_perform (.of_perform reaches)))

theorem Moves.asMachine_counted (moves : stage.Moves) (reply : Reply) (time : Int64)
    (agenda : List (Nat × Call)) :
    (stage.counted reply time).asMachine agenda =
      (stage.asMachine agenda).counted reply time := by
  cases cancels : reply.cancels <;>
    simp [asMachine, Stage.counted, Machine.counted, Machine.outcomeEvents, Machine.noteAll_eq,
      Machine.enter, Machine.note, cancels, moves.heeds]

theorem slips_eq_true_iff {due : Nat} (agenda : List (Nat × Call)) :
    stage.slips world due = true ↔ (stage.asMachine agenda).Slips world due := by
  simp [slips, Machine.Slips, asMachine]

/-- A pause begins, or the run ends. -/
theorem Moves.race (moves : stage.Moves) (due : Nat) :
    (stage.race world due).Reaches world config agenda []
      ((stage.asMachine agenda).race world due) := by
  by_cases ends : (stage.asMachine agenda).cancelled = true ∧
      ¬(stage.asMachine agenda).Slips world due
  · have stops : stage.race world due = stage.before .stop := by
      refine if_pos ?_
      rw [moves.asked_eq agenda, ends.1, Bool.eq_false_iff.mpr fun slips =>
        ends.2 ((slips_eq_true_iff agenda).mp slips)]
      rfl
    rw [stops, Machine.race_of_asked ends.1 ends.2]
    exact moves.finish
  · have slips : (stage.asMachine agenda).cancelled = true →
        (stage.asMachine agenda).Slips world due :=
      not_and_not_right.mp ends
    have pauses : stage.race world due = stage.rest (.waiting due) := by
      refine if_neg fun stops => ?_
      rw [Bool.and_eq_true, Bool.not_eq_true', moves.asked_eq agenda] at stops
      rw [(slips_eq_true_iff agenda).mpr (slips stops.1)] at stops
      cases stops.2
    rw [pauses, Machine.race_of_goesOn slips]
    exact Rests.reaches ⟨rfl, moves.answered, Or.inl moves.heeds⟩

theorem Moves.settle (moves : stage.Moves) (reply : Reply) (time : Int64) :
    (stage.before (.hear reply time)).Reaches world config agenda []
      ((stage.asMachine agenda).settle world config reply time) := by
  have goesOn : (stage.counted reply time).Moves := ⟨moves.answered, moves.heeds⟩
  have same := moves.asMachine_counted reply time agenda
  have moment : (stage.counted reply time).machine.moment = (stage.asMachine agenda).moment :=
    (congrArg Machine.moment same :)
  apply reaches_hear
  rw [Machine.settle_eq, perform, moment, ← same]
  exact goesOn.race _

/-! ## Advances -/

/-- A stage at rest, at another moment. -/
theorem Rests.time (rests : stage.Rests) (moment : Nat) :
    (stage.take world config (.time moment)).Rests :=
  ⟨rests.next, rests.answered, rests.heeds⟩

/-- A stage that waits for something has a run under way. -/
theorem Rests.moves (rests : stage.Rests) (begun : stage.machine.activity ≠ .idle) :
    stage.Moves := by
  rcases rests.heeds with heeds | ⟨-, -, idle⟩
  · exact ⟨rests.answered, heeds⟩
  · exact absurd idle begun

theorem Rests.cancel (rests : stage.Rests) :
    stage.Reaches world config agenda [.cancel] ((stage.asMachine agenda).cancel world) := by
  have told : (stage.remember ()).asMachine agenda =
      { stage.asMachine agenda with cancelled := true }.note .cancelRequested := by
    simp [asMachine, remember, note, Machine.note]
  refine Reaches.of_take (.others (.cancel ())) ?_
  by_cases waiting : ∃ due, stage.machine.activity = .waiting due ∧
      ¬(stage.asMachine agenda).Slips world due
  · obtain ⟨due, waits, noSlip⟩ := waiting
    have moves := rests.moves (by simp [waits])
    have unslipped : stage.slips world due = false :=
      Bool.eq_false_iff.mpr fun slips => noSlip ((slips_eq_true_iff agenda).mp slips)
    have cut : stage.take world config (.others (.cancel ())) = (stage.remember ()).before .stop :=
      if_pos (by simp [cutBy, rests.next, waits, moves.heeds, unslipped])
    rw [cut, Machine.cancel_of_cut (by exact waits) noSlip, ← told]
    exact Moves.finish ⟨moves.answered, moves.heeds⟩
  · have slips : ∀ due, stage.machine.activity = .waiting due →
        (stage.asMachine agenda).Slips world due :=
      fun due => not_and_not_right.mp (not_exists.mp waiting due)
    have noted : stage.take world config (.others (.cancel ())) = stage.remember () := by
      refine if_neg ?_
      unfold cutBy
      split
      · next due _ waits => simp [(slips_eq_true_iff agenda).mpr (slips due waits)]
      · exact Bool.false_ne_true
    rw [noted, Machine.cancel_of_uncut (by exact slips), ← told]
    exact Rests.reaches ⟨rests.next, rests.answered, rests.heeds⟩

theorem Rests.start (rests : stage.Rests) :
    stage.Reaches world config agenda [.run] ((stage.asMachine agenda).start world config) := by
  refine Reaches.of_take (.others (.run ())) ?_
  by_cases idle : stage.machine.state = .idle
  · have begins : stage.take world config (.others (.run ())) = stage.start () := if_pos idle
    rw [begins, Machine.start, if_pos (by exact idle)]
    apply Reaches.of_perform
    exact Moves.proceed ⟨rests.answered, rfl⟩
  · have away : stage.take world config (.others (.run ())) =
        { stage with turnedAway := 1 } := by
      simp [take, others, idle, rests.answered]
    rw [away, Machine.start, if_neg (by exact idle)]
    refine Reaches.of_take .answer ?_
    exact Rests.reaches ⟨rests.next, rfl, rests.heeds⟩

/-- What others do to a stage at rest they do to its machine. -/
theorem Rests.call (rests : stage.Rests) (doing : Call) :
    stage.Reaches world config agenda [doing]
      ((stage.asMachine agenda).call world config doing) := by
  cases doing with
  | run => exact rests.start
  | cancel => exact rests.cancel
  | observe =>
      refine Reaches.of_take (.others .observe) ?_
      exact Rests.reaches ⟨rests.next, rests.answered, rests.heeds⟩

/-- What a stage at rest does by itself its machine does. -/
theorem Rests.resume (rests : stage.Rests) :
    stage.Reaches world config agenda [] ((stage.asMachine agenda).resume world config) := by
  cases activity : stage.machine.activity with
  | idle =>
      have stays : (stage.asMachine agenda).resume world config = stage.asMachine agenda := by
        simp [Machine.resume, asMachine, activity]
      rw [stays]
      exact rests.reaches
  | ended result =>
      have stays : (stage.asMachine agenda).resume world config = stage.asMachine agenda := by
        simp [Machine.resume, asMachine, activity]
      rw [stays]
      exact rests.reaches
  | delivering due reply time =>
      have moves := rests.moves (by simp [activity])
      have woken : (stage.take world config (.time due)).take world config .goOn =
          (stage.take world config (.time due)).before (.hear reply time) := by
        simp [take, goOn, wake, rests.next, activity]
      have resumes : (stage.asMachine agenda).resume world config =
          ((stage.take world config (.time due)).asMachine agenda).settle world config reply
            time := by
        simp [Machine.resume, asMachine, activity, take]
      rw [resumes]
      refine Reaches.of_take (.time due) ?_
      refine Reaches.of_take .goOn ?_
      rw [woken]
      have goesOn : (stage.take world config (.time due)).Moves := ⟨moves.answered, moves.heeds⟩
      exact goesOn.settle reply time
  | waiting due =>
      have moves := rests.moves (by simp [activity])
      have woken : (stage.take world config (.time due)).take world config .goOn =
          (stage.take world config (.time due)).before .again := by
        simp [take, goOn, wake, rests.next, activity]
      have resumes : (stage.asMachine agenda).resume world config =
          (((stage.take world config (.time due)).enter .running).asMachine agenda).proceed world
            config := by
        simp [Machine.resume, asMachine, activity, take, enter, Machine.enter, Machine.note]
      rw [resumes]
      refine Reaches.of_take (.time due) ?_
      refine Reaches.of_take .goOn ?_
      rw [woken]
      exact Reaches.of_perform (Moves.proceed ⟨moves.answered, moves.heeds⟩)

/-- An advance of a machine, in turns of its stage. -/
theorem Rests.step (rests : stage.Rests) {next : Machine σ}
    (stepped : (stage.asMachine agenda).step? world config = some next) :
    ∃ calls later, agenda.map Prod.snd = calls ++ later.map Prod.snd ∧
      stage.Reaches world config later calls next := by
  rcases Machine.step?_cases stepped with
    ⟨due, -, -, rfl⟩ | ⟨moment, doing, later, ahead, -, rfl⟩
  · exact ⟨[], agenda, rfl, rests.resume⟩
  · have ahead : agenda = (moment, doing) :: later := ahead
    have moved : (stage.take world config (.time moment)).Rests :=
      ⟨rests.next, rests.answered, rests.heeds⟩
    exact ⟨[doing], later, by simp [ahead], .of_take (.time moment) (moved.call doing)⟩

/-- A run of a machine, in turns of its stage. -/
theorem Rests.run (rests : stage.Rests) (limit : Nat) :
    ∃ calls later, agenda.map Prod.snd = calls ++ later.map Prod.snd ∧
      stage.Reaches world config later calls
        ((stage.asMachine agenda).run world config limit) := by
  induction limit generalizing stage agenda with
  | zero => exact ⟨[], agenda, rfl, rests.reaches⟩
  | succ limit ih =>
      cases stepped : (stage.asMachine agenda).step? world config with
      | none =>
          rw [Machine.run_of_step?_eq_none stepped]
          exact ⟨[], agenda, rfl, rests.reaches⟩
      | some next =>
          obtain ⟨calls, later, planned, turns, said, restsAgain, rfl⟩ := rests.step stepped
          obtain ⟨others, last, plannedLater, turnsLater, saidLater, restsLater, same⟩ :=
            @ih _ later restsAgain
          rw [Machine.run_succ stepped]
          refine ⟨calls ++ others, last, ?_, turns ++ turnsLater, ?_, ?_, ?_⟩
          · rw [planned, plannedLater, List.append_assoc]
          · rw [List.filterMap_append, said, saidLater]
          · rwa [play_append]
          · rwa [play_append]

/-- Whatever a machine comes to with its agenda, its stage comes to in some turns in which
others make the calls of the agenda. -/
theorem exists_play_of_run (world : World σ) (config : Config) (memory : σ)
    (agenda : List (Nat × Call)) (limit : Nat) :
    ∃ (turns : List (Turn Unit)) (later : List (Nat × Call)),
      agenda.map Prod.snd = turns.filterMap Turn.call? ++ later.map Prod.snd ∧
      (({ machine := { memory } } : Stage σ Unit).play world config turns).asMachine later =
        ({ memory, agenda } : Machine σ).run world config limit := by
  have rests : ({ machine := { memory } } : Stage σ Unit).Rests :=
    ⟨rfl, rfl, Or.inr ⟨rfl, rfl, rfl⟩⟩
  obtain ⟨calls, later, planned, turns, rfl, -, same⟩ := rests.run limit
  exact ⟨turns, later, planned, same⟩

end Stage

end ContextStream.Scheduler
