import ContextStream.Proofs.Scheduler.Refusal
import ContextStream.Proofs.Scheduler.Turns

/-!
# Calls between the moves of a run

Callers may ask for a run at any time, between any two moves of the run that has begun, and
with any tokens. The first one begins the run. All others are turned away, and a play with
their calls differs from the play without them in the notes of their answers only.
-/

namespace ContextStream.Scheduler

namespace Turn

variable {τ : Type}

/-- The token with which a run is asked for. -/
def run? : Turn τ → Option τ
  | .others (.run token) => some token
  | .others (.cancel _) | .others .observe | .time _ | .answer | .goOn => none

/-- The turns in which nobody asks for a run. -/
def withoutRuns (turns : List (Turn τ)) : List (Turn τ) :=
  turns.filter (·.run?.isNone)

/-- The turns, only the first of those in which somebody asks for a run among them. -/
def onlyFirstRun : List (Turn τ) → List (Turn τ)
  | [] => []
  | turn :: turns =>
      match turn.run? with
      | some _ => turn :: withoutRuns turns
      | none => turn :: onlyFirstRun turns

theorem run?_eq_some_iff {turn : Turn τ} {token : τ} :
    turn.run? = some token ↔ turn = .others (.run token) := by
  cases turn with
  | others deed => cases deed <;> simp [run?]
  | _ => simp [run?]

end Turn

namespace Stage

variable {σ τ : Type} {world : World σ} {config : Config} {stage : Stage σ τ}

/-- A stage as if nobody had been turned away. -/
def unrefused (stage : Stage σ τ) : Stage σ τ :=
  { stage with machine := stage.machine.unrefused stage.machine.agenda, turnedAway := 0 }

/-- The answers that callers got who were turned away, the last one first. -/
def refusals (stage : Stage σ τ) : List (Nat × Event) :=
  stage.machine.trace.filter (·.2.isRefusal)

theorem refusals_unrefused (stage : Stage σ τ) : stage.unrefused.refusals = [] := by
  simp [refusals, unrefused, Machine.unrefused]

theorem memory_unrefused (stage : Stage σ τ) :
    stage.unrefused.machine.memory = stage.machine.memory :=
  rfl

theorem result?_unrefused (stage : Stage σ τ) :
    stage.unrefused.machine.result? = stage.machine.result? :=
  rfl

/-! ## Moves without refusals -/

theorem unrefused_note {event : Event} (quiet : event.isRefusal = false) :
    stage.unrefused.note event = (stage.note event).unrefused := by
  simp only [note, unrefused, Machine.unrefused_note quiet]
  rfl

theorem unrefused_noteAll {events : List Event}
    (quiet : ∀ event ∈ events, event.isRefusal = false) :
    stage.unrefused.machine.noteAll events =
      ({ stage with machine := stage.machine.noteAll events } : Stage σ τ).unrefused.machine := by
  induction events generalizing stage with
  | nil => rfl
  | cons event events ih =>
      have first : stage.unrefused.machine.note event = (stage.note event).unrefused.machine :=
        congrArg machine (unrefused_note (quiet event List.mem_cons_self))
      rw [Machine.noteAll, List.foldl_cons, first]
      exact ih fun later laterMem => quiet later (List.mem_cons_of_mem event laterMem)

theorem unrefused_hear (reply : Reply) (time : Int64) :
    stage.unrefused.hear reply time = (stage.hear reply time).unrefused := by
  have told : stage.unrefused.machine.noteAll (stage.machine.outcomeEvents reply time) = _ :=
    unrefused_noteAll fun event eventMem => Machine.isRefusal_of_mem_outcomeEvents eventMem
  have same : stage.unrefused.machine.outcomeEvents reply time =
      stage.machine.outcomeEvents reply time := rfl
  simp only [hear, same, told]
  rfl

theorem unrefused_wake : stage.unrefused.wake = stage.wake.unrefused := by
  have same : stage.unrefused.machine.activity = stage.machine.activity := rfl
  unfold wake
  rw [same]
  cases stage.machine.activity with
  | idle => rfl
  | ended result => rfl
  | delivering due reply time =>
      dsimp only
      rw [apply_ite unrefused]
      rfl
  | waiting due =>
      dsimp only
      rw [apply_ite unrefused]
      rfl

theorem answer_of_nobody (nobody : stage.turnedAway = 0) : stage.answer = stage := by
  simp [answer, nobody]

theorem answer_of_turnedAway (somebody : stage.turnedAway ≠ 0) :
    stage.answer =
      { stage.note (.refused (.alreadyRun stage.machine.state)) with
        turnedAway := stage.turnedAway - 1 } := by
  obtain ⟨others, more⟩ := Nat.exists_eq_succ_of_ne_zero somebody
  simp [answer, more]

theorem unrefused_answer : stage.answer.unrefused = stage.unrefused := by
  unfold answer
  split
  · rfl
  · simp [unrefused, note, Machine.unrefused, Machine.note, Event.isRefusal]

/-! ## What moves leave behind -/

/-- A stage has changed, but nobody was turned away or got an answer. -/
structure Quiet (stage next : Stage σ τ) : Prop where
  refusals : next.refusals = stage.refusals
  turnedAway : next.turnedAway = stage.turnedAway
  state : next.machine.state = stage.machine.state ∨ next.machine.state ≠ .idle

theorem quiet_note {event : Event} (quiet : event.isRefusal = false) :
    Quiet stage (stage.note event) :=
  ⟨List.filter_cons_of_neg (by simp [quiet]), rfl, Or.inl rfl⟩

theorem quiet_hear (reply : Reply) (time : Int64) : Quiet stage (stage.hear reply time) := by
  have told : ∀ event ∈ stage.machine.outcomeEvents reply time, event.isRefusal = false :=
    fun event eventMem => Machine.isRefusal_of_mem_outcomeEvents eventMem
  constructor
  · simpa [refusals, hear, Machine.noteAll_eq, List.filter_append] using told
  · rfl
  · simp [hear, Machine.noteAll_eq]

/-! ## Callers -/

/-- As many have asked for a run before a stage, and all but the first were turned away. -/
inductive Asked : Nat → Stage σ τ → Prop
  | unbegun {stage : Stage σ τ} (next : stage.next? = none) (state : stage.machine.state = .idle)
      (activity : stage.machine.activity = .idle) (turnedAway : stage.turnedAway = 0)
      (refusals : stage.refusals = []) : Asked 0 stage
  | begun {stage : Stage σ τ} {others : Nat} (state : stage.machine.state ≠ .idle)
      (turnedAway : stage.refusals.length + stage.turnedAway = others)
      (told : ∀ refusal ∈ stage.refusals, ∃ state, state ≠ .idle ∧
        refusal.2 = .refused (.alreadyRun state)) : Asked (others + 1) stage

theorem Asked.of_quiet {asked : Nat} {next : Stage σ τ} (before : Asked (asked + 1) stage)
    (quiet : Quiet stage next) : Asked (asked + 1) next := by
  cases before with
  | begun state turnedAway told =>
      refine .begun ?_ ?_ (quiet.refusals ▸ told)
      · rcases quiet.state with same | begun
        · exact same ▸ state
        · exact begun
      · rw [quiet.refusals, quiet.turnedAway, turnedAway]

theorem Asked.refused {asked : Nat} (before : Asked asked stage) :
    stage.refusals.length + stage.turnedAway = asked - 1 := by
  cases before with
  | unbegun next state activity turnedAway refusals => simp [refusals, turnedAway]
  | begun state turnedAway told => exact turnedAway

theorem Asked.answers {asked : Nat} (before : Asked asked stage) :
    ∀ refusal ∈ stage.refusals, ∃ state, state ≠ .idle ∧
      refusal.2 = .refused (.alreadyRun state) := by
  cases before with
  | unbegun next state activity turnedAway refusals => simp [refusals]
  | begun state turnedAway told => exact told

/-- An answer is told to somebody who was turned away. -/
theorem Asked.answer {asked : Nat} (before : Asked asked stage) : Asked asked stage.answer := by
  cases before with
  | unbegun next state activity turnedAway refusals =>
      rw [answer_of_nobody turnedAway]
      exact .unbegun next state activity turnedAway refusals
  | begun state turnedAway told =>
      by_cases nobody : stage.turnedAway = 0
      · rw [answer_of_nobody nobody]
        exact .begun state turnedAway told
      · rw [answer_of_turnedAway nobody]
        have more : refusals { stage.note (.refused (.alreadyRun stage.machine.state)) with
              turnedAway := stage.turnedAway - 1 } =
            (stage.machine.moment, .refused (.alreadyRun stage.machine.state)) :: stage.refusals :=
          rfl
        refine .begun state ?_ ?_
        · rw [more, List.length_cons]
          dsimp only
          omega
        · rw [more]
          rintro refusal (_ | ⟨_, earlier⟩)
          · exact ⟨stage.machine.state, state, rfl⟩
          · exact told refusal earlier

theorem asked_fresh (memory : σ) : Asked 0 ({ machine := { memory } } : Stage σ τ) :=
  .unbegun rfl rfl rfl rfl rfl

section Tokens

variable [DecidableEq τ]

/-! ## Turns -/

/-- No move depends on the notes of refusals. -/
theorem unrefused_perform (move : Move) :
    stage.unrefused.perform world config move = (stage.perform world config move).unrefused := by
  cases move with
  | write assertion time =>
      simp only [perform]
      cases Assertion.document assertion.toGraph <;> rfl
  | hear reply time => exact unrefused_hear reply time
  | race =>
      simp only [perform, race]
      rw [apply_ite unrefused]
      rfl
  | _ => rfl

/-- No move turns anybody away, and none leads back to the beginning. -/
theorem quiet_perform (move : Move) : Quiet stage (stage.perform world config move) := by
  cases move with
  | write assertion time =>
      simp only [perform]
      cases Assertion.document assertion.toGraph <;> exact ⟨rfl, rfl, Or.inl rfl⟩
  | hear reply time => exact quiet_hear reply time
  | race =>
      simp only [perform, race]
      split <;> exact ⟨rfl, rfl, Or.inl rfl⟩
  | build | serialize | hand | pause | again | stop | stopBy =>
      exact ⟨rfl, rfl, Or.inr fun same => by cases same⟩
  | _ => exact ⟨rfl, rfl, Or.inl rfl⟩

theorem unrefused_goOn :
    stage.unrefused.goOn world config = (stage.goOn world config).unrefused := by
  have same : stage.unrefused.next? = stage.next? := rfl
  unfold goOn
  rw [same]
  cases stage.next? with
  | none => exact unrefused_wake
  | some move => exact unrefused_perform move

theorem unrefused_cancel (token : τ) :
    stage.unrefused.cancel world token = (stage.cancel world token).unrefused := by
  have same : stage.unrefused.cutBy world token = stage.cutBy world token := rfl
  unfold cancel
  rw [same]
  split <;> rfl

/-- A turn in which nobody asks for a run has the same effect without the refusals. -/
theorem unrefused_take {turn : Turn τ} (other : turn.run? = none) :
    stage.unrefused.take world config turn = (stage.take world config turn).unrefused := by
  cases turn with
  | time moment => rfl
  | goOn => exact unrefused_goOn
  | answer => exact unrefused_answer.symm
  | others deed =>
      cases deed with
      | run token => simp [Turn.run?] at other
      | cancel token => exact unrefused_cancel token
      | observe => exact unrefused_note rfl

theorem quiet_goOn : Quiet stage (stage.goOn world config) := by
  unfold goOn
  split
  · exact quiet_perform _
  · unfold wake
    split
    · split <;> exact ⟨rfl, rfl, Or.inl rfl⟩
    · split <;> exact ⟨rfl, rfl, Or.inl rfl⟩
    · exact ⟨rfl, rfl, Or.inl rfl⟩
    · exact ⟨rfl, rfl, Or.inl rfl⟩

theorem quiet_cancel (token : τ) : Quiet stage (stage.cancel world token) := by
  unfold cancel
  split <;> exact ⟨rfl, rfl, Or.inl rfl⟩

/-- A turn in which nobody asks for a run, and nobody gets an answer. -/
theorem quiet_take {turn : Turn τ} (other : turn.run? = none) (silent : turn ≠ .answer) :
    Quiet stage (stage.take world config turn) := by
  cases turn with
  | time moment => exact ⟨rfl, rfl, Or.inl rfl⟩
  | goOn => exact quiet_goOn
  | answer => exact absurd rfl silent
  | others deed =>
      cases deed with
      | run token => simp [Turn.run?] at other
      | cancel token => exact quiet_cancel token
      | observe => exact quiet_note rfl

/-- The first call begins the run, and every later one is turned away. -/
theorem Asked.others_run {asked : Nat} (before : Asked asked stage) (token : τ) :
    stage.others world (.run token) =
      if asked = 0 then stage.start token
      else { stage with turnedAway := stage.turnedAway + 1 } := by
  cases before with
  | unbegun next state activity turnedAway refusals => exact if_pos state
  | begun state turnedAway told => exact if_neg state

theorem Asked.run {asked : Nat} (before : Asked asked stage) (world : World σ) (token : τ) :
    Asked (asked + 1) (stage.others world (.run token)) := by
  rw [before.others_run]
  cases before with
  | unbegun next state activity turnedAway refusals =>
      have untold : (stage.start token).refusals = [] := refusals
      rw [if_pos rfl]
      refine .begun nofun ?_ (by simp [untold])
      rw [untold]
      exact (Nat.zero_add _).trans turnedAway
  | begun state turnedAway told => exact .begun state (by rw [← turnedAway]; rfl) told

/-- Before the first call a run makes no move. -/
theorem goOn_of_unbegun (next : stage.next? = none) (activity : stage.machine.activity = .idle) :
    stage.goOn world config = stage := by
  simp [goOn, next, wake, activity]

theorem Asked.take_of_quiet {asked : Nat} (before : Asked asked stage) {turn : Turn τ}
    (other : turn.run? = none) (silent : turn ≠ .answer) :
    Asked asked (stage.take world config turn) := by
  cases before with
  | begun state turnedAway told =>
      exact Asked.of_quiet (.begun state turnedAway told) (quiet_take other silent)
  | unbegun next state activity turnedAway refusals =>
      cases turn with
      | time moment => exact .unbegun next state activity turnedAway refusals
      | answer => exact absurd rfl silent
      | goOn =>
          rw [Stage.take, goOn_of_unbegun next activity]
          exact .unbegun next state activity turnedAway refusals
      | others deed =>
          cases deed with
          | run token => simp [Turn.run?] at other
          | observe => exact .unbegun next state activity turnedAway refusals
          | cancel token =>
              have noted : stage.cancel world token = stage.remember token :=
                if_neg (by simp [cutBy, next, activity])
              rw [Stage.take, others, noted]
              exact .unbegun next state activity turnedAway refusals

/-- Every turn adds the call that is made in it. -/
theorem Asked.take {asked : Nat} (before : Asked asked stage) (world : World σ) (config : Config)
    (turn : Turn τ) :
    Asked (asked + turn.run?.toList.length) (stage.take world config turn) := by
  cases asks : turn.run? with
  | some token =>
      obtain rfl := Turn.run?_eq_some_iff.mp asks
      exact before.run world token
  | none =>
      by_cases silent : turn = .answer
      · subst silent
        exact before.answer
      · exact before.take_of_quiet asks silent

/-- In a play as many have asked for a run as its turns tell. -/
theorem Asked.play {asked : Nat} (before : Asked asked stage) (world : World σ) (config : Config)
    (turns : List (Turn τ)) :
    Asked (asked + (turns.filterMap Turn.run?).length) (stage.play world config turns) := by
  induction turns generalizing stage asked with
  | nil => exact before
  | cons turn turns ih =>
      have all : ((turn :: turns).filterMap Turn.run?).length =
          turn.run?.toList.length + (turns.filterMap Turn.run?).length := by
        cases asks : turn.run? <;> simp [asks, Nat.add_comm]
      rw [all, ← Nat.add_assoc]
      exact ih (before.take world config turn)

theorem asked_play (world : World σ) (config : Config) (memory : σ) (turns : List (Turn τ)) :
    Asked (turns.filterMap Turn.run?).length
      (({ machine := { memory } } : Stage σ τ).play world config turns) := by
  have played := (asked_fresh memory).play world config turns
  rwa [Nat.zero_add] at played

/-! ## Plays without the refused calls -/

/-- A call that is refused leaves nothing behind. -/
theorem Asked.unrefused_run {asked : Nat} (before : Asked (asked + 1) stage) (token : τ) :
    (stage.others world (.run token)).unrefused = stage.unrefused := by
  rw [before.others_run]
  rfl

theorem Asked.unrefused_start (before : Asked 0 stage) (token : τ) :
    stage.unrefused.others world (.run token) = (stage.others world (.run token)).unrefused := by
  rw [before.others_run]
  cases before with
  | unbegun next state activity turnedAway refusals => exact if_pos state

/-- Once the run has begun, no later call is of consequence. -/
theorem play_withoutRuns {asked : Nat} (before : Asked (asked + 1) stage)
    (turns : List (Turn τ)) :
    stage.unrefused.play world config (Turn.withoutRuns turns) =
      (stage.play world config turns).unrefused := by
  induction turns generalizing stage asked with
  | nil => rfl
  | cons turn turns ih =>
      cases asks : turn.run? with
      | none =>
          have goesOn := before.take world config turn
          rw [asks] at goesOn
          rw [Turn.withoutRuns, List.filter_cons_of_pos (by simp [asks]), play, List.foldl_cons,
            unrefused_take asks]
          exact ih goesOn
      | some token =>
          obtain rfl := Turn.run?_eq_some_iff.mp asks
          have goesOn := before.run world token
          rw [Turn.withoutRuns, List.filter_cons_of_neg (by simp [asks]),
            ← before.unrefused_run token]
          exact ih goesOn

/-- From the beginning on, no call but the first is of consequence. -/
theorem play_onlyFirstRun (before : Asked 0 stage) (world : World σ) (config : Config)
    (turns : List (Turn τ)) :
    stage.unrefused.play world config (Turn.onlyFirstRun turns) =
      (stage.play world config turns).unrefused := by
  induction turns generalizing stage with
  | nil => rfl
  | cons turn turns ih =>
      have goesOn := before.take world config turn
      cases asks : turn.run? with
      | none =>
          rw [asks] at goesOn
          simp only [Turn.onlyFirstRun, asks]
          rw [play, List.foldl_cons, unrefused_take asks]
          exact ih goesOn
      | some token =>
          obtain rfl := Turn.run?_eq_some_iff.mp asks
          have begun := before.run world token
          simp only [Turn.onlyFirstRun, asks]
          rw [play, List.foldl_cons, take, before.unrefused_start token]
          exact play_withoutRuns begun turns

/-- What a play comes to that begins with a fresh scheduler. -/
structure RunsOnce (world : World σ) (config : Config) (memory : σ) (turns : List (Turn τ))
    (stage : Stage σ τ) : Prop where
  /-- The next call begins the run if it is the first one. Else the caller is turned away, and
  nothing but their number changes. -/
  next : ∀ token, stage.take world config (.others (.run token)) =
    if turns.filterMap Turn.run? = [] then stage.start token
    else { stage with turnedAway := stage.turnedAway + 1 }
  /-- All callers but the first were refused, or they wait for their answer. -/
  refused : stage.refusals.length + stage.turnedAway = (turns.filterMap Turn.run?).length - 1
  /-- An answer is noted, which changes nothing else. -/
  answered : stage.turnedAway ≠ 0 → stage.take world config .answer =
    { stage.note (.refused (.alreadyRun stage.machine.state)) with
      turnedAway := stage.turnedAway - 1 }
  /-- All answers tell that the scheduler was not idle any more. -/
  answers : ∀ refusal ∈ stage.refusals, ∃ state, state ≠ .idle ∧
    refusal.2 = .refused (.alreadyRun state)
  /-- Without the refused calls the same happens at the same moments, except for answers. -/
  alone : ({ machine := { memory } } : Stage σ τ).play world config (Turn.onlyFirstRun turns) =
    { stage with
      machine := { stage.machine with trace := stage.machine.trace.filter (!·.2.isRefusal) }
      turnedAway := 0 }

/-- A scheduler runs once. Whenever callers ask for a run, between whichever moves of the run
that has begun and with whatever tokens, cancelled or not, the first call begins the run and
every other one is refused. A refused call changes no state, calls neither the clock nor the
publisher, and leaves no trace but its answer. What a machine comes to with an agenda is among
the plays for which this holds. -/
theorem runsOnce_play (world : World σ) (config : Config) (memory : σ) (turns : List (Turn τ)) :
    RunsOnce world config memory turns
        (({ machine := { memory } } : Stage σ τ).play world config turns) ∧
      ∀ (agenda : List (Nat × Call)) (limit : Nat),
        ∃ (turns : List (Turn Unit)) (later : List (Nat × Call)),
          agenda.map Prod.snd = turns.filterMap Turn.call? ++ later.map Prod.snd ∧
          (({ machine := { memory } } : Stage σ Unit).play world config turns).asMachine later =
            ({ memory, agenda } : Machine σ).run world config limit := by
  have asked := asked_play world config memory turns
  have alone := play_onlyFirstRun (asked_fresh memory) world config turns
  refine ⟨⟨?_, asked.refused, answer_of_turnedAway, asked.answers, alone⟩,
    exists_play_of_run world config memory⟩
  intro token
  rw [take, asked.others_run]
  exact if_congr List.length_eq_zero_iff rfl rfl

/-- Turns in which a run goes through three cycles. Two more callers ask for a run in the first
one, between two moves and during the delivery, the first of them with a cancelled token. -/
def crowdedTurns : List (Turn Nat) :=
  let moves (count : Nat) : List (Turn Nat) := List.replicate count .goOn
  .others (.run 1) :: moves 3 ++ [.others (.cancel 2), .others (.run 2)] ++ moves 5 ++
    [.others (.run 3), .answer, .time 1000] ++ moves 5 ++ [.time 6000] ++ moves 9 ++
    [.time 7000] ++ moves 5 ++ [.answer, .time 12000] ++ moves 9 ++
    [.others (.cancel 1), .time 13000] ++ moves 7

/-- What happens in them. -/
def crowdedStage (turns : List (Turn Nat)) : Stage (List Payload) Nat :=
  ({ machine := { memory := [] } } : Stage (List Payload) Nat).play Machine.forgottenWorld
    Config.exampleConfig turns

theorem runsOnce_crowdedTurns :
    (crowdedStage crowdedTurns).refusals.length = 2 ∧
      (crowdedStage (Turn.onlyFirstRun crowdedTurns)).refusals.length = 0 ∧
      (crowdedStage crowdedTurns).machine.memory.length = 3 ∧
      (crowdedStage (Turn.onlyFirstRun crowdedTurns)).machine.memory =
        (crowdedStage crowdedTurns).machine.memory ∧
      ∃ summary, (crowdedStage crowdedTurns).machine.result? = some (.ok summary) ∧
        (crowdedStage (Turn.onlyFirstRun crowdedTurns)).machine.result? = some (.ok summary) ∧
        summary.cycles = 3 := by
  have once : RunsOnce Machine.forgottenWorld Config.exampleConfig [] crowdedTurns
      (crowdedStage crowdedTurns) :=
    (runsOnce_play Machine.forgottenWorld Config.exampleConfig [] crowdedTurns).1
  have answered : (crowdedStage crowdedTurns).turnedAway = 0 := by decide +kernel
  have given : (crowdedStage crowdedTurns).machine.result?.bind Except.toOption =
      some { cycles := 3, delivered := 0, rejected := 0, transportFailures := 3,
             lastTimestamp := some 12000, lastDelivered := none } := by
    decide +kernel
  obtain ⟨result, ended, is⟩ := Option.bind_eq_some_iff.mp given
  have three : (crowdedTurns.filterMap Turn.run?).length = 3 := by decide +kernel
  have refused := once.refused
  rw [answered, three, Nat.add_zero] at refused
  have alone : crowdedStage (Turn.onlyFirstRun crowdedTurns) =
      (crowdedStage crowdedTurns).unrefused := once.alone
  cases result with
  | error error => cases is
  | ok summary =>
      obtain rfl := Option.some.inj is
      refine ⟨refused, ?_, by decide +kernel, ?_, _, ended, ?_, rfl⟩
      · rw [alone, refusals_unrefused]
        rfl
      · rw [alone, memory_unrefused]
      · rw [alone, result?_unrefused, ended]

end Tokens

end Stage

end ContextStream.Scheduler
