import ContextStream.Scheduler.Event

/-!
# Running a scheduler

A scheduler builds an update, delivers it, waits, and begins again, until somebody
asks it to end. Time is counted from the beginning, in units of any length; only the
wording of an interval takes them for milliseconds. Only deliveries and pauses take
time; a request to end cuts a pause short, but never a delivery. A scheduler runs once:
every later call is refused and changes nothing.

The machine advances from one moment at which something happens to the next:
`Machine.step?` is one such advance, and `Machine.run` repeats it.
-/

namespace ContextStream.Scheduler

/-- What others do. -/
inductive Call where
  | run
  | cancel
  | observe
  deriving DecidableEq, Repr

/-- What the publisher does with an update. -/
structure Reply where
  /-- The time that the delivery takes. -/
  delay : Nat
  outcome : Outcome
  /-- Whether the run is asked to end while the update is delivered. -/
  cancels : Bool := false
  /-- What the publisher reports. -/
  entries : List Log.Entry := []

/-- All that a run depends on besides its configuration. It may remember what happened
before. -/
structure World (σ : Type) where
  /-- What the clock shows at a moment. -/
  clock : (moment : Nat) → σ → Int64
  /-- What a look at the clock leaves behind. -/
  tick : (moment : Nat) → σ → σ := fun _ memory => memory
  /-- Two fresh identifiers. -/
  draw : σ → Uuid × Uuid × σ
  /-- The publisher. -/
  deliver : σ → Payload → Reply × σ
  /-- Whether the scheduler goes on before others do what they are to do at the same
  moment. -/
  goesFirst : (moment : Nat) → σ → Bool := fun _ _ => false
  /-- Whether the end of a pause is noticed before a request to end that is there at the
  same moment. -/
  pauseWins : σ → Bool := fun _ => false

/-- Looks at the clock. -/
def World.read {σ : Type} (world : World σ) (moment : Nat) (memory : σ) : Int64 × σ :=
  (world.clock moment memory, world.tick moment memory)

/-- What a scheduler waits for. -/
inductive Activity where
  | idle
  | delivering (due : Nat) (reply : Reply) (time : Int64)
  | waiting (due : Nat)
  | ended (result : Except Error Summary)

/-- A scheduler at a moment. -/
structure Machine (σ : Type) where
  moment : Nat := 0
  state : State := .idle
  activity : Activity := .idle
  cancelled : Bool := false
  summary : Summary := {}
  memory : σ
  /-- What others will do, and when, in order. -/
  agenda : List (Nat × Call) := []
  /-- What has happened, and when, the last event first. -/
  trace : List (Nat × Event) := []

namespace Machine

variable {σ : Type}

/-- Notes an event. -/
def note (machine : Machine σ) (event : Event) : Machine σ :=
  { machine with trace := (machine.moment, event) :: machine.trace }

/-- Notes events in turn. -/
def noteAll (machine : Machine σ) (events : List Event) : Machine σ :=
  events.foldl note machine

/-- Changes the state. -/
def enter (machine : Machine σ) (state : State) : Machine σ :=
  { machine with state }.note (.entered machine.state state)

/-- The events, the first one first. -/
def events (machine : Machine σ) : List (Nat × Event) :=
  machine.trace.reverse

/-! ## A run -/

/-- Ends the run as it was asked to. -/
def finish (machine : Machine σ) : Machine σ :=
  { (machine.enter .stopped).note (.finished machine.summary) with
    activity := .ended (.ok machine.summary) }

/-- Ends the run by an error. -/
def fail (machine : Machine σ) (error : Error) : Machine σ :=
  { (machine.note (.failed error)).enter .stopped with activity := .ended (.error error) }

/-- Gives a document to the publisher. -/
def publish (world : World σ) (config : Config) (machine : Machine σ) (document : String)
    (time : Int64) : Machine σ :=
  let payload := Payload.ofDocument config.stream document time
  let (reply, memory) := world.deliver machine.memory payload
  let machine := (machine.enter .delivering).note (.delivering payload)
  { machine with activity := .delivering (machine.moment + reply.delay) reply time, memory }

/-- Begins a cycle: builds an update of the current time and gives it to the
publisher. -/
def cycle (world : World σ) (config : Config) (machine : Machine σ) : Machine σ :=
  let machine := machine.enter .building
  let (time, memory) := world.read machine.moment machine.memory
  let (id, stampId, memory) := world.draw memory
  let assertion := config.assertion id stampId time
  let graph := assertion.toGraph
  let machine := { machine with memory }.note (.clockRead time) |>.enter .serializing
  match Assertion.document graph with
  | .error misshape => machine.fail (.malformedGraph misshape)
  | .ok document =>
      publish world config (machine.note (.built assertion.id graph.size time)) document time

/-- Begins a cycle unless the run was asked to end. -/
def proceed (world : World σ) (config : Config) (machine : Machine σ) : Machine σ :=
  if machine.cancelled then machine.finish else machine.cycle world config

/-- Pauses until a moment, unless the run was asked to end. If both come at once, the
world decides which is noticed. -/
def race (world : World σ) (machine : Machine σ) (due : Nat) : Machine σ :=
  let slips := due ≤ machine.moment ∧ world.pauseWins machine.memory
  if machine.cancelled ∧ !slips then machine.finish
  else { machine with activity := .waiting due }

/-- The publisher is done. The outcome is counted, and the pause begins. -/
def settle (world : World σ) (config : Config) (machine : Machine σ) (reply : Reply)
    (time : Int64) : Machine σ :=
  let warnings :=
    match machine.summary.lastTimestamp with
    | some last => if time < last then [.clockWentBack time last] else []
    | none => []
  let machine := machine.noteAll <|
    reply.entries.map .reported ++ .delivered reply.outcome :: warnings
  let machine :=
    { machine with
      cancelled := machine.cancelled || reply.cancels
      summary := machine.summary.record reply.outcome time }.enter .waiting
  machine.race world (machine.moment + config.interval)

/-- Begins a run, or refuses it. -/
def start (world : World σ) (config : Config) (machine : Machine σ) : Machine σ :=
  if machine.state = .idle then
    ((machine.enter .running).note .started).proceed world config
  else machine.note (.refused (.alreadyRun machine.state))

/-- Asks the run to end, which cuts a pause short. -/
def cancel (world : World σ) (machine : Machine σ) : Machine σ :=
  let machine := { machine with cancelled := true }.note .cancelRequested
  match machine.activity with
  | .waiting due => machine.race world due
  | _ => machine

/-- Somebody does something. -/
def call (world : World σ) (config : Config) (machine : Machine σ) : Call → Machine σ
  | .run => machine.start world config
  | .cancel => machine.cancel world
  | .observe => machine.note (.observed machine.state)

/-! ## Time -/

/-- When the scheduler goes on by itself. -/
def due? (machine : Machine σ) : Option Nat :=
  match machine.activity with
  | .delivering due _ _ => some due
  | .waiting due => some due
  | .idle | .ended _ => none

/-- The scheduler goes on by itself. -/
def resume (world : World σ) (config : Config) (machine : Machine σ) : Machine σ :=
  match machine.activity with
  | .delivering due reply time =>
      { machine with moment := due }.settle world config reply time
  | .waiting due => ({ machine with moment := due }.enter .running).proceed world config
  | .idle | .ended _ => machine

/-- Whether the scheduler goes on before the next thing that others do. If both come at
once, the world decides. -/
def goesOn (world : World σ) (machine : Machine σ) (moment : Nat) : Bool :=
  machine.due?.any fun due =>
    due < moment || (due == moment && world.goesFirst moment machine.memory)

/-- Advances to the next moment at which something happens. -/
def step? (world : World σ) (config : Config) (machine : Machine σ) : Option (Machine σ) :=
  match machine.agenda, machine.due? with
  | [], none => none
  | [], some _ => some (machine.resume world config)
  | (moment, doing) :: agenda, _ =>
      if machine.goesOn world moment then some (machine.resume world config)
      else some ({ machine with moment, agenda }.call world config doing)

/-- Advances at most `limit` times. -/
def run (world : World σ) (config : Config) : (limit : Nat) → Machine σ → Machine σ
  | 0, machine => machine
  | limit + 1, machine =>
      match machine.step? world config with
      | some next => next.run world config limit
      | none => machine

/-- The result of the run, once it has ended. -/
def result? (machine : Machine σ) : Option (Except Error Summary) :=
  match machine.activity with
  | .ended result => some result
  | _ => none

/-- Advances at most `limit` times, and not beyond the end of the run. -/
def runToEnd (world : World σ) (config : Config) : (limit : Nat) → Machine σ → Machine σ
  | 0, machine => machine
  | limit + 1, machine =>
      match machine.result?, machine.step? world config with
      | none, some next => next.runToEnd world config limit
      | _, _ => machine

end Machine

end ContextStream.Scheduler
