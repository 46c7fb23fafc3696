import ContextStream.Config.Basic
import ContextStream.Delivery.Client
import ContextStream.Log
import ContextStream.Scheduler.Machine

/-!
# The generator as a whole

The generator loads a configuration and runs a scheduler whose publisher is the
client of the hub, until it is interrupted. Nothing is sent unless the configuration
is in order.
-/

namespace ContextStream.Application

/-- What the generator finds around it, in a run with any course. -/
structure Surroundings where
  /-- What stands under a path. -/
  file : (path : String) → File
  network : Http.Network
  /-- What the clock shows at the beginning. -/
  time : Int64
  /-- The random bits of the identifiers, one after the other. -/
  randomBits : Nat → BitVec 128
  /-- What the clock shows at a moment, when it was read so many times before. -/
  clock : (moment reading : Nat) → Int64 := fun moment _ => time + Int64.ofNat moment
  /-- The time that a delivery takes. -/
  delay : (delivery : Nat) → Nat := fun _ => 0
  /-- Whether an interrupt comes from within a delivery. -/
  cancels : (delivery : Nat) → Bool := fun _ => false
  /-- Whether what is due goes on before what others do at the same moment. -/
  goesFirst : (moment delivery : Nat) → Bool := fun _ _ => false
  /-- Whether the end of a pause is noticed before an interrupt at the same moment. -/
  pauseWins : (delivery : Nat) → Bool := fun _ => false
  /-- The charsets in which a hub may answer. -/
  charsets : Text.Charset.Labels := Text.Charset.unicode?

/-- What the generator remembers. -/
structure Memory where
  /-- The requests so far. -/
  requests : List Http.Request := []
  /-- How many identifiers were made. -/
  identifiers : Nat := 0
  /-- How many times the clock was read. -/
  readings : Nat := 0
  /-- How many updates the client was given. -/
  deliveries : Nat := 0

/-- Why the generator fails. -/
inductive Failure where
  | loading (path : String) (error : Error)
  | running (error : Error)

/-- An error and what caused it. -/
def causes (error : Error) : List String :=
  error.message :: error.cause?.toList

/-- What was being done, then what went wrong, then what caused that. -/
def Failure.chain : Failure → List String
  | .loading path error => ("loading " ++ path) :: causes error
  | .running error => causes error

/-- The scheduler's world, whose publisher is the client of the hub. -/
def world (surroundings : Surroundings) (config : Config) : Scheduler.World Memory where
  clock moment memory := surroundings.clock moment memory.readings
  tick _ memory := { memory with readings := memory.readings + 1 }
  draw memory :=
    let uuid (n : Nat) := Uuid.ofRandom (surroundings.randomBits n)
    (uuid memory.identifiers, uuid (memory.identifiers + 1),
      { memory with identifiers := memory.identifiers + 2 })
  deliver memory payload :=
    let { network, charsets, .. } := surroundings
    let report := Delivery.deliver network config.hub payload memory.requests charsets
    ({ delay := surroundings.delay memory.deliveries
       outcome := report.outcome
       cancels := surroundings.cancels memory.deliveries
       entries := report.entries },
      { memory with requests := report.requests, deliveries := memory.deliveries + 1 })
  goesFirst moment memory := surroundings.goesFirst moment memory.deliveries
  pauseWins memory := surroundings.pauseWins memory.deliveries

/-- An entry of the generator itself. -/
def entry (level : Log.Level) (message : String) : Log.Entry :=
  ⟨level, "ctxgen::app", message⟩

/-- The entry about an interrupt. -/
def interruptEntry : Log.Entry :=
  entry .info "Interrupt received, stopping after the current cycle"

/-- The lines about an event. -/
def lines (config : Config) (event : Scheduler.Event) : List Log.Line :=
  match event with
  | .cancelRequested => [⟨none, interruptEntry⟩]
  | other => (other.entries config).map fun entry => ⟨some config.streamName, entry⟩

/-- What a session leaves behind. -/
structure Session where
  /-- How it ended, if it has. -/
  result : Option (Except Failure Scheduler.Summary)
  lines : List Log.Line
  requests : List Http.Request

/-- Loads the configuration from a path, and reports it or what is wrong with it. -/
def load (path : String) (file : File) : Except Failure Config × List Log.Line :=
  match Config.load path file with
  | (.ok config, entries) => (.ok config, entries.map (⟨none, ·⟩))
  | (.error error, entries) =>
      let complaint := entry .error ("Failed to load configuration: " ++ error.message)
      (.error (.loading path error), (entries ++ [complaint]).map (⟨none, ·⟩))

/-- Loads a configuration and runs it, while others do what is on an agenda, for at most
`limit` advances. -/
def session (surroundings : Surroundings) (path : String)
    (agenda : List (Nat × Scheduler.Call)) (limit : Nat) : Session :=
  match load path (surroundings.file path) with
  | (.error failure, loading) =>
      { result := some (.error failure), lines := loading, requests := [] }
  | (.ok config, loading) =>
      let begun : Scheduler.Machine Memory := { memory := {}, agenda }
      let ended := begun.runToEnd (world surroundings config) config limit
      { result := ended.result?.map (·.mapError .running)
        lines := loading ++ ended.events.flatMap fun event => lines config event.2
        requests := ended.memory.requests }

/-- What happens from outside: the run begins, and it is interrupted. An interrupt at
the very beginning comes before the run. -/
def agenda (interrupt : Nat) : List (Nat × Scheduler.Call) :=
  if interrupt = 0 then [(0, .cancel), (0, .run)] else [(0, .run), (interrupt, .cancel)]

/-- A number of advances after which an interrupted run has ended: a cycle takes a unit
of time at least, and the machine advances twice in it. -/
def advances (interrupt : Nat) : Nat :=
  2 * interrupt + 8

/-- Loads a configuration and runs it until an interrupt, so much time after the
beginning. -/
def run (surroundings : Surroundings) (path : String) (interrupt : Nat) : Session :=
  session surroundings path (agenda interrupt) (advances interrupt)

end ContextStream.Application
