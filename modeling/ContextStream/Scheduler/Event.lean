import ContextStream.Config.Basic
import ContextStream.Delivery.Payload
import ContextStream.Scheduler.Summary

/-!
# What a scheduler does, and how it is reported

The events of a scheduler are all it does: its changes of state, what it reads from
the clock, what it gives to the publisher and gets back, and how a run begins and
ends. Log entries are a view of them.
-/

namespace ContextStream.Scheduler

/-- Something that happens. -/
inductive Event where
  | started
  | entered (before after : State)
  | clockRead (time : Int64)
  | built (assertion : Iri) (triples : Nat) (time : Int64)
  | delivering (payload : Payload)
  /-- The publisher reports something of its own. -/
  | reported (entry : Log.Entry)
  | delivered (outcome : Outcome)
  | clockWentBack (time last : Int64)
  | failed (error : Error)
  | finished (summary : Summary)
  /-- Somebody asks the run to end. -/
  | cancelRequested
  /-- Somebody looks at the state. -/
  | observed (state : State)
  /-- Somebody asks for another run. -/
  | refused (error : Error)

/-- Seconds are written with a point in its place and without needless zeros. -/
def secondsLayout : Decimal.Layout where
  plainFrom := -400
  plainBelow := 400
  pointZero := false

/-- An interval in seconds. -/
def secondsText (milliseconds : Nat) : String :=
  let whole := Float.ofNat (milliseconds / 1000)
  let fraction := Float.ofNat (milliseconds % 1000 * 1000000) / 1000000000
  secondsLayout.float (whole + fraction)

/-- An entry of the scheduler. -/
def entry (level : Log.Level) (message : String) : Log.Entry :=
  ⟨level, "ctxgen_stream::scheduler", message⟩

/-- How an event is reported. A run that begins is not reported as a change of
state. -/
def Event.entries (config : Config) : Event → List Log.Entry
  | .started =>
      [entry .info ("Starting context stream generator. Generating every " ++
          secondsText config.interval ++ " seconds."),
        entry .info ("Hub URI: " ++ config.hub.text),
        entry .info ("Stream URI: " ++ config.stream.text)]
  | .entered .idle _ => []
  | .entered before after =>
      [entry .debug ("Scheduler " ++ before.name ++ " -> " ++ after.name)]
  | .built assertion triples time =>
      [entry .debug ("Built assertion " ++ assertion.text ++ " (" ++ toString triples ++
        " triples, timestamp " ++ toString time.toInt ++ ")")]
  | .reported entry => [entry]
  | .clockWentBack time last =>
      [entry .warn ("Clock went backwards: " ++ toString time.toInt ++ " < " ++
        toString last.toInt)]
  | .failed error => [entry .error ("Unexpected error: " ++ error.message)]
  | .finished summary => [entry .info ("Generator stopped by user. " ++ summary.text)]
  | .clockRead _ | .delivering _ | .delivered _ | .cancelRequested | .observed _ | .refused _ =>
      []

end ContextStream.Scheduler
