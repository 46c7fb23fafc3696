import ContextStream.Delivery.Outcome

/-!
# Counting deliveries
-/

namespace ContextStream.Scheduler

/-- What happened in one run. -/
structure Summary where
  cycles : UInt64 := 0
  delivered : UInt64 := 0
  rejected : UInt64 := 0
  transportFailures : UInt64 := 0
  /-- The time of the last update, delivered or not. -/
  lastTimestamp : Option Int64 := none
  /-- The time of the last update that was taken. -/
  lastDelivered : Option Int64 := none
  deriving DecidableEq, Repr

namespace Summary

/-- Adds the outcome of one delivery. -/
def record (summary : Summary) (outcome : Outcome) (timestamp : Int64) : Summary :=
  let summary :=
    { summary with cycles := summary.cycles + 1, lastTimestamp := some timestamp }
  match outcome with
  | .delivered _ =>
      { summary with delivered := summary.delivered + 1, lastDelivered := some timestamp }
  | .rejected _ _ => { summary with rejected := summary.rejected + 1 }
  | .transportFailure _ => { summary with transportFailures := summary.transportFailures + 1 }

/-- The number of deliveries. -/
def attempts (summary : Summary) : UInt64 :=
  summary.delivered + summary.rejected + summary.transportFailures

/-- The wording of a summary. -/
def text (summary : Summary) : String :=
  toString summary.cycles ++ " cycles: " ++ toString summary.delivered ++ " delivered, " ++
    toString summary.rejected ++ " rejected, " ++ toString summary.transportFailures ++
    " transport failures"

end Summary

end ContextStream.Scheduler
