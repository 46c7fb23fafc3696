/-!
# The states of a scheduler
-/

namespace ContextStream.Scheduler

/-- What a scheduler is doing. -/
inductive State where
  | idle
  | running
  | building
  | serializing
  | delivering
  | waiting
  | stopped
  deriving DecidableEq, Repr

namespace State

/-- All states, in the order of a run. -/
def all : List State :=
  [idle, running, building, serializing, delivering, waiting, stopped]

/-- The name of a state. -/
def name : State → String
  | idle => "idle"
  | running => "running"
  | building => "building"
  | serializing => "serializing"
  | delivering => "delivering"
  | waiting => "waiting"
  | stopped => "stopped"

/-- Whether an update is being made or delivered. -/
def inCycle : State → Bool
  | building | serializing | delivering => true
  | _ => false

end State

end ContextStream.Scheduler
