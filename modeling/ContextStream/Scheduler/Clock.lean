/-!
# A clock that moves when told to
-/

namespace ContextStream.Scheduler

/-- A clock that shows milliseconds since the beginning of 1970. Moving it beyond
sixty-four bits wraps around. -/
structure Clock where
  millis : Int64
  deriving DecidableEq, Repr

namespace Clock

/-- The first and the last millisecond that is a date. -/
def firstDate : Int64 := -8334601228800000

@[inherit_doc firstDate]
def lastDate : Int64 := 8210266876799999

/-- Sets the clock. -/
def set (_ : Clock) (millis : Int64) : Clock :=
  ⟨millis⟩

/-- Moves the clock. -/
def advance (clock : Clock) (millis : Int64) : Clock :=
  ⟨clock.millis + millis⟩

/-- The date that the clock shows; what is no date reads as the beginning of 1970. -/
def now (clock : Clock) : Int64 :=
  if firstDate ≤ clock.millis ∧ clock.millis ≤ lastDate then clock.millis else 0

end Clock

end ContextStream.Scheduler
