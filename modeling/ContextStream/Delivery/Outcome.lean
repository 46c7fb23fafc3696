/-!
# What became of a delivery
-/

namespace ContextStream

/-- What became of one delivery. -/
inductive Outcome where
  | delivered (status : UInt16)
  | rejected (status : UInt16) (body : String)
  | transportFailure (cause : String)
  deriving DecidableEq, Repr

namespace Outcome

/-- The outcome of an answer: two statuses tell that the update was taken. -/
def ofStatus (status : UInt16) (body : String) : Outcome :=
  if status = 200 ∨ status = 204 then .delivered status else .rejected status body

/-- Whether the update was taken. -/
def isDelivered : Outcome → Bool
  | .delivered _ => true
  | _ => false

/-- The wording of an outcome. -/
def text : Outcome → String
  | .delivered status => "delivered (" ++ toString status ++ ")"
  | .rejected status body => "rejected (" ++ toString status ++ "): " ++ body
  | .transportFailure cause => "transport failure: " ++ cause

end Outcome

end ContextStream
