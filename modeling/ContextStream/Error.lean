import ContextStream.Assertion.Shape
import ContextStream.Config.Problem
import ContextStream.File
import ContextStream.Json.Fault
import ContextStream.Scheduler.State

/-!
# Errors
-/

namespace ContextStream

/-- Why a configuration is not used, a document not written, or a run not begun. -/
inductive Error where
  | configuration (problems : List Config.Problem)
  | invalidIri (invalid : InvalidIri)
  | malformedGraph (misshape : Assertion.Misshape)
  | file (fault : FileFault)
  | json (fault : Json.ReadError)
  | alreadyRun (state : Scheduler.State)

namespace Error

/-- The wording of an error. -/
def message : Error → String
  | configuration problems =>
      "configuration error: " ++ String.intercalate "; " (problems.map (·.message))
  | invalidIri invalid => invalid.message
  | malformedGraph misshape => "malformed graph: " ++ misshape.message
  | file fault => "io error: " ++ fault.message
  | json fault => "json error: " ++ fault.message
  | alreadyRun state => "internal error: scheduler already " ++ state.name

/-- The wording of the error that caused this one. -/
def cause? : Error → Option String
  | file fault => some fault.message
  | json fault => some fault.message
  | _ => none

/-- Whether the error comes from what was configured. -/
def isConfiguration : Error → Bool
  | configuration _ | invalidIri _ => true
  | _ => false

end Error

end ContextStream
