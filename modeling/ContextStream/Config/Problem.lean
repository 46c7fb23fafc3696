import ContextStream.Iri
import ContextStream.Vocabulary

/-!
# What is wrong with a configuration

Every condition that a configuration does not meet is a problem of its own.
-/

namespace ContextStream.Config

/-- The keys of a configuration. -/
inductive Key where
  | assertionType
  | assertionSubject
  | assertionObject
  | hub
  | stream
  | interval
  deriving DecidableEq, Repr

/-- A key as it stands in a configuration. -/
def Key.name : Key → String
  | .assertionType => "assertionType"
  | .assertionSubject => "assertionSubject"
  | .assertionObject => "assertionObject"
  | .hub => "hubURI"
  | .stream => "streamURI"
  | .interval => "generateEvery"

/-- A condition that is not met. -/
inductive Problem where
  | notObject
  | missing (key : Key)
  | notIri (key : Key) (invalid : InvalidIri)
  | notString (key : Key) (found : String)
  | notInterval (found : String)
  | markerType
  deriving DecidableEq, Repr

/-- A key between marks. -/
def Key.marked (key : Key) : String :=
  "`" ++ key.name ++ "`"

/-- The wording of a problem. -/
def Problem.message : Problem → String
  | .notObject => "top-level value must be a JSON object"
  | .missing key => "missing required key " ++ key.marked
  | .notIri key invalid => key.marked ++ ": " ++ invalid.message
  | .notString key found => key.marked ++ " must be a string, got " ++ found
  | .notInterval found => Key.interval.marked ++ " must be a positive integer, got " ++ found
  | .markerType =>
      Key.assertionType.marked ++ " must be a domain type, not " ++
        Vocabulary.binaryAssertion.text

end ContextStream.Config
