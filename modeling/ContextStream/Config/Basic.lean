import ContextStream.Assertion.Basic
import ContextStream.Error
import ContextStream.Json.Reader
import ContextStream.Log

/-!
# Configurations

A configuration is a JSON object with five IRIs and an interval. It is read key by
key, so that every problem is reported.
-/

namespace ContextStream

/-- What is asserted, where the updates go, and how long the pause between them is. -/
structure Config where
  assertionType : Iri
  assertionSubject : Iri
  assertionObject : Iri
  hub : Iri
  stream : Iri
  /-- The time from the end of a cycle to the start of the next, in units of any length. What
  a text gives is taken for milliseconds, and so it is when it is reported. -/
  interval : Nat
  deriving DecidableEq

namespace Config

/-- The seconds between cycles unless a configuration tells otherwise. -/
def defaultSeconds : Nat := 60

/-- The kind of a value. -/
def kindOf : Json.Value → String
  | .null => "null"
  | .bool _ => "a boolean"
  | .number _ => "a number"
  | .string _ => "a string"
  | .list _ => "an array"
  | .object _ => "an object"

/-- The IRI under a key. -/
def iriAt (key : Key) (members : List (String × Json.Value)) : Except Problem Iri :=
  match Json.member? key.name members with
  | none | some .null => .error (.missing key)
  | some (.string text) => (Iri.parse text).mapError (.notIri key)
  | some other => .error (.notString key (kindOf other))

/-- The seconds under the key of the interval. -/
def secondsAt (members : List (String × Json.Value)) : Except Problem Nat :=
  match Json.member? Key.interval.name members with
  | none | some .null => .ok defaultSeconds
  | some (.number (.integer n)) =>
      if 0 < n.val then .ok n.val.toNat else .error (.notInterval (toString n.val))
  | some (.number n) => .error (.notInterval n.text)
  | some other => .error (.notInterval (kindOf other))

/-- The problem of a part, if it has one. -/
def problemsOf {α : Type} : Except Problem α → List Problem
  | .ok _ => []
  | .error problem => [problem]

/-- The problem of an assertion type that every assertion has anyway. -/
def markerProblems : Except Problem Iri → List Problem
  | .ok type => if type = Vocabulary.binaryAssertion then [.markerType] else []
  | .error _ => []

/-- The configuration that the members of an object give. -/
def ofMembers (members : List (String × Json.Value)) : Except (List Problem) Config :=
  let type := iriAt .assertionType members
  let subject := iriAt .assertionSubject members
  let object := iriAt .assertionObject members
  let hub := iriAt .hub members
  let stream := iriAt .stream members
  let seconds := secondsAt members
  let problems :=
    problemsOf type ++ problemsOf subject ++ problemsOf object ++ problemsOf hub ++
      problemsOf stream ++ problemsOf seconds ++ markerProblems type
  match type, subject, object, hub, stream, seconds, problems with
  | .ok type, .ok subject, .ok object, .ok hub, .ok stream, .ok seconds, [] =>
      .ok ⟨type, subject, object, hub, stream, 1000 * seconds⟩
  | _, _, _, _, _, _, problems => .error problems

/-- The configuration that a value gives. -/
def ofValue (value : Json.Value) : Except (List Problem) Config :=
  match value with
  | .object members => ofMembers members
  | _ => .error [.notObject]

/-- The configuration that a text gives. -/
def parse (text : String) : Except Error Config := do
  let value ← (Json.parse text).mapError .json
  (ofValue value).mapError .configuration

/-- The configuration in a file. -/
def ofFile (file : File) : Except Error Config := do
  let text ← file.read.mapError .file
  parse text

/-- Loads the configuration from a path, and reports it. -/
def load (path : String) (file : File) : Except Error Config × List Log.Entry :=
  match ofFile file with
  | .ok config => (.ok config, [⟨.info, "ctxgen_core::config", "Loaded config from " ++ path⟩])
  | .error error => (.error error, [])

/-- The short name of the stream. -/
def streamName (config : Config) : String :=
  config.stream.localName

/-- The update at a time, named by two fresh identifiers. -/
def assertion (config : Config) (id stampId : Uuid) (time : Int64) : Assertion :=
  { id := .ofUuid id
    type := config.assertionType
    subject := config.assertionSubject
    object := config.assertionObject
    stamp := { id := .ofUuid stampId, time } }

end Config

end ContextStream
