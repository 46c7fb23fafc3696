import ContextStream.Iri
import ContextStream.Json.Printer
import ContextStream.Json.Record

/-!
# IRIs on the wire and in order

On the wire an IRI is a JSON string. Sorted lists of IRIs are in the order of their
texts.
-/

namespace ContextStream.Iri

/-- The JSON text of an IRI. -/
def json (iri : Iri) : String :=
  String.ofList (Json.quote iri.text)

/-- Why a JSON text is no IRI. -/
inductive WireFault where
  | json (fault : Json.ReadError)
  | invalid (invalid : InvalidIri)

/-- The wording of a fault. -/
def WireFault.message : WireFault → String
  | .json fault => fault.message
  | .invalid reason => reason.message

/-- The IRI that a JSON text is. The string is looked at before anything that follows
it. -/
def ofJson (text : String) : Except WireFault Iri :=
  let chars := text.toList
  let { tokens, size } := Json.tokenize chars
  let located := fun (fault : Json.Fault) => WireFault.json (fault.locate chars)
  do
    let (content, rest) ← (Json.readString size tokens).mapError located
    let iri ← (parse content).mapError .invalid
    (Json.finish rest).mapError located
    return iri

/-- Puts an IRI into its place in a sorted list, unless it is there. -/
def insertSorted (iri : Iri) : List Iri → List Iri
  | [] => [iri]
  | other :: rest =>
      if iri.text < other.text then iri :: other :: rest
      else if iri = other then other :: rest
      else other :: insertSorted iri rest

/-- The IRIs of a list in order, each once. -/
def sorted (iris : List Iri) : List Iri :=
  iris.foldr insertSorted []

end ContextStream.Iri
