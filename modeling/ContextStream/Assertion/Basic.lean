import ContextStream.Assertion.Shape
import ContextStream.Iri.Urn
import ContextStream.Turtle.Writer

/-!
# Context assertions

An assertion of a domain type relates two entities, and an annotation tells when.
-/

namespace ContextStream

/-- The annotation that tells the time of an assertion, in milliseconds since the beginning of
1970. -/
structure Stamp where
  id : Iri
  time : Int64
  deriving DecidableEq

/-- An assertion that relates two entities. -/
structure Assertion where
  id : Iri
  type : Iri
  subject : Iri
  object : Iri
  stamp : Stamp
  deriving DecidableEq

namespace Assertion

/-- The triples of an assertion and its annotation. -/
def triples (a : Assertion) : List Triple :=
  [⟨a.id, Vocabulary.type, .iri a.type⟩,
    ⟨a.id, Vocabulary.type, .iri Vocabulary.binaryAssertion⟩,
    ⟨a.id, Vocabulary.assertionSubject, .iri a.subject⟩,
    ⟨a.id, Vocabulary.assertionObject, .iri a.object⟩,
    ⟨a.id, Vocabulary.annotatedBy, .iri a.stamp.id⟩,
    ⟨a.stamp.id, Vocabulary.type, .iri Vocabulary.timestampClass⟩,
    ⟨a.stamp.id, Vocabulary.hasValue, .integer a.stamp.time⟩]

/-- The graph of an assertion. -/
def toGraph (a : Assertion) : Graph :=
  Graph.ofList a.triples

/-- The document of a graph that has the shape of an assertion. -/
def document (graph : Graph) : Except Misshape String :=
  (checkShape graph).map fun _ => Turtle.write graph

end Assertion

end ContextStream
