import ContextStream.Graph

/-!
# The shape of an assertion

A document holds one assertion that relates two entities, and the annotation that
tells its time: seven triples on two nodes. The check looks at one requirement after
the other and reports the first that is not met.
-/

namespace ContextStream.Assertion

/-- What keeps a graph from being an assertion. -/
inductive Misshape where
  | tripleCount (found : Nat)
  | assertionCount (found : Nat)
  | typeCount (found : Nat)
  | notOneNode (subject predicate : Iri) (found : Nat)
  | annotatesItself
  | stampType (found : Iri)
  | valueCount (found : Nat)
  deriving DecidableEq

/-- The wording of each fault. -/
def Misshape.message : Misshape → String
  | .tripleCount found => "expected 7 triples, found " ++ toString found
  | .assertionCount found => "expected one BinaryContextAssertion, found " ++ toString found
  | .typeCount found => "assertion has " ++ toString found ++ " types, expected 2"
  | .notOneNode subject predicate found =>
      "<" ++ subject.text ++ "> needs exactly one IRI for <" ++ predicate.text ++ ">, found " ++
        toString found ++ " objects"
  | .annotatesItself => "assertion annotates itself"
  | .stampType found => "annotation has type " ++ found.text
  | .valueCount found => "annotation has " ++ toString found ++ " integer values, expected 1"

/-- The only object of a subject under a predicate, which has to be a node. -/
def onlyNode (graph : Graph) (subject predicate : Iri) : Except Misshape Iri :=
  match graph.objects subject predicate with
  | [.iri node] => .ok node
  | objects => .error (.notOneNode subject predicate objects.length)

/-- The only assertion of a graph. -/
def onlyAssertion (graph : Graph) : Except Misshape Iri :=
  match graph.instancesOf Vocabulary.binaryAssertion with
  | [assertion] => .ok assertion
  | assertions => .error (.assertionCount assertions.length)

/-- Refuses unless a requirement is met. -/
def require (requirement : Bool) (misshape : Misshape) : Except Misshape Unit :=
  if requirement then .ok () else .error misshape

/-- Checks that a graph is an assertion. -/
def checkShape (graph : Graph) : Except Misshape Unit := do
  require (graph.size = 7) (.tripleCount graph.size)
  let assertion ← onlyAssertion graph
  let types := (graph.objects assertion Vocabulary.type).length
  require (types = 2) (.typeCount types)
  let _ ← onlyNode graph assertion Vocabulary.assertionSubject
  let _ ← onlyNode graph assertion Vocabulary.assertionObject
  let stamp ← onlyNode graph assertion Vocabulary.annotatedBy
  require (stamp ≠ assertion) .annotatesItself
  let stampType ← onlyNode graph stamp Vocabulary.type
  require (stampType = Vocabulary.timestampClass) (.stampType stampType)
  let values := ((graph.objects stamp Vocabulary.hasValue).filterMap Term.integer?).length
  require (values = 1) (.valueCount values)

end ContextStream.Assertion
