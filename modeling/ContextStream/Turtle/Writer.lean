import ContextStream.Graph
import ContextStream.Text.Split

/-!
# Writing Turtle

A document groups the triples of a graph: a block for each subject, in it a statement for
each predicate, in it the objects. It begins with the bindings of four namespaces, whether
they are used or not. A node in one of them is written with the name of the namespace
when the rest of its IRI is plain, and otherwise as its IRI between angle brackets.
-/

namespace ContextStream.Turtle

open ContextStream.Text

/-! ## Blocks of a graph -/

/-- A predicate with its objects. -/
structure Statement where
  predicate : Iri
  objects : List Term
  deriving DecidableEq

/-- A subject with its statements. -/
structure Block where
  subject : Iri
  statements : List Statement
  deriving DecidableEq

/-- The statements of a graph about a subject. -/
def statementsOf (graph : Graph) (subject : Iri) : List Statement :=
  (graph.predicates subject).map fun predicate =>
    { predicate, objects := graph.objects subject predicate }

/-- The blocks of a graph. -/
def blocks (graph : Graph) : List Block :=
  graph.subjects.map fun subject => { subject, statements := statementsOf graph subject }

/-! ## Their texts -/

/-- Letters and digits of ASCII, and the low line. -/
def isLocalStart (c : Char) : Bool :=
  c.isAlphanum || c == '_'

/-- Names that need no escape: a letter, a digit or a low line, and then such
characters and hyphens. -/
def isPlainLocal (name : List Char) : Bool :=
  match name with
  | first :: rest => isLocalStart first && rest.all fun c => isLocalStart c || c == '-'
  | [] => false

/-- The name of a node in a namespace, if it lies there and has a plain rest. -/
def nameIn? (iri : Iri) (binding : String × String) : Option (List Char) :=
  match iri.stripNamespace binding.2 with
  | some rest =>
      if isPlainLocal rest.toList then some (binding.1.toList ++ ':' :: rest.toList) else none
  | none => none

/-- A node. -/
def node (iri : Iri) : List Char :=
  (Vocabulary.bindings.findSome? (nameIn? iri)).getD ('<' :: iri.text.toList ++ ['>'])

/-- A node in the place of a predicate. -/
def predicate (iri : Iri) : List Char :=
  if iri = Vocabulary.type then ['a'] else node iri

/-- An object. -/
def object : Term → List Char
  | .iri iri => node iri
  | .integer value => (toString value.toInt).toList

/-- A predicate with its objects. -/
def statement (s : Statement) : List Char :=
  predicate s.predicate ++ ' ' :: joinWith [',', ' '] (s.objects.map object)

/-- What stands between two statements about a subject. -/
def betweenStatements : List Char :=
  [' ', ';', '\n', ' ', ' ', ' ', ' ']

/-- A block with a line in front of it. -/
def block (b : Block) : List Char :=
  '\n' :: node b.subject ++ ' ' :: joinWith betweenStatements (b.statements.map statement) ++
    [' ', '.', '\n']

/-- The binding of a namespace. -/
def binding (name space : String) : List Char :=
  "@prefix ".toList ++ name.toList ++ ": <".toList ++ space.toList ++ "> .\n".toList

/-- A graph as a document. -/
def write (graph : Graph) : String :=
  String.ofList <|
    (Vocabulary.bindings.flatMap fun (name, space) => binding name space) ++
      (blocks graph).flatMap block

end ContextStream.Turtle
