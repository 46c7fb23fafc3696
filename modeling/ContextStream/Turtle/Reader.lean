import ContextStream.Graph
import ContextStream.Turtle.Token

/-!
# Reading Turtle

A document binds namespaces and states triples. It is read token by token; what has
been read is a place in a sentence, the bindings so far, and the triples so far.
-/

namespace ContextStream.Turtle

/-- Where in a sentence a reader is. -/
inductive Place where
  | sentence
  | label
  | space (label : List Char)
  | endOfBinding (label space : List Char)
  | predicate (subject : Iri)
  | object (subject predicate : Iri)
  | afterObject (subject predicate : Iri)
  /-- Behind a semicolon, which more of them or the end may follow. -/
  | afterSemicolon (subject : Iri)
  deriving DecidableEq

/-- What has been read. -/
structure Reader where
  place : Place
  /-- The bindings, the last one first. -/
  bindings : List (List Char × List Char)
  /-- The triples, the last one first. -/
  triples : List Triple

namespace Reader

/-- Nothing has been read. -/
def start : Reader := ⟨.sentence, [], []⟩

/-- Goes on at another place. -/
def goTo (reader : Reader) (place : Place) : Reader :=
  { reader with place }

/-- The node that a text names. -/
def nodeOf? (text : List Char) : Option Iri :=
  (Iri.parse (String.ofList text)).toOption

/-- The node that a token stands for. -/
def node? (reader : Reader) : Token → Option Iri
  | .reference text => nodeOf? text
  | .name label rest =>
      (reader.bindings.lookup label).bind fun space => nodeOf? (space ++ rest)
  | _ => none

/-- The predicate that a token stands for. -/
def predicate? (reader : Reader) : Token → Option Iri
  | .type => some Vocabulary.type
  | token => reader.node? token

/-- The object that a token stands for. Integers have sixty-four bits. -/
def object? (reader : Reader) : Token → Option Term
  | .integer value =>
      if (Int64.ofInt value).toInt = value then some (.integer (Int64.ofInt value)) else none
  | token => (reader.node? token).map .iri

/-- Adds a triple. -/
def state (reader : Reader) (subject predicate : Iri) (object : Term) : Reader :=
  { reader with
    place := .afterObject subject predicate
    triples := ⟨subject, predicate, object⟩ :: reader.triples }

/-- Reads a token. -/
def step (reader : Reader) (token : Token) : Option Reader :=
  match reader.place, token with
  | .sentence, .directive => some (reader.goTo .label)
  | .sentence, token => (reader.node? token).map fun subject => reader.goTo (.predicate subject)
  | .label, .name label [] => some (reader.goTo (.space label))
  | .space label, .reference space => some (reader.goTo (.endOfBinding label space))
  | .endOfBinding label space, .stop =>
      some { reader with place := .sentence, bindings := (label, space) :: reader.bindings }
  | .predicate subject, token =>
      (reader.predicate? token).map fun predicate => reader.goTo (.object subject predicate)
  | .object subject predicate, token =>
      (reader.object? token).map fun object => reader.state subject predicate object
  | .afterObject subject predicate, .comma => some (reader.goTo (.object subject predicate))
  | .afterObject subject _, .semicolon => some (reader.goTo (.afterSemicolon subject))
  | .afterObject _ _, .stop => some (reader.goTo .sentence)
  | .afterSemicolon subject, .semicolon => some (reader.goTo (.afterSemicolon subject))
  | .afterSemicolon _, .stop => some (reader.goTo .sentence)
  | .afterSemicolon subject, token =>
      (reader.predicate? token).map fun predicate => reader.goTo (.object subject predicate)
  | _, _ => none

end Reader

/-- The triples of tokens, in the order in which they are stated. -/
def triplesOf? (tokens : List Token) : Option (List Triple) :=
  (tokens.foldlM Reader.step Reader.start).bind fun reader =>
    if reader.place = .sentence then some reader.triples.reverse else none

/-- The triples that a document states, in their order. -/
def read? (document : String) : Option (List Triple) :=
  (Token.ofText? document.toList).bind triplesOf?

end ContextStream.Turtle
