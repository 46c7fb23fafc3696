import ContextStream.Json.Lexer

/-!
# Reading values

A value is read token by token. The place that has been reached is a value with a
hole: what is still missing is either the value of the hole or a symbol that
continues or closes the innermost list or object. A value that nobody asks for is
passed over by the same steps; then depth has no limit, the text of strings and the
size of numbers are not looked at, and a comma before a closing symbol is reported
in another way.
-/

namespace ContextStream.Json

/-- Whether the value is wanted, and how many lists and objects it may open inside each
other. -/
inductive Manner where
  | read (room : Nat)
  | pass
  deriving DecidableEq, Repr

/-- A value with a hole. -/
inductive Context where
  | whole
  /-- The hole follows the items, of which the last one comes first. -/
  | item (items : List Value) (outer : Context)
  /-- The hole is the value of a key. -/
  | member (members : List (String × Value)) (key : String) (outer : Context)

/-- How many lists and objects are open around the hole. -/
def Context.depth : Context → Nat
  | .whole => 0
  | .item _ outer => outer.depth + 1
  | .member _ _ outer => outer.depth + 1

/-- What is missing next. -/
inductive Position where
  | value (context : Context)
  | firstItem (outer : Context)
  | nextItem (items : List Value) (outer : Context)
  | afterItem (items : List Value) (outer : Context)
  | firstKey (outer : Context)
  | nextKey (members : List (String × Value)) (outer : Context)
  | colon (members : List (String × Value)) (key : String) (outer : Context)
  | afterMember (members : List (String × Value)) (outer : Context)

/-- What a token leads to. -/
inductive Progress where
  | missing (position : Position)
  | complete (value : Value)

/-- Puts a value into the hole. -/
def Context.fill (value : Value) : Context → Progress
  | .whole => .complete value
  | .item items outer => .missing (.afterItem (value :: items) outer)
  | .member members key outer => .missing (.afterMember (insertMember key value members) outer)

/-- Opens a list or an object in the hole, at a token. -/
def Context.enter (context : Context) (manner : Manner) (token : Token)
    (position : Context → Position) : Except Fault Progress :=
  match manner with
  | .pass => .ok (.missing (position context))
  | .read room =>
      if context.depth < room then .ok (.missing (position context))
      else .error (token.refuse .tooDeep)

/-- Begins the value of the hole with a token. -/
def Context.begin (context : Context) (manner : Manner) (token : Token) :
    Except Fault Progress :=
  match token.lexeme with
  | .null => .ok (context.fill .null)
  | .bool b => .ok (context.fill (.bool b))
  | .number n => .ok (context.fill (.number n))
  | .string s => .ok (context.fill (.string s))
  | .symbol .listOpen => context.enter manner token .firstItem
  | .symbol .objectOpen => context.enter manner token .firstKey
  | .symbol _ | .stray => .error (token.refuse .expectedValue)
  | .malformed _ inRead inPass =>
      match manner, inPass with
      | .read _, _ => .error inRead
      | .pass, some fault => .error fault
      | .pass, none => .ok (context.fill .null)

/-- The key that a token is. -/
def Manner.key (manner : Manner) (token : Token) : Except Fault String :=
  match token.lexeme with
  | .string s => .ok s
  | .malformed true inRead inPass =>
      match manner, inPass with
      | .read _, _ => .error inRead
      | .pass, some fault => .error fault
      | .pass, none => .ok ""
  | _ => .error (token.refuse .keyNotString)

/-- Goes on with a token. -/
def Position.step (manner : Manner) (position : Position) (token : Token) :
    Except Fault Progress :=
  match position with
  | .value context => context.begin manner token
  | .firstItem outer =>
      match token.lexeme with
      | .symbol .listClose => .ok (outer.fill (.list []))
      | _ => (Context.item [] outer).begin manner token
  | .nextItem items outer =>
      match token.lexeme, manner with
      | .symbol .listClose, .read _ => .error (token.refuse .trailingComma)
      | _, _ => (Context.item items outer).begin manner token
  | .afterItem items outer =>
      match token.lexeme with
      | .symbol .comma => .ok (.missing (.nextItem items outer))
      | .symbol .listClose => .ok (outer.fill (.list items.reverse))
      | _ => .error (token.refuse .expectedListCommaOrEnd)
  | .firstKey outer =>
      match token.lexeme with
      | .symbol .objectClose => .ok (outer.fill (.object []))
      | _ => (manner.key token).map fun key => .missing (.colon [] key outer)
  | .nextKey members outer =>
      match token.lexeme, manner with
      | .symbol .objectClose, .read _ => .error (token.refuse .trailingComma)
      | _, _ => (manner.key token).map fun key => .missing (.colon members key outer)
  | .colon members key outer =>
      match token.lexeme with
      | .symbol .colon => .ok (.missing (.value (.member members key outer)))
      | _ => .error (token.refuse .expectedColon)
  | .afterMember members outer =>
      match token.lexeme with
      | .symbol .comma => .ok (.missing (.nextKey members outer))
      | .symbol .objectClose => .ok (outer.fill (.object members))
      | _ => .error (token.refuse .expectedObjectCommaOrEnd)

/-- The cause when the text ends. -/
def Position.endCause (manner : Manner) : Position → Cause
  | .value _ | .nextItem _ _ => .endInValue
  | .firstItem _ | .afterItem _ _ => .endInList
  | .firstKey _ | .colon _ _ _ | .afterMember _ _ => .endInObject
  | .nextKey _ _ =>
      match manner with
      | .read _ => .endInValue
      | .pass => .endInObject

/-- A reader takes tokens from a text of a given size and leaves the others. -/
abbrev Reader (α : Type) := (size : Nat) → List Token → Except Fault (α × List Token)

/-- Reads on until the value is complete. -/
def Position.run (manner : Manner) (position : Position) : Reader Value
  | size, [] => .error ⟨position.endCause manner, size⟩
  | size, token :: rest =>
      match position.step manner token with
      | .error fault => .error fault
      | .ok (.complete v) => .ok (v, rest)
      | .ok (.missing position) => position.run manner size rest

/-- Reads a value that opens at most `room` lists and objects inside each other. -/
def readValue (room : Nat) : Reader Value :=
  Position.run (.read room) (.value .whole)

/-- Passes over a value. -/
def passValue : Reader Unit :=
  fun size tokens =>
    (Position.run .pass (.value .whole) size tokens).map fun (_, rest) => ((), rest)

/-- Nothing may follow what was read. -/
def finish (rest : List Token) : Except Fault Unit :=
  match rest with
  | [] => .ok ()
  | token :: _ => .error (token.refuse .trailingCharacters)

/-- How many lists and objects a text may open inside each other. -/
def maxDepth : Nat := 127

/-- The value that a text is. -/
def parse (text : String) : Except ReadError Value :=
  let chars := text.toList
  let { tokens, size } := tokenize chars
  let result := do
    let (value, rest) ← readValue maxDepth size tokens
    finish rest
    return value
  result.mapError (·.locate chars)

end ContextStream.Json
