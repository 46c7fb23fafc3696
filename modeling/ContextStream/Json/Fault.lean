import ContextStream.Json.Number
import ContextStream.Text.Quoted

/-!
# Why a JSON text cannot be read

A fault is a cause together with the number of bytes that were read when it was
found. A message gives the place as line and column.
-/

namespace ContextStream.Json

open ContextStream.Text

/-- What stood where something else was wanted. -/
inductive Found where
  | null
  | bool (b : Bool)
  | number (n : Number)
  | string (s : String)
  | list
  | object

/-- The wording of what was found. -/
def Found.message : Found → String
  | .null => "null"
  | .bool b => "boolean `" ++ (if b then "true" else "false") ++ "`"
  | .number (.integer n) => "integer `" ++ toString n.val ++ "`"
  | .number (.double x) => "floating point `" ++ (Number.double x).text ++ "`"
  | .string s => "string " ++ Quoted.text s
  | .list => "sequence"
  | .object => "map"

/-- The causes of faults: first those of the grammar, then those of the kind of data
that is wanted. -/
inductive Cause where
  | endInValue
  | endInString
  | endInList
  | endInObject
  | expectedValue
  | expectedWord
  | expectedColon
  | expectedListCommaOrEnd
  | expectedObjectCommaOrEnd
  | keyNotString
  | trailingComma
  | trailingCharacters
  | invalidEscape
  | invalidNumber
  | numberOutOfRange
  | loneSurrogate
  | unfinishedPair
  | controlCharacter
  | tooDeep
  | unexpectedType (found : Found) (wanted : String)
  | unfitInteger (n : Int) (wanted : String)
  | missingField (name : String)
  | duplicateField (name : String)
  | wrongLength (length : Nat) (wanted : String)

/-- The wording of a cause. -/
def Cause.message : Cause → String
  | .endInValue => "EOF while parsing a value"
  | .endInString => "EOF while parsing a string"
  | .endInList => "EOF while parsing a list"
  | .endInObject => "EOF while parsing an object"
  | .expectedValue => "expected value"
  | .expectedWord => "expected ident"
  | .expectedColon => "expected `:`"
  | .expectedListCommaOrEnd => "expected `,` or `]`"
  | .expectedObjectCommaOrEnd => "expected `,` or `\x7d`"
  | .keyNotString => "key must be a string"
  | .trailingComma => "trailing comma"
  | .trailingCharacters => "trailing characters"
  | .invalidEscape => "invalid escape"
  | .invalidNumber => "invalid number"
  | .numberOutOfRange => "number out of range"
  | .loneSurrogate => "lone leading surrogate in hex escape"
  | .unfinishedPair => "unexpected end of hex escape"
  | .controlCharacter => "control character (\\u0000-\\u001F) found while parsing a string"
  | .tooDeep => "recursion limit exceeded"
  | .unexpectedType found wanted => "invalid type: " ++ found.message ++ ", expected " ++ wanted
  | .unfitInteger n wanted =>
      "invalid value: integer `" ++ toString n ++ "`, expected " ++ wanted
  | .missingField name => "missing field `" ++ name ++ "`"
  | .duplicateField name => "duplicate field `" ++ name ++ "`"
  | .wrongLength length wanted =>
      "invalid length " ++ toString length ++ ", expected " ++ wanted

/-- A cause and the number of bytes in front of its place. -/
structure Fault where
  cause : Cause
  offset : Nat

/-- A place in a text: its line, counted from one, and the bytes in front of it on
that line. -/
structure Place where
  line : Nat
  column : Nat
  deriving DecidableEq, Repr

/-- The place that a number of bytes leads to. -/
def Place.ofOffset (text : List Char) (offset : Nat) : Place :=
  let (_, line, start) :=
    text.foldl
      (fun (position, line, start) c =>
        let next := position + c.utf8Size
        if c = '\n' ∧ position < offset then (next, line + 1, next) else (next, line, start))
      (0, 1, 0)
  ⟨line, offset - start⟩

/-- A fault with its place. -/
structure ReadError where
  cause : Cause
  place : Place

/-- The message about a fault. -/
def ReadError.message (e : ReadError) : String :=
  e.cause.message ++ " at line " ++ toString e.place.line ++ " column " ++
    toString e.place.column

/-- Finds the place of a fault. -/
def Fault.locate (text : List Char) (fault : Fault) : ReadError :=
  ⟨fault.cause, Place.ofOffset text fault.offset⟩

end ContextStream.Json
