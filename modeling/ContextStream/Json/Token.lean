import ContextStream.Json.Fault
import ContextStream.Json.Value

/-!
# Tokens

A token is a symbol, a word, a number or a string, with the bytes it takes. A
stretch that is no token is malformed; when its value is not asked for, some
malformed stretches may be passed over.
-/

namespace ContextStream.Json

/-- The symbols that structure a text. -/
inductive Symbol where
  | listOpen
  | listClose
  | objectOpen
  | objectClose
  | colon
  | comma
  deriving DecidableEq, Repr

/-- What a stretch of text is. -/
inductive Lexeme where
  | symbol (symbol : Symbol)
  | null
  | bool (b : Bool)
  | number (n : Number)
  | string (s : String)
  /-- Reading the stretch gives the first fault; passing over it gives the second, if
  any. -/
  | malformed (quoted : Bool) (inRead : Fault) (inPass : Option Fault)
  /-- A character that begins no token. -/
  | stray

/-- A lexeme between two offsets. -/
structure Token where
  lexeme : Lexeme
  start : Nat
  stop : Nat

/-- A fault that the mere beginning of a token makes. -/
def Token.refuse (token : Token) (cause : Cause) : Fault :=
  ⟨cause, token.start + 1⟩

/-- The symbol that a character is. -/
def Symbol.ofChar? : Char → Option Symbol
  | '[' => some .listOpen
  | ']' => some .listClose
  | '\x7b' => some .objectOpen
  | '\x7d' => some .objectClose
  | ':' => some .colon
  | ',' => some .comma
  | _ => none

/-- The blanks between tokens. -/
def isBlank (c : Char) : Bool :=
  c == ' ' || c == '\n' || c == '\t' || c == '\r'

end ContextStream.Json
