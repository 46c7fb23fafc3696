import ContextStream.Json.Token
import ContextStream.Text.Hex

/-!
# Reading a string

A string is read character by character, from behind its opening quotation mark. A
character beyond the first plane may be written as two escapes, one for each half
of a surrogate pair; halves that stand alone are faults only when the text of the
string is asked for.
-/

namespace ContextStream.Json

open ContextStream.Text

namespace Literal

/-- What the next character of a string is part of. -/
inductive Phase where
  | plain
  | escape
  /-- Four hexadecimal digits from an offset on, of which `count` were read. -/
  | digits (start count value : Nat)
  /-- Four hexadecimal digits from an offset on, one of which is none. -/
  | spoilt (start : Nat)
  deriving DecidableEq, Repr

end Literal

/-- The part of a string that has been read. -/
structure Literal where
  /-- The characters, the last one first. -/
  chars : List Char
  /-- The first half of a surrogate pair that waits for the second. -/
  half : Option Nat
  /-- The first fault that concerns only the text of the string. -/
  flaw : Option Fault
  phase : Literal.Phase

namespace Literal

/-- The beginning of a string. -/
def start : Literal := ⟨[], none, none, .plain⟩

/-- What a character does to a string. -/
inductive Step where
  | more (literal : Literal)
  | ended (lexeme : Lexeme)
  | refused (lexeme : Lexeme)

/-- Notes a fault of the text, unless there was one before. -/
def blemish (literal : Literal) (cause : Cause) (offset : Nat) : Literal :=
  { literal with half := none, flaw := literal.flaw.or (some ⟨cause, offset⟩) }

/-- The lexeme of a string that cannot be completed. -/
def broken (literal : Literal) (read pass : Fault) : Lexeme :=
  .malformed true (literal.flaw.getD read) (some pass)

/-- The lexeme of a string that its quotation mark ends. -/
def lexeme (literal : Literal) : Lexeme :=
  match literal.flaw with
  | some fault => .malformed true fault none
  | none => .string (String.ofList literal.chars.reverse)

/-- The lexeme of a string that the end of the text breaks off. -/
def unfinished (literal : Literal) (offset : Nat) : Lexeme :=
  literal.broken ⟨.endInString, offset⟩ ⟨.endInString, offset⟩

/-- A character of the string. -/
def push (literal : Literal) (c : Char) : Literal :=
  { literal with chars := c :: literal.chars, phase := .plain }

/-- The character that a letter behind a backslash stands for. -/
def escaped? : Char → Option Char
  | '"' => some '"'
  | '\\' => some '\\'
  | '/' => some '/'
  | 'b' => some '\x08'
  | 'f' => some '\x0c'
  | 'n' => some '\n'
  | 'r' => some '\r'
  | 't' => some '\t'
  | _ => none

/-- The number of an escape is complete at an offset. -/
def pushCode (literal : Literal) (code offset : Nat) : Literal :=
  let plain := { literal with phase := .plain }
  let isSecond := 0xdc00 ≤ code ∧ code < 0xe000
  match literal.half with
  | some first =>
      if isSecond then
        { plain.push (Char.ofNat (0x10000 + (first - 0xd800) * 0x400 + (code - 0xdc00))) with
          half := none }
      else plain.blemish .loneSurrogate offset
  | none =>
      if isSecond then plain.blemish .loneSurrogate offset
      else if 0xd800 ≤ code ∧ code < 0xdc00 then { plain with half := some code }
      else plain.push (Char.ofNat code)

/-- Reads the character at an offset. -/
def step (literal : Literal) (offset : Nat) (c : Char) : Step :=
  match literal.phase with
  | .plain =>
      let literal :=
        if literal.half.isSome ∧ c ≠ '\\' then literal.blemish .unfinishedPair (offset + 1)
        else literal
      if c = '"' then .ended literal.lexeme
      else if c = '\\' then .more { literal with phase := .escape }
      else if c.toNat < 0x20 then
        .refused (literal.broken ⟨.controlCharacter, offset + 1⟩ ⟨.controlCharacter, offset⟩)
      else .more (literal.push c)
  | .escape =>
      let literal :=
        if literal.half.isSome ∧ c ≠ 'u' then literal.blemish .unfinishedPair (offset + 1)
        else literal
      if c = 'u' then .more { literal with phase := .digits (offset + 1) 0 0 }
      else
        match escaped? c with
        | some d => .more (literal.push d)
        | none =>
            .refused (literal.broken ⟨.invalidEscape, offset + 1⟩ ⟨.invalidEscape, offset + 1⟩)
  | .digits start count value =>
      match Hex.value? c with
      | some digit =>
          if count < 3 then
            .more { literal with phase := .digits start (count + 1) (16 * value + digit) }
          else .more (literal.pushCode (16 * value + digit) (offset + 1))
      | none => spoil literal start
  | .spoilt start => spoil literal start
where
  /-- Four bytes are taken before one that is no digit is noticed. -/
  spoil (literal : Literal) (start : Nat) : Step :=
    if start + 4 ≤ offset + c.utf8Size then
      .refused (literal.broken ⟨.invalidEscape, start + 4⟩ ⟨.invalidEscape, start + 4⟩)
    else .more { literal with phase := .spoilt start }

end Literal

end ContextStream.Json
