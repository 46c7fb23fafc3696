import ContextStream.Json.Token

/-!
# Reading a numeral

A numeral is read character by character. Its digits are collected as long as they
fit sixty-four bits; after that, digits of the whole part only raise the scale and
digits of the fraction are dropped.
-/

namespace ContextStream.Json

namespace Numeral

/-- How far a numeral has been read. -/
inductive Phase where
  | sign
  | zero
  | whole
  | longWhole
  | point
  | fraction
  | longFraction
  | mark
  | markSign
  | exponent
  | longExponent
  deriving DecidableEq, Repr

end Numeral

/-- The part of a numeral that has been read. -/
structure Numeral where
  negative : Bool
  significand : Nat
  scale : Int
  exponent : Nat
  exponentNegative : Bool
  /-- Set when the exponent alone makes the number too large. -/
  fault : Option Fault
  phase : Numeral.Phase

namespace Numeral

/-- The numeral that a character begins. -/
def ofChar? (c : Char) : Option Numeral :=
  let start : Numeral := ⟨false, 0, 0, 0, false, none, .sign⟩
  if c = '-' then some { start with negative := true }
  else if c = '0' then some { start with phase := .zero }
  else if c.isDigit then some { start with significand := c.toNat - 48, phase := .whole }
  else none

/-- What a character does to a numeral. -/
inductive Step where
  | more (numeral : Numeral)
  /-- The numeral was complete without the character. -/
  | ended
  /-- The numeral cannot be completed. -/
  | refused

/-- What follows the whole part. -/
def afterWhole (numeral : Numeral) (c : Char) : Step :=
  if c = '.' then .more { numeral with phase := .point }
  else if c = 'e' ∨ c = 'E' then .more { numeral with phase := .mark }
  else .ended

/-- What follows the fraction. -/
def afterFraction (numeral : Numeral) (c : Char) : Step :=
  if c = 'e' ∨ c = 'E' then .more { numeral with phase := .mark } else .ended

/-- A digit of the whole part. -/
def wholeDigit (numeral : Numeral) (digit : Nat) : Numeral :=
  let significand := 10 * numeral.significand + digit
  if significand < UInt64.size then { numeral with significand }
  else { numeral with scale := numeral.scale + 1, phase := .longWhole }

/-- A digit of the fraction. -/
def fractionDigit (numeral : Numeral) (digit : Nat) : Numeral :=
  let significand := 10 * numeral.significand + digit
  if significand < UInt64.size then
    { numeral with significand, scale := numeral.scale - 1, phase := .fraction }
  else { numeral with phase := .longFraction }

/-- A digit of the exponent, read at an offset. -/
def exponentDigit (numeral : Numeral) (offset digit : Nat) : Numeral :=
  let exponent := 10 * numeral.exponent + digit
  if exponent < 2147483648 then { numeral with exponent, phase := .exponent }
  else
    let tooLarge := numeral.significand ≠ 0 ∧ !numeral.exponentNegative
    { numeral with
      fault := if tooLarge then some ⟨.numberOutOfRange, offset + 1⟩ else none
      phase := .longExponent }

/-- Reads the character at an offset. -/
def step (numeral : Numeral) (offset : Nat) (c : Char) : Step :=
  let digit := c.toNat - 48
  match numeral.phase with
  | .sign =>
      match ofChar? c with
      | some start =>
          if c = '-' then .refused else .more { start with negative := numeral.negative }
      | none => .refused
  | .zero => if c.isDigit then .refused else afterWhole numeral c
  | .whole => if c.isDigit then .more (wholeDigit numeral digit) else afterWhole numeral c
  | .longWhole =>
      if c.isDigit then .more { numeral with scale := numeral.scale + 1 }
      else afterWhole numeral c
  | .point => if c.isDigit then .more (fractionDigit numeral digit) else .refused
  | .fraction =>
      if c.isDigit then .more (fractionDigit numeral digit) else afterFraction numeral c
  | .longFraction => if c.isDigit then .more numeral else afterFraction numeral c
  | .mark =>
      if c = '+' then .more { numeral with phase := .markSign }
      else if c = '-' then .more { numeral with exponentNegative := true, phase := .markSign }
      else if c.isDigit then .more (exponentDigit numeral offset digit)
      else .refused
  | .markSign => if c.isDigit then .more (exponentDigit numeral offset digit) else .refused
  | .exponent => if c.isDigit then .more (exponentDigit numeral offset digit) else .ended
  | .longExponent => if c.isDigit then .more numeral else .ended

/-- A floating point number with the sign of the numeral. -/
def signed (numeral : Numeral) (x : Float) : Lexeme :=
  .number (.double (if numeral.negative then -x else x))

/-- The number of a numeral without fraction and exponent. -/
def exact (numeral : Numeral) : Lexeme :=
  let n : Int := if numeral.negative then -numeral.significand else numeral.significand
  if numeral.negative ∧ numeral.significand = 0 then numeral.signed 0
  else if h : -9223372036854775808 ≤ n ∧ n < 18446744073709551616 then
    .number (.integer ⟨n, h.1, h.2⟩)
  else numeral.signed (Float.ofNat numeral.significand)

/-- The number of any other numeral, which ends at an offset. -/
def scaled (numeral : Numeral) (offset : Nat) : Lexeme :=
  let exponent : Int :=
    if numeral.exponentNegative then numeral.scale - numeral.exponent
    else numeral.scale + numeral.exponent
  match Number.scaled? numeral.significand exponent with
  | some x => numeral.signed x
  | none => .malformed false ⟨.numberOutOfRange, offset⟩ none

/-- The lexeme of a numeral that ends at an offset. -/
def lexeme (numeral : Numeral) (offset : Nat) : Lexeme :=
  match numeral.fault, numeral.phase with
  | some fault, _ => .malformed false fault none
  | none, .zero => numeral.exact
  | none, .whole => numeral.exact
  | none, .longExponent => numeral.signed 0
  | none, .sign | none, .point | none, .mark | none, .markSign =>
      .malformed false ⟨.endInValue, offset⟩ (some ⟨.invalidNumber, offset⟩)
  | none, _ => numeral.scaled offset

end Numeral

end ContextStream.Json
