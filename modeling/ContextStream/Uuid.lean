import ContextStream.Text.Hex

/-!
# Universally unique identifiers

A number of 128 bits, written as thirty-two hexadecimal digits in five groups.
-/

namespace ContextStream

/-- A universally unique identifier. -/
structure Uuid where
  bits : BitVec 128
  deriving DecidableEq, Repr

namespace Uuid

/-- The lengths of the groups of digits. -/
def groups : List Nat := [8, 4, 4, 4, 12]

/-- Cuts a sequence of digits into groups with a hyphen between each two. -/
def hyphenated (digits : List Char) : List Nat → List Char
  | [] => []
  | [length] => digits.take length
  | length :: lengths => digits.take length ++ '-' :: hyphenated (digits.drop length) lengths

/-- The digits of an identifier. -/
def digits (id : Uuid) : List Char :=
  Text.Hex.fixed 32 id.bits.toNat

/-- The written form of an identifier. -/
def text (id : Uuid) : List Char :=
  hyphenated id.digits groups

/-- The identifier of version 4 that random bits give: six of them are fixed to
tell version and variant. -/
def ofRandom (bits : BitVec 128) : Uuid :=
  let versionMask : BitVec 128 := 0xf000#128 <<< 64
  let variantMask : BitVec 128 := 0xc000000000000000#128
  ⟨((bits &&& ~~~(versionMask ||| variantMask)) ||| (0x4000#128 <<< 64)) |||
    0x8000000000000000#128⟩

end Uuid

end ContextStream
