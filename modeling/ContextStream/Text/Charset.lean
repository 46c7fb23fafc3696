import ContextStream.Text.Split
import ContextStream.Text.Utf8

/-!
# Texts in bytes

Characters stand in bytes in one of the forms of Unicode, or in an older way. A text in a
form of Unicode may begin with a mark that tells the form, whatever else is said about it.
-/

namespace ContextStream.Text

/-- The forms in which the characters of Unicode stand in bytes. -/
inductive Form where
  | utf8
  /-- Units of sixteen bits, the more significant byte first. -/
  | utf16be
  /-- Units of sixteen bits, the less significant byte first. -/
  | utf16le
  deriving DecidableEq, Repr

namespace Form

/-! ## Units of sixteen bits -/

/-- The number of a unit whose more significant byte comes first. -/
def highFirst (high low : UInt8) : Nat :=
  high.toNat * 256 + low.toNat

/-- The number of a unit whose less significant byte comes first. -/
def lowFirst (low high : UInt8) : Nat :=
  highFirst high low

/-- The units of pairs of bytes, and whether a byte is left over. -/
def units (read : UInt8 → UInt8 → Nat) : List UInt8 → List Nat × Bool
  | [] => ([], false)
  | [_] => ([], true)
  | first :: second :: rest =>
      let (behind, odd) := units read rest
      (read first second :: behind, odd)

/-- Whether a unit is the first half of a pair. -/
def isFirstHalf (unit : Nat) : Bool :=
  0xd800 ≤ unit && unit < 0xdc00

/-- Whether a unit is the second half of a pair. -/
def isSecondHalf (unit : Nat) : Bool :=
  0xdc00 ≤ unit && unit < 0xe000

/-- The characters of units. Halves that stand alone are replaced, and so is a byte that is
left over, unless a half in front of it is. -/
def characters (odd : Bool) : List Nat → List Char
  | [] => if odd then [Utf8.replacement] else []
  | unit :: rest =>
      if isFirstHalf unit then
        match rest with
        | [] => [Utf8.replacement]
        | next :: rest =>
            if isSecondHalf next then
              Char.ofNat (0x10000 + (unit - 0xd800) * 0x400 + (next - 0xdc00)) ::
                characters odd rest
            else Utf8.replacement :: characters odd (next :: rest)
      else if isSecondHalf unit then Utf8.replacement :: characters odd rest
      else Char.ofNat unit :: characters odd rest

/-- The characters of pairs of bytes. -/
def decodePairs (read : UInt8 → UInt8 → Nat) (text : List UInt8) : List Char :=
  characters (units read text).2 (units read text).1

/-! ## All forms -/

/-- The characters of bytes. What is malformed is replaced. -/
def decode : Form → List UInt8 → List Char
  | utf8 => Utf8.decodeLossy
  | utf16be => decodePairs highFirst
  | utf16le => decodePairs lowFirst

/-- The form that a mark in front of bytes tells, and what stands behind the mark. -/
def marked? : List UInt8 → Option (Form × List UInt8)
  | 0xef :: 0xbb :: 0xbf :: rest => some (utf8, rest)
  | 0xfe :: 0xff :: rest => some (utf16be, rest)
  | 0xff :: 0xfe :: rest => some (utf16le, rest)
  | _ => none

end Form

/-- How the characters of a text stand in bytes: in a form of Unicode, or in an older way, of
which it is known what it makes of bytes. -/
inductive Charset where
  | unicode (form : Form)
  | legacy (decode : List UInt8 → List Char)

namespace Charset

/-- The characters of bytes. A mark in front of them tells more than what is said of them. -/
def decode (charset : Charset) (bytes : List UInt8) : List Char :=
  match Form.marked? bytes with
  | some (form, rest) => form.decode rest
  | none =>
      match charset with
      | .unicode form => form.decode bytes
      | .legacy decode => decode bytes

/-- What labels stand for. -/
abbrev Labels := (label : String) → Option Charset

/-- The labels of the forms of Unicode, in small letters. -/
def unicodeLabels : List (Form × List String) :=
  [(.utf8,
      ["utf-8", "utf8", "unicode-1-1-utf-8", "unicode11utf8", "unicode20utf8", "x-unicode20utf8"]),
    (.utf16be, ["utf-16be", "unicodefffe"]),
    (.utf16le,
      ["utf-16", "utf-16le", "csunicode", "iso-10646-ucs-2", "ucs-2", "unicode", "unicodefeff"])]

/-- The labels of the forms of Unicode, in letters of any size and with blanks around them. -/
def unicode? : Labels := fun label =>
  let plain := (String.ofList (trimmed label.toList)).toLower
  (unicodeLabels.find? (plain ∈ ·.2)).map (.unicode ·.1)

end Charset

end ContextStream.Text
