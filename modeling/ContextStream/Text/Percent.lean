import ContextStream.Text.Hex
import ContextStream.Text.Utf8

/-!
# Percent encoding

A byte that may not stand in some part of a URL is written as a percent sign and
two hexadecimal digits. Each part has its own set of characters to encode;
characters beyond ASCII are always encoded.
-/

namespace ContextStream.Text.Percent

/-- A byte as a percent sign and two digits. -/
def escape (b : UInt8) : List Char :=
  ['%', Hex.upperDigit (b.toNat / 16), Hex.upperDigit (b.toNat % 16)]

/-- Encodes the characters that `reserved` holds of, byte by byte. -/
def encode (reserved : Char → Bool) (text : List Char) : List Char :=
  text.flatMap fun c =>
    if reserved c then (String.utf8EncodeChar c).flatMap escape else [c]

/-- A text without reserved characters is its own encoding. -/
theorem encode_eq_self {reserved : Char → Bool} {text : List Char}
    (free : ∀ c ∈ text, reserved c = false) : encode reserved text = text := by
  induction text with
  | nil => rfl
  | cons c text ih =>
      have behind := ih fun d dMem => free d (List.mem_cons_of_mem c dMem)
      rw [encode] at behind
      simp [encode, free c List.mem_cons_self, behind]

/-- Reads the escapes of a text after the bytes in `seen`, which are in reverse
order. A percent sign without two digits stands for itself. -/
def decodeAfter (seen : List UInt8) : List Char → List UInt8
  | [] => seen.reverse
  | c :: rest =>
      if c = '%' then
        match rest with
        | high :: low :: rest' =>
            match Hex.value? high, Hex.value? low with
            | some h, some l => decodeAfter (UInt8.ofNat (16 * h + l) :: seen) rest'
            | _, _ => decodeAfter (37 :: seen) (high :: low :: rest')
        | [last] => decodeAfter (37 :: seen) [last]
        | [] => decodeAfter (37 :: seen) []
      else decodeAfter ((String.utf8EncodeChar c).reverse ++ seen) rest

/-- The bytes that a text with escapes stands for. -/
def decode (text : List Char) : List UInt8 :=
  decodeAfter [] text

/-! ## The sets of the parts of a URL -/

/-- Control characters and all that is not ASCII. -/
def inControls (c : Char) : Bool :=
  c.toNat < 0x20 || 0x7e < c.toNat

/-- The set of fragments. -/
def inFragment (c : Char) : Bool :=
  inControls c || c == ' ' || c == '"' || c == '<' || c == '>' || c == '`'

/-- The set of queries. -/
def inQuery (c : Char) : Bool :=
  inControls c || c == ' ' || c == '"' || c == '#' || c == '<' || c == '>'

/-- The set of queries in URLs of a special scheme. -/
def inSpecialQuery (c : Char) : Bool :=
  inQuery c || c == '\''

/-- The set of path segments. -/
def inPath (c : Char) : Bool :=
  inFragment c || c == '#' || c == '?' || c == '\x7b' || c == '\x7d' || c == '^'

/-- The set of user names and passwords. -/
def inUserinfo (c : Char) : Bool :=
  inPath c || c == '/' || c == ':' || c == ';' || c == '=' || c == '@' || c == '[' ||
    c == '\\' || c == ']' || c == '|'

end ContextStream.Text.Percent
