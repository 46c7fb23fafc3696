/-!
# Characters in bytes

UTF-8, read unit by unit. A unit is either a character or a malformed stretch:
the longest prefix of a well-formed sequence that its successor breaks off, or a
single byte that starts none. Strict reading refuses malformed stretches; lenient
reading puts one replacement character in the place of each.
-/

namespace ContextStream.Text.Utf8

/-- Whether the byte continues a sequence. -/
def isContinuation (b : UInt8) : Bool :=
  0x80 ≤ b && b ≤ 0xbf

/-- The payload bits of a continuation byte. -/
def payload (b : UInt8) : Nat :=
  b.toNat % 64

/-- The bytes that may follow the first byte of a sequence of three or four:
they exclude overlong forms, surrogates and numbers beyond the last code point. -/
def secondFits (first second : UInt8) : Bool :=
  match first with
  | 0xe0 => 0xa0 ≤ second && second ≤ 0xbf
  | 0xed => 0x80 ≤ second && second ≤ 0x9f
  | 0xf0 => 0x90 ≤ second && second ≤ 0xbf
  | 0xf4 => 0x80 ≤ second && second ≤ 0x8f
  | _ => isContinuation second

/-- The first unit of a sequence of bytes, `none` when malformed, and what
follows it. -/
def unit (first : UInt8) (rest : List UInt8) : Option Char × List UInt8 :=
  if first < 0x80 then (some (Char.ofNat first.toNat), rest)
  else if 0xc2 ≤ first && first ≤ 0xdf then
    match rest with
    | second :: rest' =>
        if isContinuation second then
          (some (Char.ofNat (first.toNat % 32 * 64 + payload second)), rest')
        else (none, rest)
    | [] => (none, [])
  else if 0xe0 ≤ first && first ≤ 0xef then
    match rest with
    | second :: rest' =>
        if secondFits first second then
          match rest' with
          | third :: rest'' =>
              if isContinuation third then
                (some (Char.ofNat
                  ((first.toNat % 16 * 64 + payload second) * 64 + payload third)), rest'')
              else (none, rest')
          | [] => (none, [])
        else (none, rest)
    | [] => (none, [])
  else if 0xf0 ≤ first && first ≤ 0xf4 then
    match rest with
    | second :: rest' =>
        if secondFits first second then
          match rest' with
          | third :: rest'' =>
              if isContinuation third then
                match rest'' with
                | fourth :: rest''' =>
                    if isContinuation fourth then
                      (some (Char.ofNat
                        (((first.toNat % 8 * 64 + payload second) * 64 + payload third) * 64
                          + payload fourth)), rest''')
                    else (none, rest'')
                | [] => (none, [])
              else (none, rest')
          | [] => (none, [])
        else (none, rest)
    | [] => (none, [])
  else (none, rest)

/-- A unit takes at least its first byte. -/
theorem length_unit_le (first : UInt8) (rest : List UInt8) :
    (unit first rest).2.length ≤ rest.length := by
  unfold unit
  repeat' split
  all_goals simp_all <;> omega

/-- Collects the units of a sequence of bytes in front of those in `seen`, which
are in reverse order. -/
def unitsAfter (seen : List (Option Char)) : List UInt8 → List (Option Char)
  | [] => seen.reverse
  | first :: rest => unitsAfter ((unit first rest).1 :: seen) (unit first rest).2
termination_by bytes => bytes.length
decreasing_by
  have := length_unit_le first rest
  simp only [List.length_cons]
  omega

/-- The units of a sequence of bytes. -/
def units (bytes : List UInt8) : List (Option Char) :=
  unitsAfter [] bytes

/-- The character that stands for a malformed stretch. -/
def replacement : Char := '\uFFFD'

/-- Lenient reading. -/
def decodeLossy (bytes : List UInt8) : List Char :=
  (units bytes).map (·.getD replacement)

/-- Strict reading. -/
def decode? (bytes : List UInt8) : Option (List Char) :=
  let units := units bytes
  if units.all (·.isSome) then some (units.map (·.getD replacement)) else none

/-- The bytes of a text. -/
def encode (text : List Char) : List UInt8 :=
  text.flatMap String.utf8EncodeChar

/-- The number of bytes of a text. -/
def size (text : List Char) : Nat :=
  text.foldl (fun n c => n + c.utf8Size) 0

end ContextStream.Text.Utf8
