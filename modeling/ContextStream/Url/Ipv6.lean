import ContextStream.Text.Hex
import ContextStream.Text.Split
import ContextStream.Url.Error

/-!
# IPv6 addresses as hosts

Eight pieces of sixteen bits in hexadecimal with colons between them. One run of
zero pieces may be left out, and the last two pieces may be written as an IPv4
address. The printed form leaves out the first longest run of at least two zeros.
-/

namespace ContextStream.Url.Ipv6

open ContextStream.Text

/-! ## Reading -/

/-- The value of one to four hexadecimal digits. -/
def piece? (text : List Char) : Option Nat :=
  if text.isEmpty ∨ 4 < text.length then none
  else text.foldlM (fun n c => (Hex.value? c).map (16 * n + ·)) 0

/-- The value of a byte in decimal, without leading zeros. -/
def byte? (text : List Char) : Option Nat :=
  match text with
  | [] => none
  | '0' :: _ :: _ => none
  | digits =>
      if 3 < digits.length then none
      else
        match digits.foldlM
            (fun n c => if c.isDigit then some (10 * n + (c.toNat - 48)) else none) 0 with
        | some n => if n ≤ 255 then some n else none
        | none => none

/-- The two pieces of an IPv4 address in dotted form. -/
def dotted? (text : List Char) : Option (List Nat) :=
  match (splitBy (· == '.') text).mapM byte? with
  | some [a, b, c, d] => some [256 * a + b, 256 * c + d]
  | _ => none

/-- The pieces of a sequence of texts; only the last one may be in dotted form. -/
def pieces? : List (List Char) → Option (List Nat)
  | [] => some []
  | [last] => if last.contains '.' then dotted? last else (piece? last).map ([·])
  | text :: rest => (piece? text).bind fun piece => (pieces? rest).map (piece :: ·)

/-- The pieces that colons separate; no piece for an empty text. -/
def run? (text : List Char) : Option (List Nat) :=
  if text.isEmpty then some [] else pieces? (splitBy (· == ':') text)

/-- Splits at the first two colons in a row. -/
def splitDouble (before : List Char) : List Char → Option (List Char × List Char)
  | ':' :: ':' :: after => some (before.reverse, after)
  | c :: rest => splitDouble (c :: before) rest
  | [] => none

/-- Reads an address that stands between square brackets. -/
def parse (text : List Char) : Except ParseError (List Nat) :=
  let found :=
    match splitDouble [] text with
    | none => (run? text).bind fun pieces => if pieces.length = 8 then some pieces else none
    | some (front, back) =>
        if front.contains '.' then none
        else
          match run? front, run? back with
          | some first, some last =>
              if first.length + last.length ≤ 7 then
                some (first ++ List.replicate (8 - first.length - last.length) 0 ++ last)
              else none
          | _, _ => none
  match found with
  | some pieces => .ok pieces
  | none => .error .invalidIpv6

/-! ## Printing -/

/-- The first longest run of zeros: where it begins and how long it is. `start` is
where the run being read began, `best` the best one so far. -/
def longestZeros (position length : Nat) (best : Nat × Nat) : List Nat → Nat × Nat
  | [] => if best.2 < length then (position - length, length) else best
  | piece :: rest =>
      if piece = 0 then longestZeros (position + 1) (length + 1) best rest
      else
        longestZeros (position + 1) 0
          (if best.2 < length then (position - length, length) else best) rest

/-- Pieces in hexadecimal with colons between them. -/
def colons (pieces : List Nat) : List Char :=
  joinWith [':'] (pieces.map Hex.plain)

/-- The printed form of an address. -/
def text (pieces : List Nat) : List Char :=
  let (start, length) := longestZeros 0 0 (0, 0) pieces
  if length < 2 then colons pieces
  else colons (pieces.take start) ++ [':', ':'] ++ colons (pieces.drop (start + length))

end ContextStream.Url.Ipv6
