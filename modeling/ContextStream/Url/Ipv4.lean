import ContextStream.Text.Hex
import ContextStream.Text.Split
import ContextStream.Url.Error

/-!
# IPv4 addresses as hosts

A host whose last label is a number is an address. Its one to four numbers may be
decimal, octal with a leading zero, or hexadecimal; the last one fills the bytes
that are left.
-/

namespace ContextStream.Url.Ipv4

open ContextStream.Text

/-- The value of a text of digits in a base, if all are digits of it. -/
def numberIn (base : Nat) (text : List Char) : Option Nat :=
  text.foldlM
    (fun n c => (Hex.value? c).bind fun d => if d < base then some (base * n + d) else none) 0

/-- The value of one part of an address. -/
def number? (text : List Char) : Option Nat :=
  match text with
  | [] => none
  | '0' :: 'x' :: digits => numberIn 16 digits
  | '0' :: 'X' :: digits => numberIn 16 digits
  | ['0'] => some 0
  | '0' :: digits => numberIn 8 digits
  | digits => numberIn 10 digits

/-- The labels of a domain name, an empty last one dropped. -/
def labels (domain : List Char) : List (List Char) :=
  let all := splitBy (· == '.') domain
  if 2 ≤ all.length ∧ all.getLast? = some [] then all.dropLast else all

/-- Whether a domain name has to be read as an address. -/
def endsInNumber (domain : List Char) : Bool :=
  match (labels domain).getLast? with
  | some label => (!label.isEmpty && label.all (·.isDigit)) || (number? label).isSome
  | none => false

/-- The address of its numbers, the last one filling the bytes that are left. -/
def assemble (numbers : List Nat) : Option Nat :=
  match numbers.reverse with
  | [] => none
  | last :: firsts =>
      if 4 ≤ firsts.length then none
      else if Nat.pow 256 (4 - firsts.length) ≤ last then none
      else if firsts.any (255 < ·) then none
      else some (last + firsts.reverse.foldl (fun n part => 256 * n + part) 0
        * Nat.pow 256 (4 - firsts.length))

/-- Reads an address. -/
def parse (domain : List Char) : Except ParseError Nat :=
  match (labels domain).mapM number? with
  | none => .error .invalidIpv4
  | some numbers =>
      match assemble numbers with
      | none => .error .invalidIpv4
      | some address => .ok address

/-- The four bytes of an address in decimal. -/
def text (address : Nat) : String :=
  let byte (i : Nat) := toString (address / Nat.pow 256 i % 256)
  byte 3 ++ "." ++ byte 2 ++ "." ++ byte 1 ++ "." ++ byte 0

end ContextStream.Url.Ipv4
