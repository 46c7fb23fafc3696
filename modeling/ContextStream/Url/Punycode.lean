/-!
# Punycode

A label with characters beyond ASCII is written with letters, digits and hyphens
alone: first its ASCII characters and a hyphen, then one number for each other
character, in the order of code points, that tells where it goes. A number is
written in base thirty-six with digits whose thresholds adapt to the numbers
before it.
-/

namespace ContextStream.Url.Punycode

/-- The digit of a number below thirty-six. -/
def digit (n : Nat) : Char :=
  if n < 26 then Char.ofNat (97 + n) else Char.ofNat (22 + n)

/-- The value of a digit. -/
def value? (c : Char) : Option Nat :=
  if 'a' ≤ c ∧ c ≤ 'z' then some (c.toNat - 97)
  else if 'A' ≤ c ∧ c ≤ 'Z' then some (c.toNat - 65)
  else if '0' ≤ c ∧ c ≤ '9' then some (c.toNat - 22)
  else none

/-- Divides by thirty-five until the number fits, and counts the steps in bias. -/
def reduce (delta steps : Nat) : Nat × Nat :=
  if 455 < delta then reduce (delta / 35) (steps + 36) else (delta, steps)
termination_by delta

/-- The bias after a number `delta` that placed a character among `points`. -/
def adapt (delta points : Nat) (first : Bool) : Nat :=
  let damped := if first then delta / 700 else delta / 2
  let (small, steps) := reduce (damped + damped / points) 0
  steps + 36 * small / (small + 38)

/-- The threshold at position `k` under a bias. -/
def threshold (k bias : Nat) : Nat :=
  min 26 (max 1 (k - bias))

theorem one_le_threshold (k bias : Nat) : 1 ≤ threshold k bias := by
  unfold threshold
  omega

/-! ## Writing -/

/-- The digits of a number, least significant first. -/
def digits (number k bias : Nat) : List Char :=
  if threshold k bias ≤ number then
    digit (threshold k bias + (number - threshold k bias) % (36 - threshold k bias)) ::
      digits ((number - threshold k bias) / (36 - threshold k bias)) (k + 36) bias
  else [digit number]
termination_by number
decreasing_by
  have positive := one_le_threshold k bias
  have := Nat.div_le_self (number - threshold k bias) (36 - threshold k bias)
  omega

/-- How far writing has come: the distance since the last character, the bias,
and how many characters are placed. -/
structure Writer where
  delta : Nat
  bias : Nat
  placed : Nat
  written : List Char

/-- Passes one character of the label while those with code point `code` are
being placed. -/
def Writer.pass (basic code : Nat) (w : Writer) (c : Char) : Writer :=
  if c.toNat < code then { w with delta := w.delta + 1 }
  else if c.toNat = code then
    { delta := 0
      bias := adapt w.delta (w.placed + 1) (w.placed = basic)
      placed := w.placed + 1
      written := w.written ++ digits w.delta 36 w.bias }
  else w

/-- Places the characters of each code point in turn. -/
def writeCodes (label : List Char) (basic previous : Nat) (w : Writer) : List Nat → List Char
  | [] => w.written
  | code :: rest =>
      let started := { w with delta := w.delta + (code - previous) * (w.placed + 1) }
      let passed := label.foldl (Writer.pass basic code) started
      writeCodes label basic (code + 1) { passed with delta := passed.delta + 1 } rest

/-- The label in Punycode, without the mark that announces it. -/
def encode (label : List Char) : List Char :=
  let basic := label.filter (·.toNat < 128)
  let others := (label.filter (128 ≤ ·.toNat)).map Char.toNat
  let codes := (others.mergeSort).eraseDups
  let start : Writer := ⟨0, 72, basic.length, if basic.isEmpty then [] else basic ++ ['-']⟩
  writeCodes label basic.length 128 start codes

/-! ## Reading -/

/-- Reads one number: its value added to `index`, and what follows it. -/
def number (bias : Nat) (index weight k : Nat) : List Char → Option (Nat × List Char)
  | [] => none
  | c :: rest =>
      match value? c with
      | none => none
      | some d =>
          let index' := index + d * weight
          let t := threshold k bias
          if 0xffffffff < index' then none
          else if d < t then some (index', rest)
          else if 0xffffffff < weight * (36 - t) then none
          else number bias index' (weight * (36 - t)) (k + 36) rest

/-- Places the characters that `fuel` numbers describe into `label`. -/
def place (fuel : Nat) (code index bias : Nat) (label : List Char) (text : List Char) :
    Option (List Char) :=
  match fuel, text with
  | _, [] => some label
  | 0, _ => none
  | fuel + 1, text =>
      match number bias index 1 36 text with
      | none => none
      | some (reached, rest) =>
          let points := label.length + 1
          let bias' := adapt (reached - index) points (index = 0)
          let code' := code + reached / points
          let position := reached % points
          if Nat.isValidChar code' then
            place fuel code' (position + 1) bias' (label.insertIdx position (Char.ofNat code')) rest
          else none

/-- Splits at the last hyphen: what stands before it and after it. A hyphen in
front of everything separates nothing. -/
def splitLastHyphen (text : List Char) : List Char × List Char :=
  let tail := (text.reverse.takeWhile (· ≠ '-')).reverse
  if text.length ≤ tail.length + 1 then ([], text)
  else (text.take (text.length - tail.length - 1), tail)

/-- The label that a text in Punycode stands for. -/
def decode? (text : List Char) : Option (List Char) :=
  let (basic, numbers) := splitLastHyphen text
  if text.all (·.toNat < 128) then place numbers.length 128 0 72 basic numbers else none

end ContextStream.Url.Punycode
