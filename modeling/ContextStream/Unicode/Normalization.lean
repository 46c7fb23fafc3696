import ContextStream.Unicode.Canonical
import ContextStream.Unicode.CombiningClass

/-!
# Canonical composition

Normalization form C over code points: decompose, order the marks behind each
starter by their combining class, compose again. Hangul syllables are taken
apart and put together by arithmetic.
-/

namespace ContextStream.Unicode.Normalization

/-! ## Decomposition -/

/-- The jamo of a Hangul syllable. -/
def hangulParts (code : Nat) : List Nat :=
  let index := code - 0xac00
  let lead := 0x1100 + index / 588
  let vowel := 0x1161 + index % 588 / 28
  if index % 28 = 0 then [lead, vowel] else [lead, vowel, 0x11a7 + index % 28]

/-- The full canonical decomposition of a code point. -/
def parts (code : Nat) : List Nat :=
  if code < 0xc0 then [code]
  else if 0xac00 ≤ code ∧ code < 0xd7a4 then hangulParts code
  else
    match decompositionTable.find? code with
    | some row => row.values
    | none => [code]

/-! ## Order -/

/-- Puts `marks`, collected in reverse, into canonical order; equal classes keep
their order. -/
def sortMarks (marks : List Nat) : List Nat :=
  marks.reverse.mergeSort fun a b => combiningClass a ≤ combiningClass b

/-- Orders every run of marks; `marks` is the run being collected. -/
def orderAfter (marks : List Nat) : List Nat → List Nat
  | [] => sortMarks marks
  | code :: rest =>
      if combiningClass code = 0 then sortMarks marks ++ code :: orderAfter [] rest
      else orderAfter (code :: marks) rest

/-! ## Composition -/

/-- Looks up a second code point in the pairs of a row. -/
def pairOf (second : Nat) : List Nat → Option Nat
  | code :: composite :: rest => if code = second then some composite else pairOf second rest
  | _ => none

/-- Whether a code point may be composed with the one behind it. Of ASCII only letters
and the signs of comparison are. -/
def opensPair (code : Nat) : Bool :=
  0x80 ≤ code || (0x3c ≤ code && code ≤ 0x3e) || (Char.ofNat code).isAlpha

/-- The primary composite of two code points. The second one of a pair is never in front
of the combining diacritical marks. -/
def composite (first second : Nat) : Option Nat :=
  if 0x1100 ≤ first ∧ first < 0x1113 ∧ 0x1161 ≤ second ∧ second < 0x1176 then
    some (0xac00 + ((first - 0x1100) * 21 + (second - 0x1161)) * 28)
  else if 0xac00 ≤ first ∧ first < 0xd7a4 ∧ (first - 0xac00) % 28 = 0 ∧
      0x11a7 < second ∧ second < 0x11c3 then
    some (first + (second - 0x11a7))
  else if second < 0x300 || !opensPair first then none
  else (compositionTable.find? first).bind fun row => pairOf second row.values

/-- What composition has read so far: finished code points in reverse, the last
starter, and the marks behind it in reverse. -/
structure Progress where
  finished : List Nat
  starter : Option Nat
  marks : List Nat

namespace Progress

/-- Everything read so far, in reverse. -/
def flush (p : Progress) : List Nat :=
  p.marks ++ p.starter.toList ++ p.finished

/-- A mark is blocked by a mark before it whose class is not smaller. -/
def blocked (p : Progress) (code : Nat) : Bool :=
  match p.marks with
  | [] => false
  | mark :: _ => combiningClass code ≤ combiningClass mark

/-- Takes one more code point. -/
def take (p : Progress) (code : Nat) : Progress :=
  let joined := if p.blocked code then none else p.starter.bind (composite · code)
  match joined with
  | some whole => { p with starter := some whole }
  | none =>
      if combiningClass code = 0 then { finished := p.flush, starter := some code, marks := [] }
      else { p with marks := code :: p.marks }

end Progress

/-- Normalization form C of a sequence of code points. -/
def composed (codes : List Nat) : List Nat :=
  let ordered := orderAfter [] (codes.flatMap parts)
  (ordered.foldl Progress.take ⟨[], none, []⟩).flush.reverse

/-- Normalization form C of a text. -/
def nfc (text : List Char) : List Char :=
  (composed (text.map Char.toNat)).map Char.ofNat

end ContextStream.Unicode.Normalization
