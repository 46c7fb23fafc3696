/-!
# How alike two texts are

Jaro's measure lies between 0 and 1. It counts the characters that two texts share at
about the same place, and how many of these stand in another order.
-/

namespace ContextStream.Text.Similarity

/-- How far apart two places may be that count as about the same. -/
def reach (a b : List Char) : Nat :=
  max a.length b.length / 2 - 1

/-- Marks the first character that equals `c`, is not marked yet, and stands at a place
that is not too far from the given one. -/
def mark (reach place : Nat) (c : Char) : Nat → List (Char × Bool) → Option (List (Char × Bool))
  | _, [] => none
  | position, (d, marked) :: rest =>
      if c = d ∧ !marked ∧ place ≤ position + reach ∧ position ≤ place + reach then
        some ((d, true) :: rest)
      else (mark reach place c (position + 1) rest).map ((d, marked) :: ·)

/-- The characters of the first text that are shared, and the second text with its
shared characters marked. -/
def share (reach : Nat) :
    Nat → List Char → List (Char × Bool) → List Char × List (Char × Bool)
  | _, [], marked => ([], marked)
  | place, c :: rest, marked =>
      match mark reach place c 0 marked with
      | some marked =>
          let (shared, marked) := share reach (place + 1) rest marked
          (c :: shared, marked)
      | none => share reach (place + 1) rest marked

/-- The shared characters, in the order of each of the texts. -/
def shared (a b : List Char) : List Char × List Char :=
  let (first, marked) := share (reach a b) 0 a (b.map ((·, false)))
  (first, (marked.filter (·.2)).map (·.1))

/-- How alike two texts are. -/
def jaro (a b : List Char) : Float :=
  if a.isEmpty ∧ b.isEmpty then 1
  else
    let (first, second) := shared a b
    let count := first.length
    if count = 0 then 0
    else
      let swaps := ((first.zip second).filter fun pair => pair.1 ≠ pair.2).length / 2
      let share := Float.ofNat count
      (share / Float.ofNat a.length + share / Float.ofNat b.length +
        Float.ofNat (count - swaps) / share) / 3

end ContextStream.Text.Similarity
