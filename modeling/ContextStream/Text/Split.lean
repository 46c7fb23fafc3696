/-!
# Taking texts apart

Small functions on lists of characters that cut a text at separators.
-/

namespace ContextStream.Text

/-- The pieces between the characters that `separates` holds of. -/
def splitBy (separates : Char → Bool) (text : List Char) : List (List Char) :=
  text.foldr
    (fun c pieces =>
      if separates c then [] :: pieces
      else
        match pieces with
        | piece :: others => (c :: piece) :: others
        | [] => [[c]])
    [[]]

/-- The pieces with one separator between each two of them. -/
def joinWith (separator : List Char) : List (List Char) → List Char
  | [] => []
  | piece :: others => piece ++ others.flatMap (separator ++ ·)

theorem splitBy_ne_nil (separates : Char → Bool) (text : List Char) :
    splitBy separates text ≠ [] := by
  cases text with
  | nil => nofun
  | cons c rest =>
      unfold splitBy
      rw [List.foldr_cons]
      split
      · nofun
      · split <;> nofun

/-- The pieces of a text, joined again, are the text. -/
theorem joinWith_splitBy (mark : Char) (text : List Char) :
    joinWith [mark] (splitBy (· == mark) text) = text := by
  induction text with
  | nil => rfl
  | cons c rest ih =>
      have step : splitBy (· == mark) (c :: rest) =
          if c == mark then [] :: splitBy (· == mark) rest
          else
            match splitBy (· == mark) rest with
            | piece :: others => (c :: piece) :: others
            | [] => [[c]] :=
        rfl
      rw [step]
      cases pieces : splitBy (· == mark) rest with
      | nil => exact absurd pieces (splitBy_ne_nil _ rest)
      | cons piece others =>
          rw [pieces] at ih
          by_cases same : c = mark
          · simp [same, joinWith, ← ih]
          · simp [same, joinWith, ← ih]

/-- What stands before the first character that `stops` holds of, and the rest
from there on. -/
def cutAt (stops : Char → Bool) (text : List Char) : List Char × List Char :=
  (text.takeWhile fun c => !stops c, text.dropWhile fun c => !stops c)

/-- A cut loses nothing. -/
theorem cutAt_append (stops : Char → Bool) (text : List Char) :
    (cutAt stops text).1 ++ (cutAt stops text).2 = text :=
  List.takeWhile_append_dropWhile

/-- Nothing stops in front of a cut. -/
theorem eq_false_of_mem_cutAt {stops : Char → Bool} {text : List Char} {c : Char}
    (member : c ∈ (cutAt stops text).1) : stops c = false := by
  have all := List.all_eq_true.mp (List.all_takeWhile (l := text) (p := fun c => !stops c)) c member
  simpa using all

/-- What follows a cut begins where something stops. -/
theorem eq_true_of_mem_head?_cutAt {stops : Char → Bool} {text : List Char} {c : Char}
    (begins : c ∈ (cutAt stops text).2.head?) : stops c = true := by
  have stop := List.head?_dropWhile_not (fun c => !stops c) text
  simp only [cutAt, Option.mem_def] at begins
  simpa [begins] using stop

/-- A text in which nothing stops is not cut. -/
theorem cutAt_all {stops : Char → Bool} {text : List Char}
    (none : ∀ c ∈ text, stops c = false) : cutAt stops text = (text, []) := by
  induction text with
  | nil => rfl
  | cons c rest ih =>
      have head := none c (by simp)
      have tail := ih fun d dMem => none d (by simp [dMem])
      simp_all [cutAt]

/-- A text is cut where its rest begins when nothing stops before that and the rest
begins with a stop. -/
theorem cutAt_append_of_head {stops : Char → Bool} {front rest : List Char}
    (none : ∀ c ∈ front, stops c = false) (stop : ∀ c ∈ rest.head?, stops c = true) :
    cutAt stops (front ++ rest) = (front, rest) := by
  induction front with
  | nil =>
      cases rest with
      | nil => rfl
      | cons c rest => simp [cutAt, stop c rfl]
  | cons c front ih =>
      have head := none c List.mem_cons_self
      have tail := ih fun d dMem => none d (List.mem_cons_of_mem c dMem)
      simp only [cutAt, Prod.mk.injEq] at tail
      simp [cutAt, head, tail]

theorem cutAt_congr {stops others : Char → Bool} {text : List Char}
    (same : ∀ c ∈ text, stops c = others c) : cutAt stops text = cutAt others text := by
  induction text with
  | nil => rfl
  | cons c rest ih =>
      have head := same c List.mem_cons_self
      have tail := ih fun d member => same d (List.mem_cons_of_mem c member)
      simp only [cutAt, Prod.mk.injEq] at tail
      simp [cutAt, List.takeWhile_cons, List.dropWhile_cons, head, tail]

/-- A text without blanks around it. -/
def trimmed (text : List Char) : List Char :=
  ((text.dropWhile (·.isWhitespace)).reverse.dropWhile (·.isWhitespace)).reverse

/-- Splits at the last occurrence of a character, if there is one. -/
def splitLast? (mark : Char) (text : List Char) : Option (List Char × List Char) :=
  match cutAt (· == mark) text.reverse with
  | (_, []) => none
  | (after, _ :: before) => some (before.reverse, after.reverse)

end ContextStream.Text
