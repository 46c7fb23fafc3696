import ContextStream.Proofs.Text.Digits
import ContextStream.Text.Quoted
import Mathlib.Tactic.Common

/-!
# Clean texts

A text is clean if it has no control character: it stays on one line, and nothing in it is taken
for a command of a terminal. Quotation makes every text clean, and digits are clean.
-/

namespace ContextStream.Text

open Unicode

/-- A text has no control character. -/
def IsClean (text : List Char) : Prop :=
  ∀ c ∈ text, isControl c = false

instance (text : List Char) : Decidable (IsClean text) :=
  List.decidableBAll (isControl · = false) text

theorem isClean_append_iff {front back : List Char} :
    IsClean (front ++ back) ↔ IsClean front ∧ IsClean back :=
  List.forall_mem_append

theorem IsClean.append {front back : List Char} (clean : IsClean front) (clean' : IsClean back) :
    IsClean (front ++ back) :=
  isClean_append_iff.mpr ⟨clean, clean'⟩

theorem IsClean.cons {c : Char} {text : List Char} (visible : isControl c = false)
    (clean : IsClean text) : IsClean (c :: text) :=
  List.forall_mem_cons.mpr ⟨visible, clean⟩

theorem IsClean.toList_append {s t : String} (clean : IsClean s.toList)
    (clean' : IsClean t.toList) : IsClean (s ++ t).toList := by
  rw [String.toList_append]
  exact clean.append clean'

theorem isClean_replicate {c : Char} (visible : isControl c = false) (n : Nat) :
    IsClean (List.replicate n c) := by
  intro d dMem
  rwa [List.eq_of_mem_replicate dMem]

/-- A part of a clean text is clean. -/
theorem IsClean.of_subset {part text : List Char} (clean : IsClean text) (within : part ⊆ text) :
    IsClean part :=
  fun c cMem => clean c (within cMem)

/-- Pieces of clean text with clean text between them are clean. -/
theorem isClean_intercalate {separator : List Char} {pieces : List (List Char)}
    (between : IsClean separator) (clean : ∀ piece ∈ pieces, IsClean piece) :
    IsClean (separator.intercalate pieces) := by
  induction pieces with
  | nil => nofun
  | cons piece others ih =>
      have first : IsClean piece := clean piece List.mem_cons_self
      cases others with
      | nil => simpa [List.intercalate] using first
      | cons next others =>
          rw [List.intercalate_cons_cons]
          exact (first.append between).append
            (ih fun other otherMem => clean other (List.mem_cons_of_mem piece otherMem))

/-- A text is clean if its characters are. -/
theorem isClean_flatMap {text : List Char} {write : Char → List Char}
    (clean : ∀ c, IsClean (write c)) : IsClean (text.flatMap write) := by
  intro c cMem
  obtain ⟨d, -, written⟩ := List.mem_flatMap.mp cMem
  exact clean d c written

/-! ## Digits -/

theorem isControl_digitChar {n : Nat} (small : n < 16) : isControl n.digitChar = false := by
  revert n
  decide

theorem isClean_toDigits {base : Nat} (proper : 1 < base) (small : base ≤ 16) (n : Nat) :
    IsClean (Nat.toDigits base n) := by
  induction n using Nat.strongRecOn with
  | ind n ih =>
      by_cases last : n < base
      · rw [Nat.toDigits_of_lt_base last]
        exact .cons (isControl_digitChar (Nat.lt_of_lt_of_le last small)) nofun
      · have less : n / base < n := Nat.div_lt_self (by omega) proper
        have digit : n % base < base := Nat.mod_lt n (by omega)
        rw [Nat.toDigits_of_base_le proper (Nat.le_of_not_lt last)]
        exact (ih _ less).append
          (.cons (isControl_digitChar (Nat.lt_of_lt_of_le digit small)) nofun)

theorem isClean_toString_nat (n : Nat) : IsClean (toString n).toList := by
  rw [Nat.toString_eq_repr, Nat.toList_repr]
  exact isClean_toDigits (by decide) (by decide) n

theorem isClean_toString_int (n : Int) : IsClean (toString n).toList := by
  cases n with
  | ofNat n =>
      rw [toList_toString_ofNat]
      exact isClean_toDigits (by decide) (by decide) n
  | negSucc n =>
      rw [toList_toString_negSucc]
      exact .cons rfl (isClean_toDigits (by decide) (by decide) _)

/-! ## Quotations -/

namespace Quoted

theorem isClean_codePoint (c : Char) : IsClean (codePoint c) :=
  have digits : IsClean (Hex.plain c.toNat) := isClean_toDigits (by decide) (by decide) c.toNat
  ((by decide : IsClean ['\\', 'u', '\x7b']).append digits).append (by decide)

/-- A control character is quoted by an escape. -/
theorem isClean_escape {mark : Char} (visible : isControl mark = false) (c : Char) :
    IsClean (escape mark c) := by
  unfold escape
  split_ifs with null tab carriage line backslash isMark joins shown
  · decide
  · decide
  · decide
  · decide
  · decide
  · exact .cons rfl (.cons visible nofun)
  · exact isClean_codePoint c
  · refine .cons ?_ nofun
    by_contra control
    rw [isPrintable_eq_false_of_isControl (by simpa using control)] at shown
    cases shown
  · exact isClean_codePoint c

theorem isClean_text (s : String) : IsClean (text s).toList := by
  rw [text, String.toList_ofList]
  exact (IsClean.cons rfl (isClean_flatMap (isClean_escape rfl))).append (by decide)

theorem isClean_char (c : Char) : IsClean (char c).toList := by
  rw [char, String.toList_ofList]
  exact (IsClean.cons rfl (isClean_escape rfl c)).append (by decide)

end Quoted

end ContextStream.Text
