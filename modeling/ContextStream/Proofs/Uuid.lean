import ContextStream.Iri.Urn
import ContextStream.Proofs.Text.Digits

/-!
# Identifiers and their names

The written form of an identifier tells all its bits, and so does the name of the node
that it stands for.
-/

namespace ContextStream

open ContextStream.Text

namespace Uuid

/-- The identifier that a written form tells, whose digits stand between hyphens. -/
def read? (text : List Char) : Option Uuid :=
  (Hex.number? (text.splitOn '-').flatten).map fun n => ⟨BitVec.ofNat 128 n⟩

/-- Digits are cut into groups of the wanted lengths, and nothing is lost. -/
theorem exists_groups {lengths : List Nat} {digits : List Char}
    (length : digits.length = lengths.sum) (nonempty : lengths ≠ []) :
    ∃ pieces, pieces.map List.length = lengths ∧ pieces.flatten = digits ∧
      hyphenated digits lengths = ['-'].intercalate pieces := by
  induction lengths generalizing digits with
  | nil => exact absurd rfl nonempty
  | cons first lengths ih =>
      cases lengths with
      | nil =>
          have all : digits.length = first := by simpa using length
          refine ⟨[digits], by simp [all], by simp, ?_⟩
          rw [hyphenated, List.take_of_length_le (Nat.le_of_eq all), List.intercalate_singleton]
      | cons next others =>
          rw [List.sum_cons] at length
          have behind : (digits.drop first).length = (next :: others).sum := by simp [length]
          obtain ⟨pieces, lengths, whole, joined⟩ := ih behind (by simp)
          have more : pieces ≠ [] := by
            rintro rfl
            cases lengths
          have fits : (digits.take first).length = first := by simp [length]
          refine ⟨digits.take first :: pieces, by simp [fits, lengths], ?_, ?_⟩
          · rw [List.flatten_cons, whole, List.take_append_drop]
          · change digits.take first ++ '-' :: hyphenated (digits.drop first) (next :: others) = _
            rw [joined, List.intercalate_cons_of_ne_nil more, List.append_assoc]
            rfl

/-- The groups of a written form. -/
theorem splitOn_text (id : Uuid) :
    (id.text.splitOn '-').map List.length = groups ∧ (id.text.splitOn '-').flatten = id.digits := by
  have length : id.digits.length = groups.sum := Hex.length_fixed 32 _
  obtain ⟨pieces, lengths, whole, joined⟩ := exists_groups length (by decide)
  have unhyphened : ∀ piece ∈ pieces, '-' ∉ piece := by
    intro piece pieceMem hyphen
    have inDigits : '-' ∈ id.digits := whole ▸ List.mem_flatten_of_mem pieceMem hyphen
    have digit := Hex.mem_lowerDigits_of_mem_fixed inDigits
    revert digit
    decide
  have more : pieces ≠ [] := by
    rintro rfl
    cases lengths
  rw [text, joined, List.splitOn_intercalate '-' unhyphened more]
  exact ⟨lengths, whole⟩

theorem length_text (id : Uuid) : id.text.length = 36 := by
  have length : id.digits.length = 32 := Hex.length_fixed 32 _
  simp [text, groups, hyphenated, length]

/-- The bits are read back from the written form. -/
theorem read?_text (id : Uuid) : read? id.text = some id := by
  rw [read?, (splitOn_text id).2, digits, Hex.number?_fixed id.bits.isLt]
  simp

/-- The written form tells the identifier. -/
theorem text_inj {id id' : Uuid} (same : id.text = id'.text) : id = id' := by
  have read := congrArg read? same
  rwa [read?_text, read?_text, Option.some_inj] at read

end Uuid

namespace Iri

/-- Different identifiers name different nodes. -/
theorem ofUuid_inj {id id' : Uuid} (same : ofUuid id = ofUuid id') : id = id' := by
  have texts := String.ofList_injective (congrArg Iri.text same)
  exact Uuid.text_inj (List.append_cancel_left texts)

end Iri

end ContextStream
