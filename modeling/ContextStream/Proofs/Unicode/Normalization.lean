import ContextStream.Unicode.Normalization

/-!
# What normalization keeps

Most of ASCII passes through normalization untouched: its code points are not taken
apart, mark nothing, and are not composed with what follows them. The exceptions are
letters and the signs of comparison.
-/

namespace ContextStream.Unicode.Normalization

/-- Code points that normalization keeps wherever they stand. -/
structure Steady (code : Nat) : Prop where
  ascii : code < 128
  alone : opensPair code = false

namespace Steady

variable {code : Nat}

theorem parts (steady : Steady code) : parts code = [code] := by
  have small := steady.ascii
  unfold Normalization.parts
  rw [if_pos (by omega)]

theorem combiningClass (steady : Steady code) : combiningClass code = 0 := by
  have small := steady.ascii
  unfold Unicode.combiningClass
  rw [if_pos (by omega)]

/-- It is not composed with what follows it. -/
theorem composite_left (steady : Steady code) (second : Nat) : composite code second = none := by
  have small := steady.ascii
  unfold composite
  rw [if_neg (by omega), if_neg (by omega), if_pos (by simp [steady.alone])]

/-- It is not composed with what stands before it. -/
theorem composite_right (steady : Steady code) (first : Nat) : composite first code = none := by
  have small := steady.ascii
  unfold composite
  rw [if_neg (by omega), if_neg (by omega), if_pos (by simp; omega)]

end Steady

/-! ## Order -/

theorem mem_sortMarks {code : Nat} {marks : List Nat} : code ∈ sortMarks marks ↔ code ∈ marks := by
  simp [sortMarks]

/-- Ordering marks loses nothing. -/
theorem mem_orderAfter {code : Nat} {codes marks : List Nat}
    (member : code ∈ marks ∨ code ∈ codes) : code ∈ orderAfter marks codes := by
  induction codes generalizing marks with
  | nil => exact mem_sortMarks.mpr (member.resolve_right nofun)
  | cons next codes ih =>
      rw [orderAfter]
      rw [List.mem_cons] at member
      split
      · rw [List.mem_append, List.mem_cons, mem_sortMarks]
        rcases member with inMarks | same | behind
        · exact Or.inl inMarks
        · exact Or.inr (Or.inl same)
        · exact Or.inr (Or.inr (ih (Or.inr behind)))
      · apply ih
        rw [List.mem_cons, or_assoc, or_left_comm]
        exact member

/-! ## Composition -/

variable {code next : Nat} {progress : Progress}

theorem mem_flush : code ∈ progress.flush ↔
    code ∈ progress.marks ∨ progress.starter = some code ∨ code ∈ progress.finished := by
  simp [Progress.flush]

/-- Composition takes no steady code point back. -/
theorem Steady.mem_flush_take (steady : Steady code) (member : code ∈ progress.flush) :
    code ∈ (progress.take next).flush := by
  unfold Progress.take
  dsimp only
  split
  · next whole joined =>
      rw [mem_flush] at member ⊢
      rcases member with inMarks | isStarter | finished
      · exact Or.inl inMarks
      · rw [isStarter] at joined
        split at joined
        · cases joined
        · rw [Option.bind_some, steady.composite_left] at joined
          cases joined
      · exact Or.inr (Or.inr finished)
  · split
    · exact mem_flush.mpr (Or.inr (Or.inr member))
    · rw [mem_flush] at member ⊢
      exact member.imp_left (List.mem_cons_of_mem next)

/-- A steady code point that is taken is kept. -/
theorem Steady.mem_flush_take_self (steady : Steady code) (progress : Progress) :
    code ∈ (progress.take code).flush := by
  have none : (if progress.blocked code then none
      else progress.starter.bind (composite · code)) = none := by
    split
    · rfl
    · cases progress.starter with
      | none => rfl
      | some starter => exact steady.composite_right starter
  unfold Progress.take
  rw [none]
  dsimp only
  rw [if_pos steady.combiningClass]
  exact mem_flush.mpr (Or.inr (Or.inl rfl))

theorem Steady.mem_flush_foldl (steady : Steady code) {codes : List Nat}
    (member : code ∈ progress.flush ∨ code ∈ codes) :
    code ∈ (codes.foldl Progress.take progress).flush := by
  induction codes generalizing progress with
  | nil => exact member.resolve_right nofun
  | cons first codes ih =>
      rw [List.foldl_cons]
      apply ih
      rcases member with before | inCodes
      · exact Or.inl (steady.mem_flush_take before)
      · rcases List.mem_cons.mp inCodes with rfl | behind
        · exact Or.inl (steady.mem_flush_take_self progress)
        · exact Or.inr behind

/-- Normalization keeps steady code points. -/
theorem Steady.mem_composed (steady : Steady code) {codes : List Nat} (member : code ∈ codes) :
    code ∈ composed codes := by
  unfold composed
  dsimp only
  rw [List.mem_reverse]
  refine steady.mem_flush_foldl (Or.inr (mem_orderAfter (Or.inr ?_)))
  refine List.mem_flatMap.mpr ⟨code, member, ?_⟩
  rw [steady.parts]
  exact List.mem_singleton_self code

/-- Normalization keeps steady characters. -/
theorem mem_nfc {c : Char} (steady : Steady c.toNat) {text : List Char} (member : c ∈ text) :
    c ∈ nfc text := by
  refine List.mem_map.mpr ⟨c.toNat, ?_, Char.ofNat_toNat c⟩
  exact steady.mem_composed (List.mem_map_of_mem member)

end ContextStream.Unicode.Normalization
