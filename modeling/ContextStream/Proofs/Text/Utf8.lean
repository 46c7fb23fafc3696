import ContextStream.Text.Utf8

/-!
# Bytes of a text are read back

The bytes of each character are one unit, whatever follows them, so that strict reading
gives back every text that was written.
-/

namespace ContextStream.Text.Utf8

/-! ## Bytes as numbers -/

theorem isContinuation_iff {b : UInt8} :
    isContinuation b = true ↔ 128 ≤ b.toNat ∧ b.toNat ≤ 191 := by
  simp [isContinuation, UInt8.le_iff_toNat_le]

theorem secondFits_iff {first second : UInt8} :
    secondFits first second = true ↔ isContinuation second = true ∧
      (first.toNat = 224 → 160 ≤ second.toNat) ∧ (first.toNat = 237 → second.toNat ≤ 159) ∧
      (first.toNat = 240 → 144 ≤ second.toNat) ∧ (first.toNat = 244 → second.toNat ≤ 143) := by
  have number (b : UInt8) (n : Nat) (small : n < 256) : b.toNat = n ↔ b = UInt8.ofNat n := by
    have same : (UInt8.ofNat n).toNat = n := UInt8.toNat_ofNat_of_lt small
    rw [← UInt8.toNat_inj, same]
  simp only [number first _ (by decide : 224 < 256), number first _ (by decide : 237 < 256),
    number first _ (by decide : 240 < 256), number first _ (by decide : 244 < 256)]
  unfold secondFits
  split <;> simp_all [isContinuation, UInt8.le_iff_toNat_le] <;> omega

/-! ## Units of each length -/

variable {first second third fourth : UInt8} {high mid low last : Nat} (rest : List UInt8)

theorem unit_of_one (isFirst : first.toNat < 128) :
    unit first rest = (some (Char.ofNat first.toNat), rest) := by
  have one : first < 0x80 := UInt8.lt_iff_toNat_lt.mpr isFirst
  simp [unit, one]

theorem unit_of_two (isFirst : first.toNat = 192 + high) (isSecond : second.toNat = 128 + low)
    (highFits : 2 ≤ high ∧ high < 32) (lowFits : low < 64) :
    unit first (second :: rest) = (some (Char.ofNat (high * 64 + low)), rest) := by
  have notOne : ¬first < 0x80 := by simp [UInt8.lt_iff_toNat_lt]; omega
  have two : 0xc2 ≤ first ∧ first ≤ 0xdf := by simp [UInt8.le_iff_toNat_le]; omega
  have continues : isContinuation second = true := isContinuation_iff.mpr (by omega)
  have value : first.toNat % 32 * 64 + payload second = high * 64 + low := by
    simp only [payload]; omega
  simp [unit, notOne, two, continues, value]

theorem unit_of_three (isFirst : first.toNat = 224 + high) (isSecond : second.toNat = 128 + mid)
    (isThird : third.toNat = 128 + low) (highFits : high < 16) (midFits : mid < 64)
    (lowFits : low < 64) (long : high = 0 → 32 ≤ mid) (noSurrogate : high = 13 → mid < 32) :
    unit first (second :: third :: rest) =
      (some (Char.ofNat ((high * 64 + mid) * 64 + low)), rest) := by
  have notOne : ¬first < 0x80 := by simp [UInt8.lt_iff_toNat_lt]; omega
  have notTwo : ¬first ≤ 0xdf := by simp [UInt8.le_iff_toNat_le]; omega
  have three : 0xe0 ≤ first ∧ first ≤ 0xef := by simp [UInt8.le_iff_toNat_le]; omega
  have fits : secondFits first second = true :=
    secondFits_iff.mpr ⟨isContinuation_iff.mpr (by omega), by omega⟩
  have continues : isContinuation third = true := isContinuation_iff.mpr (by omega)
  have value : (first.toNat % 16 * 64 + payload second) * 64 + payload third =
      (high * 64 + mid) * 64 + low := by
    simp only [payload]; omega
  simp [unit, notOne, notTwo, three, fits, continues, value]

theorem unit_of_four (isFirst : first.toNat = 240 + high) (isSecond : second.toNat = 128 + mid)
    (isThird : third.toNat = 128 + low) (isFourth : fourth.toNat = 128 + last)
    (highFits : high < 5) (midFits : mid < 64) (lowFits : low < 64) (lastFits : last < 64)
    (long : high = 0 → 16 ≤ mid) (code : high = 4 → mid < 16) :
    unit first (second :: third :: fourth :: rest) =
      (some (Char.ofNat (((high * 64 + mid) * 64 + low) * 64 + last)), rest) := by
  have notOne : ¬first < 0x80 := by simp [UInt8.lt_iff_toNat_lt]; omega
  have notTwo : ¬first ≤ 0xdf := by simp [UInt8.le_iff_toNat_le]; omega
  have notThree : ¬first ≤ 0xef := by simp [UInt8.le_iff_toNat_le]; omega
  have four : 0xf0 ≤ first ∧ first ≤ 0xf4 := by simp [UInt8.le_iff_toNat_le]; omega
  have fits : secondFits first second = true :=
    secondFits_iff.mpr ⟨isContinuation_iff.mpr (by omega), by omega⟩
  have continues : isContinuation third = true := isContinuation_iff.mpr (by omega)
  have ends : isContinuation fourth = true := isContinuation_iff.mpr (by omega)
  have value :
      ((first.toNat % 8 * 64 + payload second) * 64 + payload third) * 64 + payload fourth =
        ((high * 64 + mid) * 64 + low) * 64 + last := by
    simp only [payload]; omega
  simp [unit, notOne, notTwo, notThree, four, fits, continues, ends, value]

/-! ## Texts -/

/-- The bytes of a character are one unit. -/
theorem exists_unit_utf8EncodeChar (c : Char) :
    ∃ first more, String.utf8EncodeChar c = first :: more ∧
      unit first (more ++ rest) = (some c, rest) := by
  have valid := c.valid
  simp only [UInt32.isValidChar, Nat.isValidChar] at valid
  have back := Char.ofNat_toNat c
  simp only [Char.toNat] at back
  have byte (n : Nat) (small : n < 256) : (UInt8.ofNat n).toNat = n :=
    UInt8.toNat_ofNat_of_lt small
  unfold String.utf8EncodeChar
  dsimp only
  -- Only the number of the character matters from here on.
  generalize c.val.toNat = v at valid back ⊢
  rw [← back]
  split
  · refine ⟨_, _, rfl, ?_⟩
    have same := byte v (by omega)
    rw [List.nil_append, unit_of_one rest (by omega), same]
  · split
    · refine ⟨_, _, rfl, ?_⟩
      have value : v = v / 64 * 64 + v % 64 := by omega
      rw [List.cons_append, List.nil_append]
      conv => rhs; rw [value]
      exact unit_of_two rest (byte _ (by omega) |>.trans (by omega))
        (byte _ (by omega) |>.trans (by omega)) (by omega) (by omega)
    · split
      · refine ⟨_, _, rfl, ?_⟩
        have value : v = (v / 4096 * 64 + v / 64 % 64) * 64 + v % 64 := by omega
        conv => rhs; rw [value]
        exact unit_of_three rest (byte _ (by omega) |>.trans (by omega))
          (byte _ (by omega) |>.trans (by omega)) (byte _ (by omega) |>.trans (by omega))
          (by omega) (by omega) (by omega) (by omega) (by omega)
      · refine ⟨_, _, rfl, ?_⟩
        have value : v = ((v / 262144 * 64 + v / 4096 % 64) * 64 + v / 64 % 64) * 64 + v % 64 := by
          omega
        conv => rhs; rw [value]
        exact unit_of_four rest (byte _ (by omega) |>.trans (by omega))
          (byte _ (by omega) |>.trans (by omega)) (byte _ (by omega) |>.trans (by omega))
          (byte _ (by omega) |>.trans (by omega))
          (by omega) (by omega) (by omega) (by omega) (by omega) (by omega)

theorem unitsAfter_encode (seen : List (Option Char)) (text : List Char) :
    unitsAfter seen (encode text) = seen.reverse ++ text.map some := by
  induction text generalizing seen with
  | nil => simp [encode, unitsAfter]
  | cons c text ih =>
      obtain ⟨first, more, bytes, one⟩ := exists_unit_utf8EncodeChar (encode text) c
      have split : encode (c :: text) = first :: (more ++ encode text) := by
        rw [encode, List.flatMap_cons, bytes]
        rfl
      rw [split, unitsAfter, one, ih]
      simp

/-- Strict reading gives back what was written. -/
theorem decode?_encode (text : List Char) : decode? (encode text) = some text := by
  simp [decode?, units, unitsAfter_encode, Function.comp_def]

/-- Lenient reading gives it back as well. -/
theorem decodeLossy_encode (text : List Char) : decodeLossy (encode text) = text := by
  simp [decodeLossy, units, unitsAfter_encode, Function.comp_def]

end ContextStream.Text.Utf8
