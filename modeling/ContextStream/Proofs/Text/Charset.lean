import ContextStream.Proofs.Text.Utf8
import ContextStream.Text.Charset
import Mathlib.Tactic.Common

/-!
# Characters are read from the bytes they stand in

In each form of Unicode characters stand in bytes in one way, and are read back from them.
What bytes mean is said in terms of this way, and not of how they are read.
-/

namespace ContextStream.Text

namespace Form

/-! ## How characters stand in bytes -/

/-- The mark of a form. -/
def mark : Form → List UInt8
  | utf8 => [0xef, 0xbb, 0xbf]
  | utf16be => [0xfe, 0xff]
  | utf16le => [0xff, 0xfe]

/-- The units of a character. -/
def unitsOf (c : Char) : List Nat :=
  if c.toNat < 0x10000 then [c.toNat]
  else [0xd800 + (c.toNat - 0x10000) / 0x400, 0xdc00 + (c.toNat - 0x10000) % 0x400]

/-- The more significant byte of a unit. -/
def high (unit : Nat) : UInt8 :=
  UInt8.ofNat (unit / 256)

/-- The less significant byte of a unit. -/
def low (unit : Nat) : UInt8 :=
  UInt8.ofNat (unit % 256)

/-- The bytes of characters. -/
def encode : Form → List Char → List UInt8
  | utf8, text => Utf8.encode text
  | utf16be, text => (text.flatMap unitsOf).flatMap fun unit => [high unit, low unit]
  | utf16le, text => (text.flatMap unitsOf).flatMap fun unit => [low unit, high unit]

/-! ## Reading them back -/

theorem highFirst_high_low {unit : Nat} (small : unit < 65536) :
    highFirst (high unit) (low unit) = unit := by
  have highest : (high unit).toNat = unit / 256 :=
    UInt8.toNat_ofNat_of_lt' (show unit / 256 < 256 by omega)
  have lowest : (low unit).toNat = unit % 256 :=
    UInt8.toNat_ofNat_of_lt' (show unit % 256 < 256 by omega)
  rw [highFirst, highest, lowest]
  omega

theorem lt_of_mem_unitsOf {c : Char} {unit : Nat} (mem : unit ∈ unitsOf c) : unit < 65536 := by
  have valid : c.toNat.isValidChar := c.valid
  unfold Nat.isValidChar at valid
  unfold unitsOf at mem
  split at mem <;> simp only [List.mem_cons, List.not_mem_nil, or_false] at mem <;> omega

/-- Units are read from their pairs of bytes, in either order. -/
theorem units_flatMap {read : UInt8 → UInt8 → Nat} {first second : Nat → UInt8} {all : List Nat}
    (reads : ∀ unit ∈ all, read (first unit) (second unit) = unit) :
    units read (all.flatMap fun unit => [first unit, second unit]) = (all, false) := by
  induction all with
  | nil => rfl
  | cons unit all ih =>
      rw [List.forall_mem_cons] at reads
      rw [List.flatMap_cons, List.cons_append, List.cons_append, List.nil_append, units,
        ih reads.2, reads.1]

theorem characters_single {unit : Nat} (first : isFirstHalf unit = false)
    (second : isSecondHalf unit = false) (odd : Bool) (rest : List Nat) :
    characters odd (unit :: rest) = Char.ofNat unit :: characters odd rest := by
  cases rest <;> simp [characters, first, second]

theorem characters_pair {unit next : Nat} (first : isFirstHalf unit = true)
    (second : isSecondHalf next = true) (odd : Bool) (rest : List Nat) :
    characters odd (unit :: next :: rest) =
      Char.ofNat (0x10000 + (unit - 0xd800) * 0x400 + (next - 0xdc00)) ::
        characters odd rest := by
  simp [characters, first, second]

/-- A character is read from its units. -/
theorem characters_unitsOf (c : Char) (rest : List Nat) :
    characters false (unitsOf c ++ rest) = c :: characters false rest := by
  have valid : c.toNat.isValidChar := c.valid
  unfold Nat.isValidChar at valid
  unfold unitsOf
  split
  · next single =>
      have first : isFirstHalf c.toNat = false := by
        simp only [isFirstHalf, Bool.and_eq_false_imp, decide_eq_true_eq, decide_eq_false_iff_not]
        omega
      have second : isSecondHalf c.toNat = false := by
        simp only [isSecondHalf, Bool.and_eq_false_imp, decide_eq_true_eq, decide_eq_false_iff_not]
        omega
      rw [List.singleton_append, characters_single first second, Char.ofNat_toNat]
  · next pair =>
      have first : isFirstHalf (0xd800 + (c.toNat - 0x10000) / 0x400) = true := by
        simp only [isFirstHalf, Bool.and_eq_true, decide_eq_true_eq]
        omega
      have second : isSecondHalf (0xdc00 + (c.toNat - 0x10000) % 0x400) = true := by
        simp only [isSecondHalf, Bool.and_eq_true, decide_eq_true_eq]
        omega
      have whole : 0x10000 + (0xd800 + (c.toNat - 0x10000) / 0x400 - 0xd800) * 0x400 +
          (0xdc00 + (c.toNat - 0x10000) % 0x400 - 0xdc00) = c.toNat := by
        omega
      rw [List.cons_append, List.singleton_append, characters_pair first second, whole,
        Char.ofNat_toNat]

theorem characters_flatMap (text : List Char) :
    characters false (text.flatMap unitsOf) = text := by
  induction text with
  | nil => rfl
  | cons c text ih => rw [List.flatMap_cons, characters_unitsOf, ih]

/-- Characters are read from pairs of bytes, in either order. -/
theorem decodePairs_flatMap {read : UInt8 → UInt8 → Nat} {first second : Nat → UInt8}
    (reads : ∀ unit, unit < 65536 → read (first unit) (second unit) = unit) (text : List Char) :
    decodePairs read ((text.flatMap unitsOf).flatMap fun unit => [first unit, second unit]) =
      text := by
  have small : ∀ unit ∈ text.flatMap unitsOf, unit < 65536 := by
    intro unit mem
    obtain ⟨c, -, mem⟩ := List.mem_flatMap.mp mem
    exact lt_of_mem_unitsOf mem
  rw [decodePairs, units_flatMap fun unit mem => reads unit (small unit mem)]
  exact characters_flatMap text

/-- Characters are read from their bytes in each form. -/
theorem decode_encode (form : Form) (text : List Char) : form.decode (form.encode text) = text := by
  cases form with
  | utf8 => exact Utf8.decodeLossy_encode text
  | utf16be =>
      have reads : ∀ unit, unit < 65536 → highFirst (high unit) (low unit) = unit :=
        fun _ => highFirst_high_low
      rw [encode, decode, decodePairs_flatMap reads]
  | utf16le =>
      have reads : ∀ unit, unit < 65536 → lowFirst (low unit) (high unit) = unit :=
        fun _ => highFirst_high_low
      rw [encode, decode, decodePairs_flatMap reads]

/-- A form is told by its mark alone. -/
theorem marked?_eq_some_iff {bytes rest : List UInt8} {form : Form} :
    marked? bytes = some (form, rest) ↔ bytes = form.mark ++ rest := by
  constructor
  · intro marked
    unfold marked? at marked
    split at marked <;> cases marked <;> rfl
  · rintro rfl
    cases form <;> rfl

theorem marked?_eq_none_iff {bytes : List UInt8} :
    marked? bytes = none ↔ ∀ (form : Form) rest, bytes ≠ form.mark ++ rest := by
  rw [Option.eq_none_iff_forall_ne_some]
  constructor
  · exact fun none form rest splits => none (form, rest) (marked?_eq_some_iff.mpr splits)
  · exact fun unmarked found is => unmarked found.1 found.2 (marked?_eq_some_iff.mp is)

/-! ## What bytes mean -/

/-- What bytes mean in a form: the characters that stand in them, and if they are malformed
what lenient reading makes of them. -/
inductive Means (form : Form) (bytes : List UInt8) : List Char → Prop
  | formed (text : List Char) (stands : bytes = form.encode text) : Means form bytes text
  | malformed (none : ∀ text, bytes ≠ form.encode text) : Means form bytes (form.decode bytes)

/-- Bytes mean what is read from them. -/
theorem means_iff {form : Form} {bytes : List UInt8} {text : List Char} :
    form.Means bytes text ↔ form.decode bytes = text := by
  constructor
  · rintro (⟨_, rfl⟩ | none)
    · exact form.decode_encode text
    · rfl
  · rintro rfl
    by_cases formed : ∃ text, bytes = form.encode text
    · obtain ⟨text, rfl⟩ := formed
      rw [decode_encode]
      exact .formed text rfl
    · exact .malformed fun text stands => formed ⟨text, stands⟩

end Form

namespace Charset

/-- What bytes mean in a charset. A mark of a form in front of them is believed more than the
charset, and does not belong to the text. -/
inductive Means (charset : Charset) (bytes : List UInt8) (text : List Char) : Prop
  | marked (form : Form) (rest : List UInt8) (splits : bytes = form.mark ++ rest)
      (means : form.Means rest text)
  | unicode (form : Form) (unmarked : ∀ (other : Form) rest, bytes ≠ other.mark ++ rest)
      (is : charset = .unicode form) (means : form.Means bytes text)
  | legacy (decode : List UInt8 → List Char)
      (unmarked : ∀ (other : Form) rest, bytes ≠ other.mark ++ rest)
      (is : charset = .legacy decode) (means : decode bytes = text)

/-- Bytes mean what is read from them. -/
theorem means_iff {charset : Charset} {bytes : List UInt8} {text : List Char} :
    charset.Means bytes text ↔ charset.decode bytes = text := by
  constructor
  · intro means
    cases means with
    | marked form rest splits means =>
        simp only [decode, Form.marked?_eq_some_iff.mpr splits]
        exact Form.means_iff.mp means
    | unicode form unmarked is means =>
        simp only [decode, Form.marked?_eq_none_iff.mpr unmarked, is]
        exact Form.means_iff.mp means
    | legacy reading unmarked is means =>
        simp only [decode, Form.marked?_eq_none_iff.mpr unmarked, is]
        exact means
  · rintro rfl
    cases marked : Form.marked? bytes with
    | some found =>
        obtain ⟨form, rest⟩ := found
        simp only [decode, marked]
        exact .marked form rest (Form.marked?_eq_some_iff.mp marked) (Form.means_iff.mpr rfl)
    | none =>
        have unmarked := Form.marked?_eq_none_iff.mp marked
        simp only [decode, marked]
        cases charset with
        | unicode form => exact .unicode form unmarked rfl (Form.means_iff.mpr rfl)
        | legacy decode => exact .legacy decode unmarked rfl rfl

end Charset

end ContextStream.Text
