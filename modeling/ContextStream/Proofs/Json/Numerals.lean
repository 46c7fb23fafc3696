import ContextStream.Proofs.Json.Grammar
import ContextStream.Proofs.Json.Mixtures

/-!
# Numbers and what is read of them

Every number of the grammar is read to its end, however many digits it has. It is read as an
integer that is not negative exactly if it is whole and this is its value. Every other number is
read as something else, or is out of range; then no text around it is read.
-/

namespace ContextStream.Json

open Grammar
open Iri.Grammar (one optional sign mem_optional_iff mem_kstar_one_iff nil_mem_optional)
open scoped Computability

namespace Grammar

variable {text : List Char}

theorem mem_digits_iff :
    text ∈ digits ↔ ∃ c tail, text = c :: tail ∧ c.isDigit = true ∧
      ∀ d ∈ tail, d.isDigit = true := by
  constructor
  · rintro ⟨_, ⟨c, isDigit, rfl⟩, tail, others, rfl⟩
    exact ⟨c, tail, rfl, isDigit, mem_kstar_one_iff.mp others⟩
  · rintro ⟨c, tail, rfl, isDigit, others⟩
    exact mem_digits isDigit others

theorem mem_whole_iff :
    text ∈ whole ↔ text = ['0'] ∨ ∃ c tail, text = c :: tail ∧ isLeadingDigit c = true ∧
      ∀ d ∈ tail, d.isDigit = true := by
  constructor
  · rintro (zero | ⟨_, ⟨c, leading, rfl⟩, tail, others, rfl⟩)
    · exact Or.inl zero
    · exact Or.inr ⟨c, tail, rfl, leading, mem_kstar_one_iff.mp others⟩
  · rintro (rfl | ⟨c, tail, rfl, leading, others⟩)
    · exact mem_whole_of_digit (by decide)
    · exact mem_whole leading others

/-- A whole number has no sign, no point and no mark. -/
theorem isDigit_of_mem_whole (is : text ∈ whole) : ∀ c ∈ text, c.isDigit = true := by
  rcases mem_whole_iff.mp is with rfl | ⟨c, tail, rfl, leading, others⟩
  · exact List.forall_mem_singleton.mpr (by decide)
  · exact List.forall_mem_cons.mpr ⟨(Bool.and_eq_true_iff.mp leading).1, others⟩

/-- A number may be written without a sign. -/
theorem mem_number_of_magnitude (is : text ∈ magnitude) : text ∈ number := by
  have whole : [] ++ text ∈ number := Language.append_mem_mul nil_mem_optional is
  exact whole

/-- The number that digits tell, the most significant first. -/
def numberOf (digits : List Char) : Nat :=
  Nat.ofDigitChars 10 digits 0

end Grammar

/-! ## Characters of a numeral -/

namespace Numeral

variable {numeral : Numeral} {c : Char}

/-- A character of a numeral leads to another one, wherever it stands. -/
def Leads (numeral : Numeral) (c : Char) (kind : Numeral → Prop) : Prop :=
  ∀ offset, ∃ next, numeral.step offset c = .more next ∧ kind next

/-- The digits of the whole part have this value, or a larger one than fits. -/
inductive Counts (negative : Bool) (value : Nat) : Numeral → Prop
  | fits (small : value < UInt64.size) :
      Counts negative value
        ⟨negative, value, 0, 0, false, none, if value = 0 then .zero else .whole⟩
  | exceeds {numeral : Numeral} (phase : numeral.phase = .longWhole)
      (large : UInt64.size ≤ value) : Counts negative value numeral

/-- A digit goes on with the whole part, unless that is a zero. -/
theorem Counts.digit {negative : Bool} {value : Nat} (counts : Counts negative value numeral)
    (positive : value ≠ 0) (isDigit : c.isDigit = true) :
    numeral.Leads c (Counts negative (10 * value + (c.toNat - 48))) := by
  intro offset
  cases counts with
  | fits small =>
      by_cases still : 10 * value + (c.toNat - 48) < UInt64.size
      · refine ⟨_, ?_, .fits still⟩
        simp [step, positive, isDigit, wholeDigit, still]
      · refine ⟨⟨negative, value, 1, 0, false, none, .longWhole⟩, ?_,
          .exceeds rfl (Nat.not_lt.mp still)⟩
        simp [step, positive, isDigit, wholeDigit, still]
  | exceeds phase large =>
      refine ⟨{ numeral with scale := numeral.scale + 1 }, ?_, .exceeds phase (by omega)⟩
      simp [step, phase, isDigit]

/-- A numeral has been read as far as one of these phases. -/
def In (phases : List Phase) (numeral : Numeral) : Prop :=
  numeral.phase ∈ phases

theorem In.mono {phases others : List Phase} (isIn : numeral.In phases)
    (widens : phases ⊆ others) : numeral.In others :=
  widens isIn

/-- The phases behind a whole part. -/
def wholePhases : List Phase := [.zero, .whole, .longWhole]

/-- The phases behind a fraction. -/
def fractionPhases : List Phase := [.fraction, .longFraction]

/-- The phases behind an exponent. -/
def exponentPhases : List Phase := [.exponent, .longExponent]

theorem Counts.isIn {negative : Bool} {value : Nat} (counts : Counts negative value numeral) :
    numeral.In wholePhases := by
  cases counts with
  | fits small => by_cases zero : value = 0 <;> simp [In, wholePhases, zero]
  | exceeds phase large => simp [In, wholePhases, phase]

theorem leads_point (whole : numeral.In wholePhases) : numeral.Leads '.' (In [.point]) := by
  intro offset
  refine ⟨{ numeral with phase := .point }, ?_, List.mem_singleton_self _⟩
  simp only [In, wholePhases, List.mem_cons, List.not_mem_nil, or_false] at whole
  rcases whole with is | is | is <;> simp [step, is, afterWhole]

theorem leads_fraction (isDigit : c.isDigit = true)
    (before : numeral.In (.point :: fractionPhases)) : numeral.Leads c (In fractionPhases) := by
  intro offset
  have next : (numeral.fractionDigit (c.toNat - 48)).In fractionPhases := by
    by_cases fits : 10 * numeral.significand + (c.toNat - 48) < UInt64.size <;>
      simp [fractionDigit, fits, In, fractionPhases]
  simp only [In, fractionPhases, List.mem_cons, List.not_mem_nil, or_false] at before
  rcases before with is | is | is
  · exact ⟨_, by simp [step, is, isDigit], next⟩
  · exact ⟨_, by simp [step, is, isDigit], next⟩
  · exact ⟨numeral, by simp [step, is, isDigit], by simp [In, fractionPhases, is]⟩

theorem leads_mark (isMark : c = 'e' ∨ c = 'E')
    (before : numeral.In (wholePhases ++ fractionPhases)) : numeral.Leads c (In [.mark]) := by
  intro offset
  refine ⟨{ numeral with phase := .mark }, ?_, List.mem_singleton_self _⟩
  simp only [In, wholePhases, fractionPhases, List.cons_append, List.nil_append, List.mem_cons,
    List.not_mem_nil, or_false] at before
  rcases before with is | is | is | is | is <;> rcases isMark with rfl | rfl <;>
    simp [step, is, afterWhole, afterFraction]

theorem leads_markSign (isSign : c = '+' ∨ c = '-') (before : numeral.In [.mark]) :
    numeral.Leads c (In [.mark, .markSign]) := by
  intro offset
  have is := List.mem_singleton.mp before
  rcases isSign with rfl | rfl
  · exact ⟨{ numeral with phase := .markSign }, by simp [step, is], by simp [In]⟩
  · exact ⟨{ numeral with exponentNegative := true, phase := .markSign }, by simp [step, is],
      by simp [In]⟩

theorem leads_exponent (isDigit : c.isDigit = true)
    (before : numeral.In (.mark :: .markSign :: exponentPhases)) :
    numeral.Leads c (In exponentPhases) := by
  intro offset
  have next : (numeral.exponentDigit offset (c.toNat - 48)).In exponentPhases := by
    by_cases fits : 10 * numeral.exponent + (c.toNat - 48) < 2147483648 <;>
      simp [exponentDigit, fits, In, exponentPhases]
  have noSign : c ≠ '+' ∧ c ≠ '-' := by
    constructor <;> rintro rfl <;> cases isDigit
  simp only [In, exponentPhases, List.mem_cons, List.not_mem_nil, or_false] at before
  rcases before with is | is | is | is
  · exact ⟨_, by simp [step, is, isDigit, noSign], next⟩
  · exact ⟨_, by simp [step, is, isDigit], next⟩
  · exact ⟨_, by simp [step, is, isDigit], next⟩
  · exact ⟨numeral, by simp [step, is, isDigit], by simp [In, exponentPhases, is]⟩

/-! ## What a numeral is read as -/

/-- The phases in which a numeral may end. -/
def lastPhases : List Phase := wholePhases ++ fractionPhases ++ exponentPhases

/-- A numeral ends in front of whatever is no part of a numeral. -/
theorem step_of_last (last : numeral.In lastPhases) (noDigit : c.isDigit = false)
    (noPoint : c ≠ '.') (noMark : c ≠ 'e' ∧ c ≠ 'E') (offset : Nat) :
    numeral.step offset c = .ended := by
  simp only [In, lastPhases, wholePhases, fractionPhases, exponentPhases, List.cons_append,
    List.nil_append, List.mem_cons, List.not_mem_nil, or_false] at last
  rcases last with is | is | is | is | is | is | is <;>
    simp [step, is, noDigit, afterWhole, afterFraction, noPoint, noMark]

/-- With a fraction or an exponent a numeral is a floating point number, or out of range. -/
theorem scaled_cases (numeral : Numeral) (offset : Nat) :
    (∃ x, numeral.scaled offset = .number (.double x)) ∨
      ∃ fault, numeral.scaled offset = .malformed false fault none := by
  simp only [Numeral.scaled]
  cases Number.scaled? numeral.significand
    (if numeral.exponentNegative then numeral.scale - numeral.exponent
      else numeral.scale + numeral.exponent) with
  | none => exact Or.inr ⟨_, rfl⟩
  | some x => exact Or.inl ⟨_, rfl⟩

/-- What is read of a numeral is a number. -/
theorem exists_number {offset : Nat} (sound : (numeral.lexeme offset).IsSound) :
    ∃ n, numeral.lexeme offset = .number n := by
  unfold lexeme at sound ⊢
  split at sound
  · exact sound.elim
  · exact numeral.exists_exact
  · exact numeral.exists_exact
  · exact ⟨_, rfl⟩
  · exact sound.elim
  · exact sound.elim
  · exact sound.elim
  · exact sound.elim
  · rcases numeral.scaled_cases offset with ⟨x, is⟩ | ⟨fault, is⟩
    · exact ⟨_, is⟩
    · rw [is] at sound
      exact sound.elim

/-- A numeral with a fraction, an exponent or too many digits is no integer. -/
theorem lexeme_ne_integer (beyond : numeral.In (.longWhole :: fractionPhases ++ exponentPhases))
    (offset : Nat) (n : Integer) : numeral.lexeme offset ≠ .number (.integer n) := by
  have scaled : numeral.scaled offset ≠ .number (.integer n) := by
    rcases numeral.scaled_cases offset with ⟨x, is⟩ | ⟨fault, is⟩ <;> simp [is]
  simp only [In, fractionPhases, exponentPhases, List.cons_append, List.nil_append, List.mem_cons,
    List.not_mem_nil, or_false] at beyond
  cases fault : numeral.fault with
  | some fault => simp [lexeme, fault]
  | none =>
      rcases beyond with is | is | is | is | is <;> simp only [lexeme, fault, is]
      · exact scaled
      · exact scaled
      · exact scaled
      · exact scaled
      · simp [signed]

/-- Digits that are an integer are this integer, behind their sign. -/
theorem val_of_exact {n : Integer} (is : numeral.exact = .number (.integer n)) :
    ¬(numeral.negative = true ∧ numeral.significand = 0) ∧
      n.val = if numeral.negative then -(numeral.significand : Int) else numeral.significand := by
  by_cases zero : numeral.negative = true ∧ numeral.significand = 0
  · rw [Numeral.exact, if_pos zero] at is
    cases is
  · refine ⟨zero, ?_⟩
    simp only [Numeral.exact, if_neg zero] at is
    by_cases fits :
        -9223372036854775808 ≤
            (if numeral.negative then -(numeral.significand : Int) else numeral.significand) ∧
          (if numeral.negative then -(numeral.significand : Int) else numeral.significand) <
            18446744073709551616
    · rw [dif_pos fits, Lexeme.number.injEq, Number.integer.injEq] at is
      rw [← is]
    · rw [dif_neg fits] at is
      cases is

/-- Digits are an integer that is not negative, if they have no sign and it is their value. -/
theorem Counts.lexeme_eq_integer_iff {negative : Bool} {value : Nat}
    (counts : Counts negative value numeral) (offset : Nat) {n : Integer} (natural : 0 ≤ n.val) :
    numeral.lexeme offset = .number (.integer n) ↔ negative = false ∧ n.val = value := by
  cases counts with
  | exceeds phase large =>
      have beyond : numeral.In (.longWhole :: fractionPhases ++ exponentPhases) := by
        simp [In, phase]
      have upper := n.upper
      unfold UInt64.size at large
      refine iff_of_false (lexeme_ne_integer beyond offset n) ?_
      rintro ⟨-, is⟩
      omega
  | fits small =>
      have exact :
          lexeme ⟨negative, value, 0, 0, false, none, if value = 0 then .zero else .whole⟩ offset =
            Numeral.exact ⟨negative, value, 0, 0, false, none, .zero⟩ := by
        by_cases zero : value = 0 <;> simp [lexeme, zero, Numeral.exact, signed]
      rw [exact]
      constructor
      · intro is
        obtain ⟨noZero, val⟩ := val_of_exact is
        cases negative with
        | false => exact ⟨rfl, val⟩
        | true =>
            simp only [true_and, if_true] at noZero val
            omega
      · rintro ⟨rfl, is⟩
        exact Lexer.exact_eq_integer n is fun signed => by cases signed

end Numeral

/-! ## Reading to the end -/

theorem digitChar_of_isDigit {c : Char} (isDigit : c.isDigit = true) :
    c.toNat - 48 < 10 ∧ (c.toNat - 48).digitChar = c := by
  have range : 48 ≤ c.toNat ∧ c.toNat ≤ 57 := Char.isDigit_iff_toNat.mp isDigit
  have small : c.toNat - 48 < 10 := by omega
  refine ⟨small, Char.toNat_inj.mp ?_⟩
  rw [Nat.toNat_digitChar_of_lt_ten small]
  omega

namespace Lexer

/-- The lexer has given tokens and is in a numeral of some kind. -/
structure Midway (kind : Numeral → Prop) (start : Nat) (given : List Token) (lexer : Lexer) :
    Prop where
  mode : ∃ numeral, lexer.mode = .numeral start numeral ∧ kind numeral
  tokens : lexer.tokens = given

variable {lexer : Lexer} {start : Nat} {given : List Token} {kind next : Numeral → Prop} {c : Char}
  {text : List Char}

theorem Midway.mono (midway : Midway kind start given lexer)
    (widens : ∀ numeral, kind numeral → next numeral) : Midway next start given lexer := by
  obtain ⟨numeral, mode, is⟩ := midway.mode
  exact ⟨⟨numeral, mode, widens numeral is⟩, midway.tokens⟩

theorem Midway.step (midway : Midway kind start given lexer)
    (leads : ∀ numeral, kind numeral → numeral.Leads c next) :
    Midway next start given (lexer.step c) := by
  obtain ⟨⟨numeral, mode, is⟩, tokens⟩ := midway
  obtain ⟨numeral', stepped, isNext⟩ := leads numeral is lexer.offset
  constructor
  · refine ⟨numeral', ?_, isNext⟩
    simp [Lexer.step, consume, mode, stepped]
  · simp [Lexer.step, consume, mode, stepped, tokens]

/-- Digits lead on as long as each of them does. -/
theorem Midway.digits (midway : Midway kind start given lexer)
    (leads : ∀ c, c.isDigit = true → ∀ numeral, kind numeral → numeral.Leads c kind)
    (isDigit : ∀ c ∈ text, c.isDigit = true) :
    Midway kind start given (text.foldl Lexer.step lexer) := by
  induction text generalizing lexer with
  | nil => exact midway
  | cons c text ih =>
      obtain ⟨first, others⟩ := List.forall_mem_cons.mp isDigit
      exact ih (midway.step (leads c first)) others

/-- Digits behind each other count what they tell. They do so only behind a digit other than
zero, since nothing goes on with a leading zero. -/
theorem Midway.count {negative : Bool} {value : Nat}
    (midway : Midway (Numeral.Counts negative value) start given lexer) (positive : value ≠ 0)
    (isDigit : ∀ c ∈ text, c.isDigit = true) :
    Midway (Numeral.Counts negative (Nat.ofDigitChars 10 text value)) start given
      (text.foldl Lexer.step lexer) := by
  induction text generalizing lexer value with
  | nil => exact midway
  | cons c text ih =>
      obtain ⟨first, others⟩ := List.forall_mem_cons.mp isDigit
      have further := midway.step fun _ counts => counts.digit positive first
      have still : 10 * value + (c.toNat - 48) ≠ 0 := by omega
      exact ih further still others

/-- The whole part of a numeral counts what its digits tell. -/
theorem AtNumeral.whole {negative : Bool} (begun : AtNumeral start negative given lexer)
    (is : text ∈ Grammar.whole) :
    Midway (Numeral.Counts negative (numberOf text)) start given
      (text.foldl Lexer.step lexer) := by
  have first {c : Char} (isDigit : c.isDigit = true) :
      Midway (Numeral.Counts negative (c.toNat - 48)) start given (lexer.step c) := by
    obtain ⟨small, same⟩ := digitChar_of_isDigit isDigit
    have inside := begun.digit small
    rw [same] at inside
    have fits : c.toNat - 48 < UInt64.size := by
      unfold UInt64.size
      omega
    exact ⟨⟨_, inside.mode, .fits fits⟩, inside.tokens⟩
  rcases mem_whole_iff.mp is with rfl | ⟨c, tail, rfl, leading, others⟩
  · exact first (by decide : '0'.isDigit = true)
  · obtain ⟨isDigit, noZero⟩ := Bool.and_eq_true_iff.mp leading
    have positive : c.toNat - 48 ≠ 0 := by
      intro zero
      have same := (digitChar_of_isDigit isDigit).2
      rw [zero] at same
      exact bne_iff_ne.mp noZero same.symm
    have value : numberOf (c :: tail) = Nat.ofDigitChars 10 tail (c.toNat - 48) := by
      simp [numberOf, Nat.ofDigitChars_cons]
    rw [value]
    exact (first isDigit).count positive others

theorem Midway.fraction (midway : Midway (Numeral.In Numeral.wholePhases) start given lexer)
    (is : text ∈ Grammar.fraction) :
    Midway (Numeral.In Numeral.fractionPhases) start given (text.foldl Lexer.step lexer) := by
  obtain ⟨_, rfl, digits, areDigits, rfl⟩ := is
  obtain ⟨c, tail, rfl, isDigit, others⟩ := mem_digits_iff.mp areDigits
  have point := midway.step fun _ whole => Numeral.leads_point whole
  have first := point.step fun _ point =>
    Numeral.leads_fraction isDigit (point.mono (by decide))
  exact first.digits (fun _ isDigit _ fraction =>
    Numeral.leads_fraction isDigit (fraction.mono (by decide))) others

theorem Midway.exponent
    (midway : Midway (Numeral.In (Numeral.wholePhases ++ Numeral.fractionPhases)) start given
      lexer) (is : text ∈ Grammar.exponent) :
    Midway (Numeral.In Numeral.exponentPhases) start given (text.foldl Lexer.step lexer) := by
  obtain ⟨_, ⟨_, ⟨mark, isMark, rfl⟩, signs, areSigns, rfl⟩, digits, areDigits, rfl⟩ := is
  obtain ⟨c, tail, rfl, isDigit, others⟩ := mem_digits_iff.mp areDigits
  simp only [Bool.or_eq_true, beq_iff_eq] at isMark
  have marked := midway.step fun _ before => Numeral.leads_mark isMark before
  have signed : Midway (Numeral.In [.mark, .markSign]) start given
      (signs.foldl Lexer.step (lexer.step mark)) := by
    rcases mem_optional_iff.mp areSigns with rfl | ⟨sign, isSign, rfl⟩
    · exact marked.mono fun _ is => is.mono (by decide)
    · simp only [Bool.or_eq_true, beq_iff_eq] at isSign
      exact marked.step fun _ is => Numeral.leads_markSign isSign is
  have first := signed.step fun _ before =>
    Numeral.leads_exponent isDigit (before.mono (by decide))
  change Midway _ start given ((mark :: signs ++ c :: tail).foldl Lexer.step lexer)
  rw [List.foldl_append]
  exact first.digits (fun _ isDigit _ exponent =>
    Numeral.leads_exponent isDigit (exponent.mono (by decide))) others

/-- A text has been read to its end: it is an integer that is not negative exactly if it is
whole and this is its number. -/
structure Spelt (text : List Char) (numeral : Numeral) : Prop where
  last : numeral.In Numeral.lastPhases
  integer : ∀ (offset : Nat) (n : Integer), 0 ≤ n.val →
    (numeral.lexeme offset = .number (.integer n) ↔
      text ∈ Grammar.whole ∧ n.val = numberOf text)

theorem spelt_of_counts {negative : Bool} {sign : List Char} {numeral : Numeral}
    (isSign : (sign = [] ∧ negative = false) ∨ (sign = ['-'] ∧ negative = true))
    (isWhole : text ∈ Grammar.whole) (counts : numeral.Counts negative (numberOf text)) :
    Spelt (sign ++ text) numeral := by
  refine ⟨counts.isIn.mono (by decide), ?_⟩
  intro offset n natural
  rw [counts.lexeme_eq_integer_iff offset natural]
  rcases isSign with ⟨rfl, rfl⟩ | ⟨rfl, rfl⟩
  · simp [isWhole]
  · have noWhole : '-' :: text ∉ Grammar.whole := by
      intro is
      have isDigit := isDigit_of_mem_whole is '-' List.mem_cons_self
      cases isDigit
    simp [noWhole]

/-- A text with a fraction or an exponent has a character that is no digit. -/
theorem spelt_of_beyond {numeral : Numeral} {part : List Char}
    (is : part ∈ Grammar.fraction ∨ part ∈ Grammar.exponent) (inside : part ⊆ text)
    (beyond : numeral.In (Numeral.fractionPhases ++ Numeral.exponentPhases)) :
    Spelt text numeral := by
  have noDigit : ∃ c ∈ part, c.isDigit = false := by
    rcases is with ⟨_, rfl, digits, -, rfl⟩ |
      ⟨_, ⟨_, ⟨mark, isMark, rfl⟩, signs, -, rfl⟩, digits, -, rfl⟩
    · exact ⟨'.', List.mem_cons_self, rfl⟩
    · simp only [Bool.or_eq_true, beq_iff_eq] at isMark
      exact ⟨mark, List.mem_cons_self, by rcases isMark with rfl | rfl <;> rfl⟩
  obtain ⟨c, cMem, noDigit⟩ := noDigit
  refine ⟨beyond.mono (by decide), ?_⟩
  intro offset n _
  refine iff_of_false (Numeral.lexeme_ne_integer (beyond.mono (by decide)) offset n) ?_
  rintro ⟨isWhole, -⟩
  have isDigit := isDigit_of_mem_whole isWhole c (inside cMem)
  rw [noDigit] at isDigit
  cases isDigit

/-- A number of the grammar is read to its end. -/
theorem midway_of_mem_number (is : text ∈ Grammar.number) (between : lexer.mode = .between) :
    Midway (Spelt text) lexer.offset lexer.tokens (text.foldl Lexer.step lexer) := by
  obtain ⟨sign, optionalSign, _, ⟨_, ⟨front, isWhole, middle, optionalFraction, rfl⟩, back,
    optionalExponent, rfl⟩, rfl⟩ := is
  change Midway (Spelt (sign ++ (front ++ middle ++ back))) _ _
    ((sign ++ (front ++ middle ++ back)).foldl Lexer.step lexer)
  obtain ⟨negative, begun, isSign⟩ : ∃ negative,
      AtNumeral lexer.offset negative lexer.tokens (sign.foldl Lexer.step lexer) ∧
        ((sign = [] ∧ negative = false) ∨ (sign = ['-'] ∧ negative = true)) := by
    rcases mem_optional_iff.mp optionalSign with rfl | rfl
    · exact ⟨false, .positive between rfl rfl rfl, Or.inl ⟨rfl, rfl⟩⟩
    · refine ⟨true, .signed ?_ ?_, Or.inr ⟨rfl, rfl⟩⟩ <;>
        simp [Lexer.step, consume, between, begin, isBlank, Symbol.ofChar?, word?, Numeral.ofChar?]
  have whole := begun.whole isWhole
  have fraction (isFraction : middle ∈ Grammar.fraction) :=
    (whole.mono fun _ counts => counts.isIn).fraction isFraction
  simp only [List.foldl_append]
  rcases mem_optional_iff.mp optionalExponent with rfl | isExponent
  · rcases mem_optional_iff.mp optionalFraction with rfl | isFraction
    · simpa using whole.mono fun _ counts => spelt_of_counts isSign isWhole counts
    · exact (fraction isFraction).mono fun _ beyond =>
        spelt_of_beyond (Or.inl isFraction) (by simp) (beyond.mono (by decide))
  · -- An exponent makes no difference between a number with a fraction and one without.
    have before : Midway (Numeral.In (Numeral.wholePhases ++ Numeral.fractionPhases))
        lexer.offset lexer.tokens
        (middle.foldl Lexer.step (front.foldl Lexer.step (sign.foldl Lexer.step lexer))) := by
      rcases mem_optional_iff.mp optionalFraction with rfl | isFraction
      · exact whole.mono fun _ counts => counts.isIn.mono (by decide)
      · exact (fraction isFraction).mono fun _ is => is.mono (by decide)
    have inside : back ⊆ sign ++ (front ++ middle ++ back) :=
      List.subset_append_of_subset_right sign (List.subset_append_right (front ++ middle) back)
    exact (before.exponent isExponent).mono fun _ beyond =>
      spelt_of_beyond (Or.inr isExponent) inside (beyond.mono (by decide))

/-! ## Numbers between other texts -/

/-- In front of a blank and of a symbol a numeral is as complete as at the end of the text. -/
theorem step_finish {numeral : Numeral} (mode : lexer.mode = .numeral start numeral)
    (last : numeral.In Numeral.lastPhases)
    (ends : isBlank c = true ∨ ∃ symbol, Symbol.ofChar? c = some symbol) :
    lexer.step c = lexer.finish.step c := by
  obtain ⟨noDigit, noPoint, noMark⟩ : c.isDigit = false ∧ c ≠ '.' ∧ c ≠ 'e' ∧ c ≠ 'E' := by
    rcases ends with blank | ⟨symbol, is⟩
    · exact blank_plain blank
    · exact (symbol_plain is).2
  simp [Lexer.step, consume, finish, mode, emit, numeral.step_of_last last noDigit noPoint noMark]

/-- Blanks change neither the mode nor the tokens. -/
theorem foldl_blanks (blank : Blanks text) (between : lexer.mode = .between) :
    (text.foldl step lexer).mode = .between ∧ (text.foldl step lexer).tokens = lexer.tokens := by
  obtain ⟨tokens, none?, between, read⟩ := cuts_blanks blank lexer between
  rw [List.map_eq_nil_iff.mp none?] at read
  exact ⟨between, read⟩

/-- Blanks and a symbol behind a numeral leave its token as it is at the end of the text. -/
theorem foldl_finish {numeral : Numeral} (mode : lexer.mode = .numeral start numeral)
    (last : numeral.In Numeral.lastPhases) (blank : Blanks text) :
    (text.foldl step lexer).finish.tokens = lexer.finish.tokens ∧
      ∀ {c : Char} {symbol : Symbol}, Symbol.ofChar? c = some symbol →
        lexer.finish.tokens ⊆ ((text ++ [c]).foldl step lexer).tokens := by
  have complete : lexer.finish.mode = .between := by simp [finish, mode, emit]
  constructor
  · cases text with
    | nil => rfl
    | cons b text =>
        have first := (List.forall_mem_cons.mp blank).1
        obtain ⟨between, tokens⟩ := foldl_blanks blank complete
        rw [List.foldl_cons, step_finish mode last (Or.inl first), ← List.foldl_cons,
          finish_of_between between, tokens]
  · intro c symbol is
    have same : (text ++ [c]).foldl step lexer = (text ++ [c]).foldl step lexer.finish := by
      cases text with
      | nil => simp [step_finish mode last (Or.inr ⟨symbol, is⟩)]
      | cons b text => simp [step_finish mode last (Or.inl (List.forall_mem_cons.mp blank).1)]
    obtain ⟨tokens, -, -, read⟩ := (cuts_blanks blank).append (cuts_symbol is) _ complete
    rw [same, read]
    exact List.subset_append_right tokens.reverse _

/-- A number between blanks is one token, alone and in front of a symbol. -/
theorem exists_token {front back : List Char} (is : text ∈ Grammar.number) (before : Blanks front)
    (after : Blanks back) :
    ∃ numeral token, Spelt text numeral ∧ token.lexeme = numeral.lexeme token.stop ∧
      (tokenize (front ++ text ++ back)).tokens = [token] ∧
        ∀ {c : Char} {symbol : Symbol}, Symbol.ofChar? c = some symbol →
          token ∈ ((front ++ text ++ back ++ [c]).foldl step Lexer.start).tokens := by
  obtain ⟨between, read⟩ := foldl_blanks before (rfl : Lexer.start.mode = .between)
  obtain ⟨⟨numeral, mode, spelt⟩, given⟩ := midway_of_mem_number is between
  rw [read] at given
  have behind (others : List Char) :
      (front ++ text ++ others).foldl step Lexer.start =
        others.foldl step (text.foldl step (front.foldl step Lexer.start)) := by
    rw [List.foldl_append, List.foldl_append]
  simp only [tokenize, List.append_assoc (front ++ text), behind]
  generalize text.foldl step (front.foldl step Lexer.start) = lexer at mode given
  obtain ⟨alone, inFront⟩ := foldl_finish mode spelt.last after
  have tokens : lexer.finish.tokens =
      [⟨numeral.lexeme lexer.offset, (front.foldl step Lexer.start).offset, lexer.offset⟩] := by
    simp [finish, mode, emit, given, Lexer.start]
  rw [tokens] at alone inFront
  exact ⟨numeral, _, spelt, rfl, by rw [alone]; rfl, fun is => inFront is List.mem_cons_self⟩

end Lexer

/-- A number between blanks is read as a number wherever it stands, or nothing around it is read.
It is an integer that is not negative exactly if it is whole and this is its number. -/
theorem stands_or_unreadable {front text back : List Char} (is : text ∈ Grammar.number)
    (before : Blanks front) (after : Blanks back) (depth : Nat) :
    (∃ number, Stands depth (front ++ text ++ back) (.number number) ∧
        ∀ n : Integer, 0 ≤ n.val →
          (number = .integer n ↔ text ∈ Grammar.whole ∧ n.val = numberOf text)) ∨
      (Unreadable (front ++ text ++ back) ∧
        ∀ n : Integer, 0 ≤ n.val → ¬(text ∈ Grammar.whole ∧ n.val = numberOf text)) := by
  obtain ⟨numeral, token, spelt, lexeme, alone, inFront⟩ := Lexer.exists_token is before after
  -- Only a number out of range is not sound; where it stands is told by its fault.
  by_cases sound : token.lexeme.IsSound
  · left
    have isNumber := sound
    rw [lexeme] at isNumber
    obtain ⟨number, isNumber⟩ := Numeral.exists_number isNumber
    refine ⟨number, ⟨_, cutsInFront_of_isSound (by rw [alone]; simpa using sound), ?_⟩, ?_⟩
    · rw [alone, List.map_singleton, lexeme, isNumber]
      exact (spells_number number).mono (Nat.zero_le depth)
    · intro n natural
      have integer := spelt.integer token.stop n natural
      rwa [isNumber, Lexeme.number.injEq] at integer
  · right
    refine ⟨unreadable_of_token sound inFront, ?_⟩
    intro n natural whole
    rw [lexeme, (spelt.integer token.stop n natural).mpr whole] at sound
    exact sound trivial

end ContextStream.Json
