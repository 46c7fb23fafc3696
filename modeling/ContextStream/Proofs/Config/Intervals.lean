import ContextStream.Proofs.Config.Loading
import ContextStream.Proofs.Json.Forms
import ContextStream.Proofs.Json.Numerals

/-!
# Numbers that are intervals

The interval of a configuration is written as any number. The text is loaded exactly if the
number is whole, other than zero and fits sixty-four bits; then the interval is this number, and
all else is as it was.
-/

namespace ContextStream.Config

open Json

variable {config loaded : Config}

/-- A text of an object is loaded as what its members hold. -/
theorem parse_eq_ok_iff_holds {text : String} {members : List (String × Value)}
    (read : Json.parse text = .ok (.object members)) :
    parse text = .ok loaded ↔ Holds members loaded := by
  rw [← ofMembers_eq_ok_iff]
  cases given : ofMembers members <;>
    simp [parse, read, ofValue, given, Except.mapError, bind, Except.bind]

/-- Members that differ in the interval hold the same configuration up to the interval. -/
theorem Holds.holds_iff {members others : List (String × Value)} (holds : Holds members config)
    (same : ∀ name ≠ "generateEvery", member? name others = member? name members) :
    Holds others loaded ↔
      IsIntervalOf (member? "generateEvery" others) loaded.interval ∧
        loaded = { config with interval := loaded.interval } := by
  constructor
  · intro other
    have iri {name : String} {mine theirs : Iri} (different : name ≠ "generateEvery")
        (isMine : member? name members = some (.string mine.text))
        (isTheirs : member? name others = some (.string theirs.text)) : theirs = mine := by
      rw [same name different, isMine] at isTheirs
      simpa [Iri.text_inj, eq_comm] using isTheirs
    refine ⟨other.interval, ?_⟩
    obtain ⟨type, subject, object, hub, stream, interval⟩ := loaded
    simp only [Config.mk.injEq, and_true]
    exact ⟨iri (by decide) holds.assertionType other.assertionType,
      iri (by decide) holds.assertionSubject other.assertionSubject,
      iri (by decide) holds.assertionObject other.assertionObject,
      iri (by decide) holds.hub other.hub, iri (by decide) holds.stream other.stream⟩
  · rintro ⟨interval, is⟩
    rw [is]
    have kept {name : String} {value : Option Value} (different : name ≠ "generateEvery")
        (is : member? name members = value) : member? name others = value :=
      (same name different).trans is
    exact ⟨kept (by decide) holds.assertionType, kept (by decide) holds.assertionSubject,
      kept (by decide) holds.assertionObject, kept (by decide) holds.hub,
      kept (by decide) holds.stream, interval, holds.domainType⟩

/-- A number is an interval if it is an integer other than zero, and then no other one. -/
theorem isIntervalOf_number_iff {number : Number} {interval : Nat} :
    IsIntervalOf (some (.number number)) interval ↔
      ∃ n : Integer, number = .integer n ∧ 1 ≤ n.val ∧ interval = 1000 * n.val.toNat := by
  simp [IsIntervalOf, Nat.mul_comm]

theorem exists_integer {n : Nat} (fits : n < 2 ^ 64) : ∃ integer : Integer, integer.val = n :=
  ⟨⟨n, by omega, by omega⟩, rfl⟩

/-- A number as the interval of a configuration that is otherwise valid is loaded exactly if it
has no sign, no fraction and no exponent, and its value is neither zero nor too large for
sixty-four bits. Then so many seconds are the interval. -/
theorem parse_literal_iff (form : Form "generateEvery" Foreign) {literal : List Char}
    (valid : parse (form.text ['1']) = .ok config) (number : literal ∈ Grammar.number)
    (loaded : Config) :
    parse (form.text literal) = .ok loaded ↔
      (literal ∈ Grammar.whole ∧ 1 ≤ Grammar.numberOf literal ∧
        Grammar.numberOf literal < 2 ^ 64) ∧
        loaded = { config with interval := 1000 * Grammar.numberOf literal } := by
  obtain ⟨-, left, right, -⟩ := form.blanks
  obtain ⟨object, read, own, others⟩ :=
    form.exists_object (fun _ => exists_stands_of_foreign) (by decide)
  have digit : IsInteger (1 : Nat) (form.value ['1']) := .between left right
  have one := stands_isInteger (n := ⟨(1 : Nat), by decide, by decide⟩) digit 126
  have holds := (parse_eq_ok_iff_holds (read _ _ one)).mp valid
  rcases stands_or_unreadable number left right 126 with
    ⟨n, stands, natural⟩ | ⟨unreadable, natural⟩
  · rw [parse_eq_ok_iff_holds (read _ _ stands), holds.holds_iff fun _ other => others _ other _ _,
      own, isIntervalOf_number_iff]
    constructor
    · rintro ⟨⟨seconds, isSeconds, positive, interval⟩, is⟩
      obtain ⟨whole, same⟩ := (natural seconds (by omega)).mp isSeconds
      have upper := seconds.upper
      refine ⟨⟨whole, by omega, by omega⟩, ?_⟩
      rw [is, interval, same, Int.toNat_natCast]
    · rintro ⟨⟨whole, positive, fits⟩, rfl⟩
      obtain ⟨seconds, same⟩ := exists_integer fits
      have isSeconds := (natural seconds (by omega)).mpr ⟨whole, same⟩
      refine ⟨⟨seconds, isSeconds, by omega, ?_⟩, rfl⟩
      rw [same, Int.toNat_natCast]
  · refine iff_of_false ?_ ?_
    · intro accepted
      obtain ⟨members, isRead, -⟩ := exists_members_of_parse accepted
      exact form.parse_of_unreadable (fun _ => exists_stands_of_foreign) unreadable _ isRead
    · rintro ⟨⟨whole, -, fits⟩, -⟩
      obtain ⟨seconds, same⟩ := exists_integer fits
      exact natural seconds (by omega) ⟨whole, same⟩

/-- A text in which keys stand twice, and the last one counts. -/
def crowdedForm : Form "generateEvery" Foreign where
  front := ['\n']
  earlier :=
    [.ofPart ("generateEvery", ['0']), .ofPart ("hubURI", quote "ex:hub"),
      .ofPart ("streamURI", quote "nowhere"), .ofPart ("assertionObject", quote "ex:lab308"),
      .ofPart ("assertionSubject", quote "ex:alex")]
  name := quote "generateEvery"
  left := [' ']
  right := ['\n']
  later :=
    [.ofPart ("assertionType", quote "ex:LocatedAt"), .ofPart ("streamURI", quote "ex:s1"),
      .ofPart ("note", ['[', '[', ']', ']'])]
  back := []
  spelled := isString_quote "generateEvery"
  blank := by decide
  last := by simp [Member.ofPart]
  others := by
    have zero : Foreign ['0'] := ⟨⟨.number (.integer ⟨0, by decide, by decide⟩), rfl⟩, by decide⟩
    have lists : Foreign ['[', '[', ']', ']'] := ⟨⟨.list [.list []], rfl⟩, by decide⟩
    simp [Member.ofPart, foreign_quote, zero, lists]

/-- The configuration that this text gives, with an interval of so many seconds. -/
def crowdedConfig (seconds : Nat) : Config where
  assertionType := ⟨"ex:LocatedAt", by decide +kernel⟩
  assertionSubject := ⟨"ex:alex", by decide +kernel⟩
  assertionObject := ⟨"ex:lab308", by decide +kernel⟩
  hub := ⟨"ex:hub", by decide +kernel⟩
  stream := ⟨"ex:s1", by decide +kernel⟩
  interval := 1000 * seconds

/-- The largest number of sixty-four bits is an interval. A number with an exponent is none, even
if its value is whole. -/
theorem parse_of_crowdedForm :
    parse (crowdedForm.text ['1']) = .ok (crowdedConfig 1) ∧
      parse (crowdedForm.text (Nat.toDigits 10 18446744073709551615)) =
        .ok (crowdedConfig 18446744073709551615) ∧
      ∀ loaded, parse (crowdedForm.text ['1', 'e', '3']) ≠ .ok loaded := by
  have valid : parse (crowdedForm.text ['1']) = .ok (crowdedConfig 1) :=
    parse_of_toOption (by decide +kernel)
  have largest : Nat.toDigits 10 18446744073709551615 ∈ Grammar.whole :=
    Grammar.toDigits_mem_whole _
  have value : Grammar.numberOf (Nat.toDigits 10 18446744073709551615) = 18446744073709551615 :=
    Nat.ofDigitChars_toDigits (by decide) (by decide)
  have one : ['1'] ∈ Grammar.whole := Grammar.mem_whole_of_digit (by decide)
  have exponent : ['e'] ++ [] ++ ['3'] ∈ Grammar.exponent :=
    Language.append_mem_mul
      (Language.append_mem_mul (Iri.Grammar.singleton_mem_one (by decide))
        Iri.Grammar.nil_mem_optional)
      (Grammar.mem_digits (by decide) nofun)
  refine ⟨valid, ?_, ?_⟩
  · refine (parse_literal_iff crowdedForm valid ?_ _).mpr ⟨⟨largest, ?_, ?_⟩, ?_⟩
    · have magnitude := Grammar.mem_magnitude largest Iri.Grammar.nil_mem_optional
        Iri.Grammar.nil_mem_optional
      rw [List.append_nil, List.append_nil] at magnitude
      exact Grammar.mem_number_of_magnitude magnitude
    · rw [value]
      decide
    · rw [value]
      decide
    · rw [value]
      rfl
  · intro loaded accepted
    have thousand : ['1'] ++ [] ++ (['e'] ++ [] ++ ['3']) ∈ Grammar.number :=
      Grammar.mem_number_of_magnitude (Grammar.mem_magnitude one
        Iri.Grammar.nil_mem_optional (Iri.Grammar.mem_optional_of_mem exponent))
    obtain ⟨⟨whole, -⟩, -⟩ := (parse_literal_iff crowdedForm valid thousand loaded).mp accepted
    have isDigit := Grammar.isDigit_of_mem_whole whole 'e' (by decide)
    cases isDigit

end ContextStream.Config
