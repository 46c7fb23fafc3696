import ContextStream.Json.Printer
import ContextStream.Proofs.Decimal.Shortest
import ContextStream.Proofs.Iri.Words
import ContextStream.Proofs.Json.Values
import ContextStream.Proofs.Text.Digits

/-!
# The grammar of JSON

The rules of RFC 8259, each as a language. Values are nested; the rule for values that are
nested so many times uses the one for values that are nested less. Every value is written
as a word of it, whatever numbers and strings it holds.
-/

namespace ContextStream.Json

open scoped Computability
open Iri.Grammar

namespace Grammar

/-- Blanks, `ws`. -/
def blanks : Language Char :=
  (one fun c => c ∈ [' ', '\t', '\n', '\r'])∗

/-- A symbol between blanks. -/
def symbol (c : Char) : Language Char :=
  blanks * sign c * blanks

/-- One certain word. -/
def word (text : String) : Language Char :=
  {text.toList}

/-! ## Numbers -/

/-- Any number of digits, but one at least. -/
def digits : Language Char :=
  one Char.isDigit * (one Char.isDigit)∗

/-- Digits but zero, `digit1-9`. -/
def isLeadingDigit (c : Char) : Bool :=
  c.isDigit && c != '0'

/-- `int`. -/
def whole : Language Char :=
  sign '0' + one isLeadingDigit * (one Char.isDigit)∗

/-- `frac`. -/
def fraction : Language Char :=
  sign '.' * digits

/-- `exp`. -/
def exponent : Language Char :=
  one (fun c => c == 'e' || c == 'E') * optional (one fun c => c == '+' || c == '-') * digits

/-- A number without a sign. -/
def magnitude : Language Char :=
  whole * optional fraction * optional exponent

/-- `number`. -/
def number : Language Char :=
  optional (sign '-') * magnitude

/-! ## Strings -/

/-- Characters that stand for themselves, `unescaped`. -/
def isPlain (c : Char) : Bool :=
  0x20 ≤ c.toNat && c != '"' && c != '\\'

/-- Letters that stand for a character behind a backslash. -/
def isEscapeLetter (c : Char) : Bool :=
  c ∈ ['"', '\\', '/', 'b', 'f', 'n', 'r', 't']

/-- `char`. -/
def character : Language Char :=
  one isPlain + sign '\\' * one isEscapeLetter + sign '\\' * sign 'u' * one isHexDigit ^ 4

/-- `string`. -/
def string : Language Char :=
  sign '"' * (character∗ * sign '"')

/-! ## Values -/

/-- Parts with commas between them. -/
def commaSeparated (rule : Language Char) : Language Char :=
  optional (rule * (symbol ',' * rule)∗)

/-- `array`, with a rule for its items. -/
def list (rule : Language Char) : Language Char :=
  symbol '[' * (commaSeparated rule * symbol ']')

/-- `member`, with a rule for its value. -/
def member (rule : Language Char) : Language Char :=
  string * (symbol ':' * rule)

/-- `object`, with a rule for the values of its members. -/
def object (rule : Language Char) : Language Char :=
  symbol '\x7b' * (commaSeparated (member rule) * symbol '\x7d')

/-- Values without parts. -/
def scalar : Language Char :=
  word "null" + word "true" + word "false" + number + string

/-- Values that are nested at most so many times. -/
def valueWithin : Nat → Language Char
  | 0 => scalar
  | levels + 1 => scalar + list (valueWithin levels) + object (valueWithin levels)

/-- `value`. -/
def value : Language Char :=
  {text | ∃ levels, text ∈ valueWithin levels}

/-! ## Written numbers -/

section Numbers

variable {c : Char} {text tail : List Char}

theorem mem_digits (isDigit : c.isDigit = true) (others : ∀ d ∈ tail, d.isDigit = true) :
    c :: tail ∈ digits :=
  Language.append_mem_mul (singleton_mem_one isDigit) (mem_kstar_one_iff.mpr others)

theorem mem_digits_of_ne_nil (all : ∀ d ∈ text, d.isDigit = true) (some? : text ≠ []) :
    text ∈ digits := by
  obtain ⟨c, tail, rfl⟩ := List.exists_cons_of_ne_nil some?
  obtain ⟨first, others⟩ := List.forall_mem_cons.mp all
  exact mem_digits first others

theorem mem_whole (leading : isLeadingDigit c = true) (others : ∀ d ∈ tail, d.isDigit = true) :
    c :: tail ∈ whole :=
  Or.inr (Language.append_mem_mul (singleton_mem_one leading) (mem_kstar_one_iff.mpr others))

/-- A single digit is a whole number. -/
theorem mem_whole_of_digit (isDigit : c.isDigit = true) : [c] ∈ whole := by
  by_cases zero : c = '0'
  · exact Or.inl (zero ▸ mem_sign c)
  · exact mem_whole (by simp [isLeadingDigit, isDigit, zero]) nofun

theorem isDigit_toDigits (n : Nat) : ∀ c ∈ Nat.toDigits 10 n, c.isDigit = true :=
  fun _ isDigit => Nat.isDigit_of_mem_toDigits (by decide) (by decide) isDigit

theorem isLeadingDigit_digitChar {n : Nat} (small : n < 10) (positive : n ≠ 0) :
    isLeadingDigit n.digitChar = true := by
  revert n
  decide

/-- A number other than zero begins with another digit. -/
theorem exists_leadingDigit {n : Nat} (positive : n ≠ 0) :
    ∃ c tail, Nat.toDigits 10 n = c :: tail ∧ isLeadingDigit c = true := by
  induction n using Nat.strongRecOn with
  | ind n ih =>
      by_cases small : n < 10
      · exact ⟨n.digitChar, [], Nat.toDigits_of_lt_base small,
          isLeadingDigit_digitChar small positive⟩
      · obtain ⟨c, tail, front, leading⟩ := ih (n / 10) (by omega) (by omega)
        refine ⟨c, tail ++ [(n % 10).digitChar], ?_, leading⟩
        rw [Nat.toDigits_of_base_le (by decide) (by omega), front, List.cons_append]

theorem toDigits_mem_whole (n : Nat) : Nat.toDigits 10 n ∈ whole := by
  by_cases zero : n = 0
  · exact zero ▸ mem_whole_of_digit (by decide)
  · obtain ⟨c, tail, written, leading⟩ := exists_leadingDigit zero
    have all := isDigit_toDigits n
    rw [written] at all ⊢
    exact mem_whole leading (List.forall_mem_cons.mp all).2

theorem mem_magnitude {front middle back : List Char} (isWhole : front ∈ whole)
    (isFraction : middle ∈ optional fraction) (isExponent : back ∈ optional exponent) :
    front ++ middle ++ back ∈ magnitude :=
  Language.append_mem_mul (Language.append_mem_mul isWhole isFraction) isExponent

theorem toString_mem_number (n : Int) : (toString n).toList ∈ number := by
  have plain (n : Nat) : Nat.toDigits 10 n ∈ magnitude := by
    simpa using mem_magnitude (toDigits_mem_whole n) nil_mem_optional nil_mem_optional
  cases n with
  | ofNat n =>
      rw [Text.toList_toString_ofNat]
      exact Language.append_mem_mul nil_mem_optional (plain n)
  | negSucc n =>
      rw [Text.toList_toString_negSucc]
      exact Language.append_mem_mul (mem_optional_of_mem (mem_sign '-')) (plain (n + 1))

theorem isDigit_replicate_zero (count : Nat) :
    ∀ d ∈ List.replicate count '0', d.isDigit = true := by
  intro d isZero
  rw [List.eq_of_mem_replicate isZero]
  decide

theorem pointZero_mem_optional (pointZero : Bool) :
    (if pointZero then ['.', '0'] else []) ∈ optional fraction := by
  cases pointZero
  · exact nil_mem_optional
  · exact mem_optional_of_mem (cons_mem_sign_mul (mem_digits (by decide) nofun))

/-- Digits of which the first is not zero are a number wherever the point is put. -/
theorem plain_mem_magnitude (layout : Decimal.Layout) (leading : isLeadingDigit c = true)
    (others : ∀ d ∈ tail, d.isDigit = true) (position : Int) :
    layout.plain (c :: tail) position ∈ magnitude := by
  have all : ∀ d ∈ c :: tail, d.isDigit = true :=
    List.forall_mem_cons.mpr ⟨(Bool.and_eq_true_iff.mp leading).1, others⟩
  rw [Decimal.Layout.plain]
  by_cases below : position < 0
  · have behind := List.forall_mem_append.mpr
      ⟨isDigit_replicate_zero (-position - 1).toNat, all⟩
    have isFraction := cons_mem_sign_mul (c := '.') (mem_digits_of_ne_nil behind (by simp))
    have zero := mem_whole_of_digit (by decide : '0'.isDigit = true)
    simpa [below] using mem_magnitude zero (mem_optional_of_mem isFraction) nil_mem_optional
  · rw [if_neg below]
    by_cases short : (c :: tail).length ≤ position.toNat + 1
    · have isWhole := mem_whole leading (List.forall_mem_append.mpr
        ⟨others, isDigit_replicate_zero (position.toNat + 1 - (c :: tail).length)⟩)
      have number := mem_magnitude isWhole (pointZero_mem_optional layout.pointZero)
        nil_mem_optional
      rw [if_pos short]
      simpa using number
    · have isWhole : c :: tail.take position.toNat ∈ whole :=
        mem_whole leading fun d isFront => others d (List.mem_of_mem_take isFront)
      have behind : ∀ d ∈ tail.drop position.toNat, d.isDigit = true :=
        fun d isBehind => others d (List.mem_of_mem_drop isBehind)
      have some? : tail.drop position.toNat ≠ [] := by
        intro none?
        rw [List.drop_eq_nil_iff] at none?
        exact short (Nat.succ_le_succ none?)
      have isFraction := cons_mem_sign_mul (c := '.') (mem_digits_of_ne_nil behind some?)
      have number := mem_magnitude isWhole (mem_optional_of_mem isFraction) nil_mem_optional
      rw [if_neg short]
      simpa using number

/-- Digits in front of an exponent are a number. -/
theorem scientific_mem_magnitude (isDigit : c.isDigit = true)
    (others : ∀ d ∈ tail, d.isDigit = true) (position : Int) :
    Decimal.scientific (c :: tail) position ∈ magnitude := by
  have isFraction :
      (if (c :: tail).length ≤ 1 then [] else '.' :: (c :: tail).drop 1) ∈ optional fraction := by
    split
    · exact nil_mem_optional
    · next long =>
        have some? : tail ≠ [] := by
          rintro rfl
          exact long (Nat.le_refl 1)
        exact mem_optional_of_mem (cons_mem_sign_mul (mem_digits_of_ne_nil others some?))
  have isMark : ['e'] ∈ one (fun c => c == 'e' || c == 'E') := singleton_mem_one rfl
  have isSign : [if position < 0 then '-' else '+'] ∈ one (fun c => c == '+' || c == '-') := by
    split <;> exact singleton_mem_one rfl
  have isExponent : ['e', if position < 0 then '-' else '+'] ++ Nat.toDigits 10 position.natAbs ∈
      exponent :=
    Language.append_mem_mul (Language.append_mem_mul isMark (mem_optional_of_mem isSign))
      (mem_digits_of_ne_nil (isDigit_toDigits _) Nat.toDigits_ne_nil)
  have number := mem_magnitude (mem_whole_of_digit isDigit) isFraction
    (mem_optional_of_mem isExponent)
  simpa [Decimal.scientific] using number

/-- Every floating point number is written as a number. -/
theorem float_mem_number (layout : Decimal.Layout) (x : Float) :
    (layout.float x).toList ∈ number := by
  rw [Decimal.Layout.float, String.toList_ofList]
  refine Language.append_mem_mul ?_ ?_
  · split
    · exact mem_optional_of_mem (mem_sign '-')
    · exact nil_mem_optional
  · split
    · have zero := mem_magnitude (mem_whole_of_digit (by decide : '0'.isDigit = true))
        (pointZero_mem_optional layout.pointZero) nil_mem_optional
      simpa [Decimal.Layout.plain] using zero
    · next positive =>
        obtain ⟨c, tail, written, leading⟩ :=
          exists_leadingDigit (Decimal.Binary.digits_shortest_ne_zero positive)
        have all := isDigit_toDigits (Decimal.Binary.ofFloat x).shortest.digits
        rw [written, List.forall_mem_cons] at all
        rw [Decimal.Layout.decimal, written]
        split
        · exact plain_mem_magnitude layout leading all.2 _
        · exact scientific_mem_magnitude all.1 all.2 _

theorem text_mem_number (n : Number) : n.text.toList ∈ number := by
  cases n with
  | integer n => exact toString_mem_number n.val
  | double x => exact float_mem_number Number.layout x

end Numbers

/-! ## Written strings -/

theorem isHexDigit_digit {n : Nat} (small : n < 16) : isHexDigit (Text.Hex.digit n) = true := by
  revert n
  decide

theorem fixed_mem_pow (width n : Nat) : Text.Hex.fixed width n ∈ one isHexDigit ^ width := by
  induction width generalizing n with
  | zero => rfl
  | succ width ih =>
      rw [pow_succ]
      exact Language.append_mem_mul (ih (n / 16))
        (singleton_mem_one (isHexDigit_digit (Nat.mod_lt n (by decide))))

/-- Every character is written as a character, or as an escape. -/
theorem escape_mem_character (c : Char) : Json.escape c ∈ character := by
  have letter {letter : Char} (is : isEscapeLetter letter = true) :
      ['\\', letter] ∈ character :=
    Or.inl (Or.inr (cons_mem_sign_mul (singleton_mem_one is)))
  unfold Json.escape
  -- Seven characters have a letter of their own.
  iterate 7
    split
    · exact letter (by decide)
  split
  · have code := Language.append_mem_mul
      (cons_mem_sign_mul (c := '\\') (mem_sign 'u')) (fixed_mem_pow 4 c.toNat)
    exact Or.inr code
  · next noQuote noEscape _ _ _ _ _ noControl =>
      refine Or.inl (Or.inl (singleton_mem_one ?_))
      simp [isPlain, noQuote, noEscape, Nat.not_lt.mp noControl]

theorem quote_mem_string (s : String) : quote s ∈ string := by
  have characters (chars : List Char) : chars.flatMap Json.escape ∈ character∗ := by
    induction chars with
    | nil => exact Language.nil_mem_kstar _
    | cons c chars ih => exact append_mem_kstar (escape_mem_character c) ih
  exact cons_mem_sign_mul (Language.append_mem_mul (characters s.toList) (mem_sign '"'))

/-! ## Written values -/

variable {rule : Language Char}

theorem mem_word (text : String) : text.toList ∈ word text :=
  rfl

theorem mem_symbol (c : Char) : [c] ∈ symbol c := by
  have none? : [] ∈ blanks := Language.nil_mem_kstar _
  exact Language.append_mem_mul (Language.append_mem_mul none? (mem_sign c)) none?

/-- A symbol stands in front of a word. -/
theorem cons_mem_symbol_mul {c : Char} {word : List Char} (is : word ∈ rule) :
    c :: word ∈ symbol c * rule :=
  Language.append_mem_mul (mem_symbol c) is

theorem joinWith_mem_commaSeparated {words : List (List Char)}
    (all : ∀ word ∈ words, word ∈ rule) : Text.joinWith [','] words ∈ commaSeparated rule := by
  cases words with
  | nil => exact nil_mem_optional
  | cons word words =>
      obtain ⟨first, others⟩ := List.forall_mem_cons.mp all
      refine mem_optional_of_mem (Language.append_mem_mul first ?_)
      clear all
      induction words with
      | nil => exact Language.nil_mem_kstar _
      | cons next words ih =>
          obtain ⟨second, others⟩ := List.forall_mem_cons.mp others
          exact append_mem_kstar (cons_mem_symbol_mul second) (ih others)

theorem writeMembers_mem_object {members : List (String × List Char)}
    (all : ∀ member ∈ members, member.2 ∈ rule) : writeMembers members ∈ object rule := by
  refine cons_mem_symbol_mul (Language.append_mem_mul (joinWith_mem_commaSeparated ?_)
    (mem_symbol '\x7d'))
  intro word isMember
  obtain ⟨⟨key, text⟩, memberMem, rfl⟩ := List.mem_map.mp isMember
  exact Language.append_mem_mul (quote_mem_string key) (cons_mem_symbol_mul (all _ memberMem))

end Grammar

open Grammar

theorem compactItems_eq_map (items : List Value) :
    compactItems items = items.map Value.compact := by
  induction items with
  | nil => rfl
  | cons item items ih => rw [compactItems, List.map_cons, ih]

theorem compactMembers_eq_map (members : List (String × Value)) :
    compactMembers members = members.map fun member => (member.1, member.2.compact) := by
  induction members with
  | nil => rfl
  | cons member members ih => rw [compactMembers, List.map_cons, ih]

theorem mem_valueWithin_of_scalar {text : List Char} (is : text ∈ scalar) (levels : Nat) :
    text ∈ valueWithin levels := by
  cases levels with
  | zero => exact is
  | succ levels => exact Or.inl (Or.inl is)

/-- A value is written as a word of the grammar, which is nested as often as the value. -/
theorem Value.compact_mem_valueWithin {value : Value} {levels : Nat} (fits : value.depth ≤ levels) :
    value.compact ∈ valueWithin levels := by
  induction value using Value.induction generalizing levels with
  | null => exact mem_valueWithin_of_scalar (.inl (.inl (.inl (.inl rfl)))) levels
  | bool b =>
      cases b
      · exact mem_valueWithin_of_scalar (.inl (.inl (.inr rfl))) levels
      · exact mem_valueWithin_of_scalar (.inl (.inl (.inl (.inr rfl)))) levels
  | number n => exact mem_valueWithin_of_scalar (.inl (.inr (text_mem_number n))) levels
  | string s => exact mem_valueWithin_of_scalar (.inr (quote_mem_string s)) levels
  | list items ih =>
      obtain ⟨levels, rfl⟩ := Nat.exists_eq_add_of_le' (Nat.one_le_of_lt fits)
      have inside := depthOfItems_le_iff.mp (Nat.le_of_succ_le_succ fits)
      refine Or.inl (Or.inr (cons_mem_symbol_mul (Language.append_mem_mul
        (joinWith_mem_commaSeparated ?_) (mem_symbol ']'))))
      intro text isItem
      rw [compactItems_eq_map] at isItem
      obtain ⟨item, itemMem, rfl⟩ := List.mem_map.mp isItem
      exact ih item itemMem (inside item itemMem)
  | object members ih =>
      obtain ⟨levels, rfl⟩ := Nat.exists_eq_add_of_le' (Nat.one_le_of_lt fits)
      have inside := depthOfMembers_le_iff.mp (Nat.le_of_succ_le_succ fits)
      refine Or.inr (writeMembers_mem_object ?_)
      intro written isMember
      rw [compactMembers_eq_map] at isMember
      obtain ⟨member, memberMem, rfl⟩ := List.mem_map.mp isMember
      exact ih member memberMem (inside member memberMem)

theorem Value.compact_mem_value (value : Value) : value.compact ∈ Grammar.value :=
  ⟨value.depth, value.compact_mem_valueWithin (Nat.le_refl _)⟩

end ContextStream.Json
