import ContextStream.Json.Lexer
import ContextStream.Proofs.Json.Spelling
import ContextStream.Proofs.Text.Digits

/-!
# Texts and their lexemes

A text is cut into lexemes wherever a token may begin. Texts that are cut can be put
behind each other; symbols, written strings and written integers are cut as what
they are written for.
-/

namespace ContextStream.Json

open ContextStream.Text

namespace Lexer

/-- Wherever a token may begin, a text gives tokens of these lexemes, and then a token
may begin again. -/
def Cuts (text : List Char) (lexemes : List Lexeme) : Prop :=
  ∀ lexer : Lexer, lexer.mode = .between →
    ∃ tokens : List Token, tokens.map (·.lexeme) = lexemes ∧
      (text.foldl step lexer).mode = .between ∧
      (text.foldl step lexer).tokens = tokens.reverse ++ lexer.tokens

/-- Between two tokens nothing has to be completed. -/
theorem finish_of_between {lexer : Lexer} (between : lexer.mode = .between) :
    lexer.finish = lexer := by
  simp [finish, between]

theorem Cuts.append {front back : List Char} {lexemes lexemes' : List Lexeme}
    (first : Cuts front lexemes) (second : Cuts back lexemes') :
    Cuts (front ++ back) (lexemes ++ lexemes') := by
  intro lexer between
  obtain ⟨tokens, means, between, read⟩ := first lexer between
  obtain ⟨tokens', means', between', read'⟩ := second _ between
  refine ⟨tokens ++ tokens', by rw [List.map_append, means, means'], ?_, ?_⟩
  · rwa [List.foldl_append]
  · rw [List.foldl_append, read', read, List.reverse_append, List.append_assoc]

/-- A symbol is no other character that begins a token or goes on with one. -/
theorem symbol_plain {c : Char} {symbol : Symbol} (is : Symbol.ofChar? c = some symbol) :
    isBlank c = false ∧ c.isDigit = false ∧ c ≠ '.' ∧ c ≠ 'e' ∧ c ≠ 'E' := by
  unfold Symbol.ofChar? at is
  split at is
  case h_7 => cases is
  all_goals decide

theorem cuts_symbol {c : Char} {symbol : Symbol} (is : Symbol.ofChar? c = some symbol) :
    Cuts [c] [.symbol symbol] := by
  obtain ⟨visible, -⟩ := symbol_plain is
  intro lexer between
  refine ⟨[⟨.symbol symbol, lexer.offset, lexer.offset + 1⟩], rfl, ?_, ?_⟩ <;>
    simp [step, consume, between, begin, is, visible, emit]

/-- A blank goes on with no numeral. -/
theorem blank_plain {c : Char} (blank : isBlank c = true) :
    c.isDigit = false ∧ c ≠ '.' ∧ c ≠ 'e' ∧ c ≠ 'E' := by
  simp only [isBlank, Bool.or_eq_true, beq_iff_eq] at blank
  rcases blank with ((rfl | rfl) | rfl) | rfl <;> decide

/-- Blanks are no lexemes. -/
theorem cuts_blanks {text : List Char} (blank : Blanks text) : Cuts text [] := by
  induction text with
  | nil => exact fun lexer between => ⟨[], rfl, between, rfl⟩
  | cons c text ih =>
      obtain ⟨first, others⟩ := List.forall_mem_cons.mp blank
      have single : Cuts [c] [] := by
        intro lexer between
        refine ⟨[], rfl, ?_, ?_⟩ <;> simp [step, consume, between, begin, first]
      exact single.append (ih others)

/-! ## Strings -/

/-- The lexer has given tokens and is in a string behind some characters, the last one
first. -/
structure InString (start : Nat) (chars : List Char) (given : List Token) (lexer : Lexer) :
    Prop where
  mode : lexer.mode = .literal start ⟨chars, none, none, .plain⟩
  tokens : lexer.tokens = given

/-- The lexer is in a string behind the first half of a pair. -/
structure InPair (start : Nat) (chars : List Char) (first : Nat) (given : List Token)
    (lexer : Lexer) : Prop where
  mode : lexer.mode = .literal start ⟨chars, some first, none, .plain⟩
  tokens : lexer.tokens = given

/-- The lexer is in an escape in a string, of which some digits were read. -/
structure InCode (start : Nat) (chars : List Char) (half : Option Nat) (count value : Nat)
    (given : List Token) (lexer : Lexer) : Prop where
  mode : ∃ offset, lexer.mode = .literal start ⟨chars, half, none, .digits offset count value⟩
  tokens : lexer.tokens = given

variable {lexer : Lexer} {start : Nat} {chars : List Char} {given : List Token}

/-- A character that needs no escape stands for itself. -/
theorem InString.plain (inside : InString start chars given lexer) {c : Char}
    (noQuote : c ≠ '"') (noEscape : c ≠ '\\') (noControl : ¬c.toNat < 0x20) :
    InString start (c :: chars) given (lexer.step c) := by
  constructor <;>
    simp [step, consume, inside.mode, inside.tokens, Literal.step, noQuote, noEscape, noControl,
      Literal.push]

/-- A letter behind a backslash stands for a character. -/
theorem InString.letter (inside : InString start chars given lexer) {letter c : Char}
    (noCode : letter ≠ 'u') (means : Literal.escaped? letter = some c) :
    InString start (c :: chars) given (['\\', letter].foldl step lexer) := by
  constructor <;>
    simp [step, consume, inside.mode, inside.tokens, Literal.step, noCode, means, Literal.push]

theorem InString.beginCode (inside : InString start chars given lexer) :
    InCode start chars none 0 0 given (['\\', 'u'].foldl step lexer) := by
  constructor <;> simp [step, consume, inside.mode, inside.tokens, Literal.step]

theorem InPair.beginCode {first : Nat} (inside : InPair start chars first given lexer) :
    InCode start chars (some first) 0 0 given (['\\', 'u'].foldl step lexer) := by
  constructor <;> simp [step, consume, inside.mode, inside.tokens, Literal.step]

/-- A character is no half of a pair. -/
theorem toNat_noHalf (c : Char) :
    ¬(0xdc00 ≤ c.toNat ∧ c.toNat < 0xe000) ∧ ¬(0xd800 ≤ c.toNat ∧ c.toNat < 0xdc00) := by
  have valid : c.toNat.isValidChar := c.valid
  unfold Nat.isValidChar at valid
  omega

section Codes

variable {half : Option Nat} {first count value n : Nat} {d c : Char}

theorem InCode.digit (inside : InCode start chars half count value given lexer)
    (more : count < 3) (is : Hex.value? d = some n) :
    InCode start chars half (count + 1) (16 * value + n) given (lexer.step d) := by
  obtain ⟨⟨offset, mode⟩, tokens⟩ := inside
  constructor <;> simp [step, consume, mode, tokens, Literal.step, is, more]

/-- The last digit completes a character of the first plane. -/
theorem InCode.complete (inside : InCode start chars none 3 value given lexer)
    (is : Hex.value? d = some n) (means : 16 * value + n = c.toNat) :
    InString start (c :: chars) given (lexer.step d) := by
  obtain ⟨⟨offset, mode⟩, tokens⟩ := inside
  obtain ⟨noSecond, noFirst⟩ := toNat_noHalf c
  constructor <;>
    simp [step, consume, mode, tokens, Literal.step, is, means, Literal.pushCode, noSecond,
      noFirst, Literal.push]

/-- The last digit completes the first half of a pair. -/
theorem InCode.beginPair (inside : InCode start chars none 3 value given lexer)
    (is : Hex.value? d = some n) (means : 16 * value + n = first)
    (half : 0xd800 ≤ first ∧ first < 0xdc00) : InPair start chars first given (lexer.step d) := by
  obtain ⟨⟨offset, mode⟩, tokens⟩ := inside
  have noSecond : ¬(0xdc00 ≤ first ∧ first < 0xe000) := by omega
  constructor <;>
    simp [step, consume, mode, tokens, Literal.step, is, means, Literal.pushCode, noSecond, half]

/-- The last digit completes the second half of a pair, and the character of the pair. -/
theorem InCode.completePair (inside : InCode start chars (some first) 3 value given lexer)
    (is : Hex.value? d = some n) {second : Nat} (means : 16 * value + n = second)
    (half : 0xdc00 ≤ second ∧ second < 0xe000)
    (pair : 0x10000 + (first - 0xd800) * 0x400 + (second - 0xdc00) = c.toNat) :
    InString start (c :: chars) given (lexer.step d) := by
  obtain ⟨⟨offset, mode⟩, tokens⟩ := inside
  constructor <;>
    simp [step, consume, mode, tokens, Literal.step, is, means, Literal.pushCode, half, pair,
      Literal.push]

end Codes

theorem escaped?_of_mem {letter c : Char} (means : (letter, c) ∈ letters) :
    letter ≠ 'u' ∧ Literal.escaped? letter = some c := by
  simp only [letters, List.mem_cons, List.not_mem_nil, Prod.mk.injEq, or_false] at means
  rcases means with
    ⟨rfl, rfl⟩ | ⟨rfl, rfl⟩ | ⟨rfl, rfl⟩ | ⟨rfl, rfl⟩ | ⟨rfl, rfl⟩ | ⟨rfl, rfl⟩ | ⟨rfl, rfl⟩ |
      ⟨rfl, rfl⟩ <;>
    exact ⟨by decide, rfl⟩

/-- Three digits lead in front of the fourth one. -/
theorem InCode.three {half : Option Nat} (inside : InCode start chars half 0 0 given lexer)
    {digits : List Char} {n : Nat} (code : Code digits n) :
    ∃ front d value l, digits = front ++ [d] ∧ Hex.value? d = some l ∧ 16 * value + l = n ∧
      InCode start chars half 3 value given (front.foldl step lexer) := by
  cases code with
  | @digits a b c d i j k l first second third fourth =>
      have one := inside.digit (by decide) first
      have two := one.digit (by decide) second
      have three := two.digit (by decide) third
      exact ⟨[a, b, c], d, _, l, rfl, fourth, by omega, three⟩

/-- Four digits stand for the character that they are the number of. -/
theorem InString.ofCode (inside : InString start chars given lexer) {digits : List Char} {c : Char}
    (code : Code digits c.toNat) :
    InString start (c :: chars) given (('\\' :: 'u' :: digits).foldl step lexer) := by
  obtain ⟨front, d, value, l, rfl, is, means, three⟩ := inside.beginCode.three code
  simpa using three.complete is means

/-- Twice four digits stand for a character beyond the first plane. -/
theorem InString.ofPair (inside : InString start chars given lexer) {front back : List Char}
    {c : Char} (beyond : 0x10000 ≤ c.toNat)
    (first : Code front (0xd800 + (c.toNat - 0x10000) / 0x400))
    (second : Code back (0xdc00 + (c.toNat - 0x10000) % 0x400)) :
    InString start (c :: chars) given
      (('\\' :: 'u' :: front ++ '\\' :: 'u' :: back).foldl step lexer) := by
  have valid : c.toNat.isValidChar := c.valid
  unfold Nat.isValidChar at valid
  obtain ⟨front, d, value, l, rfl, is, means, three⟩ := inside.beginCode.three first
  have half := three.beginPair is means (by omega)
  obtain ⟨back, d', value', l', rfl, is', means', three'⟩ := half.beginCode.three second
  simpa using three'.completePair is' means' (by omega) (by omega)

/-- Between quotation marks a text is read as what it stands for. -/
theorem InString.spelling (inside : InString start chars given lexer) {body text : List Char}
    (spelled : Spelling body text) :
    InString start (text.reverse ++ chars) given (body.foldl step lexer) := by
  induction spelled generalizing chars lexer with
  | nil => exact inside
  | plain noQuote noEscape noControl _ ih =>
      simpa using ih (inside.plain noQuote noEscape (Nat.not_lt.mpr noControl))
  | letter means _ ih =>
      obtain ⟨noCode, means⟩ := escaped?_of_mem means
      simpa using ih (inside.letter noCode means)
  | code code _ ih =>
      rw [List.foldl_append]
      simpa using ih (inside.ofCode code)
  | pair beyond first second _ ih =>
      rw [List.foldl_append]
      simpa using ih (inside.ofPair beyond first second)

theorem InString.close (inside : InString start chars given lexer) :
    (lexer.step '"').mode = .between ∧
      (lexer.step '"').tokens =
        ⟨.string (String.ofList chars.reverse), start, lexer.offset + 1⟩ :: given := by
  simp [step, consume, inside.mode, inside.tokens, Literal.step, Literal.lexeme, emit]

/-- A string between blanks is cut as this string, however it is spelled. -/
theorem cuts_isString {s : String} {text : List Char} (is : IsString s text) :
    Cuts text [.string s] := by
  obtain @⟨front, body, back, before, spelled, after⟩ := is
  have quoted : Cuts ('"' :: body ++ ['"']) [.string s] := by
    intro lexer between
    have opened : InString lexer.offset [] lexer.tokens (lexer.step '"') := by
      constructor <;> simp [step, consume, between, begin, isBlank, Symbol.ofChar?, word?,
        Numeral.ofChar?, Literal.start]
    obtain ⟨closed, tokens⟩ := (opened.spelling spelled).close
    simp only [List.append_nil, List.reverse_reverse, String.ofList_toList] at tokens
    have whole : ('"' :: body ++ ['"']).foldl step lexer =
        (body.foldl step (lexer.step '"')).step '"' := by
      rw [List.foldl_append]
      rfl
    rw [whole]
    exact ⟨[_], rfl, closed, tokens⟩
  exact ((cuts_blanks before).append quoted).append (cuts_blanks after)

/-- A string is read as it is written. -/
theorem cuts_quote (s : String) : Cuts (quote s) [.string s] :=
  cuts_isString (isString_quote s)

/-! ## Integers -/

/-- The lexer has given tokens and begins a numeral, perhaps behind its sign. -/
inductive AtNumeral (start : Nat) (negative : Bool) (given : List Token) (lexer : Lexer) : Prop
  | positive (mode : lexer.mode = .between) (here : lexer.offset = start)
      (noSign : negative = false) (tokens : lexer.tokens = given)
  | signed (mode : lexer.mode = .numeral start ⟨negative, 0, 0, 0, false, none, .sign⟩)
      (tokens : lexer.tokens = given)

/-- The lexer has given tokens and is in a numeral of which all digits were read. -/
structure InNumeral (start : Nat) (negative : Bool) (n : Nat) (given : List Token)
    (lexer : Lexer) : Prop where
  mode : lexer.mode =
    .numeral start ⟨negative, n, 0, 0, false, none, if n = 0 then .zero else .whole⟩
  tokens : lexer.tokens = given

variable {negative : Bool}

/-- A digit has its value, and is no other character that begins a token. -/
theorem digitChar_plain {n : Nat} (small : n < 10) :
    n.digitChar.isDigit = true ∧ n.digitChar.toNat - 48 = n ∧ n.digitChar ≠ '-' ∧
      (n.digitChar = '0' ↔ n = 0) ∧ isBlank n.digitChar = false ∧
      Symbol.ofChar? n.digitChar = none ∧ (word? n.digitChar).isNone = true := by
  revert n
  decide

theorem AtNumeral.digit (begun : AtNumeral start negative given lexer) {n : Nat}
    (small : n < 10) : InNumeral start negative n given (lexer.step n.digitChar) := by
  obtain ⟨digit, value, noSign, zero, visible, noSymbol, noWord⟩ := digitChar_plain small
  have first : Numeral.ofChar? n.digitChar =
      some ⟨false, n, 0, 0, false, none, if n = 0 then .zero else .whole⟩ := by
    unfold Numeral.ofChar?
    by_cases null : n = 0 <;> simp [digit, value, noSign, zero, null]
  cases begun with
  | positive mode here unsigned tokens =>
      subst unsigned
      constructor <;>
        simp [step, consume, mode, begin, visible, noSymbol, Option.isNone_iff_eq_none.mp noWord,
          first, here, tokens]
  | signed mode tokens =>
      constructor <;> simp [step, consume, mode, Numeral.step, first, noSign, tokens]

theorem InNumeral.digit {n d : Nat} (inside : InNumeral start negative n given lexer)
    (positive : n ≠ 0) (small : d < 10) (fits : 10 * n + d < UInt64.size) :
    InNumeral start negative (10 * n + d) given (lexer.step d.digitChar) := by
  obtain ⟨digit, value, -⟩ := digitChar_plain small
  have still : 10 * n + d ≠ 0 := by omega
  constructor
  · rw [if_neg still]
    simp [step, consume, inside.mode, positive, Numeral.step, digit, value, Numeral.wholeDigit,
      fits]
  · simp [step, consume, inside.mode, inside.tokens, positive, Numeral.step, digit]

/-- Decimal digits are read as the number that they are written for. -/
theorem AtNumeral.digits (begun : AtNumeral start negative given lexer) {n : Nat}
    (fits : n < UInt64.size) :
    InNumeral start negative n given ((Nat.toDigits 10 n).foldl step lexer) := by
  induction n using Nat.strongRecOn with
  | ind n ih =>
      by_cases small : n < 10
      · rw [Nat.toDigits_of_lt_base small]
        exact begun.digit small
      · have front := ih (n / 10) (by omega) (by omega)
        rw [Nat.toDigits_of_base_le (by decide) (by omega), List.foldl_append]
        have whole := front.digit (by omega) (Nat.mod_lt n (by decide)) (by omega)
        rwa [Nat.div_add_mod] at whole

/-- A character that cannot go on with a whole number ends it. -/
theorem InNumeral.ends {n : Nat} (inside : InNumeral start negative n given lexer) {c : Char}
    (noDigit : c.isDigit = false) (noPoint : c ≠ '.') (noMark : c ≠ 'e' ∧ c ≠ 'E') :
    lexer.consume c =
      (lexer.emit (Numeral.exact ⟨negative, n, 0, 0, false, none, .zero⟩) start
        lexer.offset).begin c := by
  obtain ⟨noMark, noMark'⟩ := noMark
  by_cases null : n = 0 <;>
    simp [consume, inside.mode, null, Numeral.step, noDigit, Numeral.afterWhole, noPoint, noMark,
      noMark', Numeral.lexeme, Numeral.exact, Numeral.signed]

/-- A symbol behind a whole number ends it. -/
theorem InNumeral.symbol {n : Nat} (inside : InNumeral start negative n given lexer)
    {c : Char} {symbol : Symbol} (is : Symbol.ofChar? c = some symbol) :
    (lexer.step c).mode = .between ∧
      (lexer.step c).tokens =
        ⟨.symbol symbol, lexer.offset, lexer.offset + 1⟩ ::
          ⟨Numeral.exact ⟨negative, n, 0, 0, false, none, .zero⟩, start, lexer.offset⟩ ::
          given := by
  obtain ⟨visible, noDigit, noPoint, noMark⟩ := symbol_plain is
  simp [step, inside.ends noDigit noPoint noMark, inside.tokens, emit, begin, visible, is]

/-- A blank behind a whole number ends it. -/
theorem InNumeral.blank {n : Nat} (inside : InNumeral start negative n given lexer)
    {c : Char} (blank : isBlank c = true) :
    (lexer.step c).mode = .between ∧
      (lexer.step c).tokens =
        ⟨Numeral.exact ⟨negative, n, 0, 0, false, none, .zero⟩, start, lexer.offset⟩ ::
          given := by
  obtain ⟨noDigit, noPoint, noMark⟩ := blank_plain blank
  simp [step, inside.ends noDigit noPoint noMark, inside.tokens, emit, begin, blank]

/-- The digits of an integer, behind its sign, are an exact number. -/
theorem exact_eq_integer {n : Nat} (value : Integer)
    (is : value.val = if negative then -(n : Int) else n) (noNegativeZero : negative → n ≠ 0) :
    Numeral.exact ⟨negative, n, 0, 0, false, none, .zero⟩ = .number (.integer value) := by
  have noZero : ¬(negative = true ∧ n = 0) := fun ⟨signed, zero⟩ => noNegativeZero signed zero
  simp only [Numeral.exact, if_neg noZero, ← is]
  rw [dif_pos ⟨value.lower, value.upper⟩]

/-- The digits of an integer are read as this integer. -/
theorem exists_inNumeral (value : Integer) (between : lexer.mode = .between) :
    ∃ negative n,
      InNumeral lexer.offset negative n lexer.tokens
          ((toString value.val).toList.foldl step lexer) ∧
        Numeral.exact ⟨negative, n, 0, 0, false, none, .zero⟩ = .number (.integer value) := by
  have lower := value.lower
  have upper := value.upper
  have unsigned : AtNumeral lexer.offset false lexer.tokens lexer := .positive between rfl rfl rfl
  have signed : AtNumeral lexer.offset true lexer.tokens (lexer.step '-') := by
    apply AtNumeral.signed <;>
      simp [step, consume, between, begin, isBlank, Symbol.ofChar?, word?, Numeral.ofChar?]
  cases written : value.val with
  | ofNat n =>
      rw [written, Int.ofNat_eq_natCast] at upper
      have fits : n < UInt64.size := by unfold UInt64.size; omega
      rw [toList_toString_ofNat]
      exact ⟨_, _, unsigned.digits fits, exact_eq_integer value (by simp [written]) (by simp)⟩
  | negSucc n =>
      rw [written, Int.negSucc_eq] at lower
      have fits : n + 1 < UInt64.size := by unfold UInt64.size; omega
      rw [toList_toString_negSucc]
      exact ⟨_, _, signed.digits fits,
        exact_eq_integer value (by simp [written, Int.negSucc_eq]) (by simp)⟩

/-- An integer is read as it is written, in front of any symbol. -/
theorem cuts_integer (value : Integer) {c : Char} {symbol : Symbol}
    (is : Symbol.ofChar? c = some symbol) :
    Cuts ((toString value.val).toList ++ [c]) [.number (.integer value), .symbol symbol] := by
  intro lexer between
  obtain ⟨negative, n, inside, exact⟩ := exists_inNumeral value between
  obtain ⟨closed, tokens⟩ := inside.symbol is
  rw [exact] at tokens
  rw [List.foldl_append]
  exact ⟨[⟨_, _, _⟩, ⟨_, _, _⟩], rfl, closed, tokens⟩

/-- An integer is read as it is written, in front of any blank. -/
theorem cuts_integer_blank (value : Integer) {c : Char} (blank : isBlank c = true) :
    Cuts ((toString value.val).toList ++ [c]) [.number (.integer value)] := by
  intro lexer between
  obtain ⟨negative, n, inside, exact⟩ := exists_inNumeral value between
  obtain ⟨closed, tokens⟩ := inside.blank blank
  rw [exact] at tokens
  rw [List.foldl_append]
  exact ⟨[⟨_, _, _⟩], rfl, closed, tokens⟩

/-- An integer between blanks is cut as this integer, in front of any symbol. -/
theorem cuts_isInteger {value : Integer} {text : List Char} (is : IsInteger value.val text)
    {c : Char} {symbol : Symbol} (ends : Symbol.ofChar? c = some symbol) :
    Cuts (text ++ [c]) [.number (.integer value), .symbol symbol] := by
  obtain @⟨front, back, before, after⟩ := is
  cases back with
  | nil =>
      rw [List.append_nil, List.append_assoc]
      exact (cuts_blanks before).append (cuts_integer value ends)
  | cons b back =>
      obtain ⟨blank, behind⟩ := List.forall_mem_cons.mp after
      have whole := (((cuts_blanks before).append (cuts_integer_blank value blank)).append
        (cuts_blanks behind)).append (cuts_symbol ends)
      simpa using whole

/-- A signed number of sixty-four bits is such an integer. -/
theorem cuts_int64 (value : Int64) {c : Char} {symbol : Symbol}
    (is : Symbol.ofChar? c = some symbol) :
    Cuts ((toString value.toInt).toList ++ [c])
      [.number (Number.ofInt64 value), .symbol symbol] := by
  unfold Number.ofInt64
  exact cuts_integer ⟨value.toInt, _, _⟩ is

/-! ## Words -/

/-- The other characters of a word complete it. -/
theorem word_complete {rest : List Char} {lexeme : Lexeme}
    (mode : lexer.mode = .word start rest lexeme) (more : rest ≠ []) :
    (rest.foldl step lexer).mode = .between ∧
      ∃ stop, (rest.foldl step lexer).tokens = ⟨lexeme, start, stop⟩ :: lexer.tokens := by
  induction rest generalizing lexer with
  | nil => exact absurd rfl more
  | cons c rest ih =>
      cases rest with
      | nil => simp [step, consume, mode, emit]
      | cons d rest =>
          have next : (lexer.step c).mode = .word start (d :: rest) lexeme := by
            simp [step, consume, mode]
          have kept : (lexer.step c).tokens = lexer.tokens := by
            simp [step, consume, mode]
          have done := ih next (List.cons_ne_nil d rest)
          rwa [kept] at done

/-- A word is cut as what it means. -/
theorem cuts_word {c : Char} {rest : List Char} {lexeme : Lexeme}
    (is : word? c = some (rest, lexeme)) : Cuts (c :: rest) [lexeme] := by
  have begins : isBlank c = false ∧ Symbol.ofChar? c = none ∧ rest ≠ [] := by
    unfold word? at is
    split at is
    case h_4 => cases is
    all_goals
      cases is
      exact ⟨rfl, rfl, List.cons_ne_nil _ _⟩
  obtain ⟨visible, noSymbol, more⟩ := begins
  intro lexer between
  have begun :
      lexer.step c =
        { lexer with
          offset := lexer.offset + c.utf8Size
          mode := .word lexer.offset rest lexeme } := by
    simp [step, consume, between, begin, visible, noSymbol, is]
  have mode : (lexer.step c).mode = .word lexer.offset rest lexeme := congrArg Lexer.mode begun
  obtain ⟨closed, stop, tokens⟩ := word_complete mode more
  exact ⟨[⟨lexeme, lexer.offset, stop⟩], rfl, closed, by simpa [begun] using tokens⟩

end Lexer

/-- The tokens of a text that is cut have these lexemes. -/
theorem tokenize_of_cuts {text : List Char} {lexemes : List Lexeme}
    (cuts : Lexer.Cuts text lexemes) : (tokenize text).tokens.map (·.lexeme) = lexemes := by
  obtain ⟨tokens, means, between, read⟩ := cuts Lexer.start rfl
  have found : (tokenize text).tokens = tokens := by
    rw [tokenize, Lexer.finish_of_between between, read]
    simp [Lexer.start]
  rw [found, means]

end ContextStream.Json
