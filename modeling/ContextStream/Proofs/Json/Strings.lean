import ContextStream.Proofs.Json.Embedding
import Mathlib.Data.List.Induction

/-!
# Texts that are a string

The spellings of a string between blanks are the only texts that are cut into this one
string. The text is followed character by character: what has been read is blanks, the
beginning of a spelling, or a whole one, or else something that will never be one string.
-/

namespace ContextStream.Json

open ContextStream.Text

/-! ## Spellings in parts -/

theorem Spelling.append {front back chars chars' : List Char} (first : Spelling front chars)
    (second : Spelling back chars') : Spelling (front ++ back) (chars ++ chars') := by
  induction first with
  | nil => exact second
  | plain noQuote noEscape noControl _ ih => exact .plain noQuote noEscape noControl ih
  | letter means _ ih => exact .letter means ih
  | code code _ ih => simpa using Spelling.code code ih
  | pair beyond first second _ ih => simpa using Spelling.pair beyond first second ih

/-- More blanks may follow a string. -/
theorem IsString.before {s : String} {text back : List Char} (is : IsString s text)
    (blank : Blanks back) : IsString s (text ++ back) := by
  obtain @⟨front, body, after, before, spelled, blank'⟩ := is
  have blanks : Blanks (after ++ back) := List.forall_mem_append.mpr ⟨blank', blank⟩
  simpa using IsString.between before spelled blanks

/-- A spelling goes on with the spelling of one more character. -/
theorem Spelling.push {body last chars : List Char} {c : Char}
    (spelled : Spelling body chars.reverse) (one : Spelling last [c]) :
    Spelling (body ++ last) (c :: chars).reverse := by
  rw [List.reverse_cons]
  exact spelled.append one

/-- A lexeme is a string. -/
def Lexeme.isString : Lexeme → Bool
  | .string _ => true
  | _ => false

namespace Literal

/-- Digits of an escape that were read: how many, and their number. -/
inductive Digits : List Char → Nat → Nat → Prop
  | none : Digits [] 0 0
  | more {digits : List Char} {count value n : Nat} {c : Char} (read : Digits digits count value)
      (is : Hex.value? c = some n) : Digits (digits ++ [c]) (count + 1) (16 * value + n)

theorem code_of_digits {digits : List Char} {value : Nat} (read : Digits digits 4 value) :
    Code digits value := by
  cases read with | @more _ _ _ l _ read fourth =>
  cases read with | @more _ _ _ k _ read third =>
  cases read with | @more _ _ _ j _ read second =>
  cases read with | @more _ _ _ i _ read first =>
  cases read
  have code := Code.digits first second third fourth
  have same : 16 ^ 3 * i + 16 ^ 2 * j + 16 * k + l =
      16 * (16 * (16 * (16 * 0 + i) + j) + k) + l := by omega
  rwa [same] at code

theorem code_lt {digits : List Char} {code : Nat} (is : Code digits code) : code < 0x10000 := by
  cases is with
  | digits first second third fourth =>
      have one := Hex.value?_lt first
      have two := Hex.value?_lt second
      have three := Hex.value?_lt third
      have four := Hex.value?_lt fourth
      omega

theorem toNat_ofNat {n : Nat} (valid : n.isValidChar) : (Char.ofNat n).toNat = n := by
  rw [Char.ofNat, dif_pos valid]
  rfl

/-- Two halves spell the character that they are the number of. -/
theorem spelling_pair {front back : List Char} {first second : Nat} (isCode : Code front first)
    (isCode' : Code back second) (isFirst : 0xd800 ≤ first ∧ first < 0xdc00)
    (isSecond : 0xdc00 ≤ second ∧ second < 0xe000) :
    Spelling ('\\' :: 'u' :: front ++ '\\' :: 'u' :: back)
      [Char.ofNat (0x10000 + (first - 0xd800) * 0x400 + (second - 0xdc00))] := by
  generalize is : Char.ofNat (0x10000 + (first - 0xd800) * 0x400 + (second - 0xdc00)) = c
  have value : c.toNat = 0x10000 + (first - 0xd800) * 0x400 + (second - 0xdc00) := by
    rw [← is]
    exact toNat_ofNat (by unfold Nat.isValidChar; omega)
  have high : 0xd800 + (c.toNat - 0x10000) / 0x400 = first := by omega
  have low : 0xdc00 + (c.toNat - 0x10000) % 0x400 = second := by omega
  rw [← high] at isCode
  rw [← low] at isCode'
  simpa using Spelling.pair (by omega) isCode isCode' .nil

/-- The first half of a pair that waits for the second one. -/
inductive Waiting : List Char → Option Nat → Prop
  | nothing : Waiting [] none
  | half {digits : List Char} {first : Nat} (code : Code digits first)
      (isFirst : 0xd800 ≤ first ∧ first < 0xdc00) : Waiting ('\\' :: 'u' :: digits) (some first)

/-- An escape that was begun. -/
inductive Begun : List Char → Phase → Prop
  | nothing : Begun [] .plain
  | escape : Begun ['\\'] .escape
  | digits {start count value : Nat} {digits : List Char} (read : Digits digits count value)
      (few : count < 4) : Begun ('\\' :: 'u' :: digits) (.digits start count value)

/-- A text was read, from behind the quotation mark, and there was no fault in it. -/
inductive Reads : List Char → Literal → Prop
  | parts {body waiting begun chars : List Char} {half : Option Nat} {phase : Phase}
      (spelled : Spelling body chars.reverse) (waits : Waiting waiting half)
      (begins : Begun begun phase) : Reads (body ++ waiting ++ begun) ⟨chars, half, none, phase⟩

theorem reads_start : Reads [] start := by
  have nothing : Spelling [] ([] : List Char).reverse := .nil
  exact .parts nothing .nothing .nothing

/-- The string has a fault already, or will have one. -/
def IsLost (literal : Literal) : Prop :=
  literal.flaw.isSome ∨ ∃ start, literal.phase = .spoilt start

/-- After this step there will be no string. -/
inductive Spoils : Step → Prop
  | more {literal : Literal} (lost : literal.IsLost) : Spoils (.more literal)
  | ended {lexeme : Lexeme} (other : lexeme.isString = false) : Spoils (.ended lexeme)
  | refused {lexeme : Lexeme} (other : lexeme.isString = false) : Spoils (.refused lexeme)

/-- What one more character may do: the text goes on with it, ends, or is lost. -/
inductive Goes : List Char → Step → Prop
  | more {text : List Char} {literal : Literal} (reads : Reads text literal) :
      Goes text (.more literal)
  | ended {body : List Char} {s : String} (spelled : Spelling body s.toList) :
      Goes (body ++ ['"']) (.ended (.string s))
  | spoils {text : List Char} {step : Step} (spoils : Spoils step) : Goes text step

variable {literal : Literal} {offset : Nat} {c : Char}

theorem isLost_blemish (literal : Literal) (cause : Cause) (offset : Nat) :
    (literal.blemish cause offset).IsLost := by
  cases flaw : literal.flaw <;> simp [IsLost, blemish, flaw]

theorem spoils_spoil (literal : Literal) (offset : Nat) (c : Char) (start : Nat) :
    Spoils (step.spoil offset c literal start) := by
  unfold step.spoil
  split
  · exact .refused rfl
  · exact .more (.inr ⟨start, rfl⟩)

/-- A pair that is broken off is a fault, and other faults stay. -/
theorem flaw_of_interrupted (flawed : literal.flaw.isSome) (offset : Nat) (interrupts : Prop)
    [Decidable interrupts] : (if literal.half.isSome ∧ interrupts then
      literal.blemish .unfinishedPair (offset + 1) else literal).flaw.isSome := by
  split
  · simp [blemish]
  · exact flawed

theorem isString_lexeme (flawed : literal.flaw.isSome) : literal.lexeme.isString = false := by
  obtain ⟨fault, is⟩ := Option.isSome_iff_exists.mp flawed
  simp [lexeme, is, Lexeme.isString]

theorem flaw_pushCode (flawed : literal.flaw.isSome) (code : Nat) :
    (literal.pushCode code offset).flaw.isSome := by
  cases half : literal.half with
  | some first =>
      simp only [pushCode, half]
      split
      · exact flawed
      · simp [blemish]
  | none =>
      simp only [pushCode, half]
      split
      · simp [blemish]
      · split
        · exact flawed
        · exact flawed

theorem spoils_of_flaw (flawed : literal.flaw.isSome) : Spoils (literal.step offset c) := by
  unfold step
  split
  · have still := flaw_of_interrupted flawed offset (c ≠ '\\')
    generalize (if literal.half.isSome ∧ c ≠ '\\' then
      literal.blemish .unfinishedPair (offset + 1) else literal) = current at still
    dsimp only
    split
    · exact .ended (isString_lexeme still)
    · split
      · exact .more (.inl still)
      · split
        · exact .refused rfl
        · exact .more (.inl still)
  · have still := flaw_of_interrupted flawed offset (c ≠ 'u')
    generalize (if literal.half.isSome ∧ c ≠ 'u' then
      literal.blemish .unfinishedPair (offset + 1) else literal) = current at still
    dsimp only
    split
    · exact .more (.inl still)
    · split
      · exact .more (.inl still)
      · exact .refused rfl
  · split
    · split
      · exact .more (.inl flawed)
      · exact .more (.inl (flaw_pushCode flawed _))
    · exact spoils_spoil literal offset c _
  · exact spoils_spoil literal offset c _

theorem IsLost.spoils (lost : literal.IsLost) (offset : Nat) (c : Char) :
    Spoils (literal.step offset c) := by
  rcases lost with flawed | ⟨start, spoilt⟩
  · exact spoils_of_flaw flawed
  · simp only [step, spoilt]
    exact spoils_spoil literal offset c start

/-- Only the other half may follow the first half of a pair. -/
theorem spoils_of_plain (plain : literal.phase = .plain) (waits : literal.half.isSome)
    (other : c ≠ '\\') : Spoils (literal.step offset c) := by
  have same : literal.step offset c =
      (literal.blemish .unfinishedPair (offset + 1)).step offset c := by
    simp [step, plain, blemish, waits, other]
  rw [same]
  exact (isLost_blemish literal _ _).spoils offset c

theorem spoils_of_escape (escape : literal.phase = .escape) (waits : literal.half.isSome)
    (other : c ≠ 'u') : Spoils (literal.step offset c) := by
  have same : literal.step offset c =
      (literal.blemish .unfinishedPair (offset + 1)).step offset c := by
    simp [step, escape, blemish, waits, other]
  rw [same]
  exact (isLost_blemish literal _ _).spoils offset c

theorem mem_letters_of_escaped? {letter c : Char} (means : escaped? letter = some c) :
    (letter, c) ∈ letters := by
  unfold escaped? at means
  split at means
  all_goals cases means
  all_goals decide

section Steps

variable {body waiting begun chars digits : List Char} {half : Option Nat}
  {start count value n : Nat}

/-- A character outside escapes. -/
theorem goes_plain (spelled : Spelling body chars.reverse) (waits : Waiting waiting half) :
    Goes (body ++ waiting ++ [c]) (step ⟨chars, half, none, .plain⟩ offset c) := by
  by_cases escape : c = '\\'
  · have begun : step ⟨chars, half, none, .plain⟩ offset c =
        .more ⟨chars, half, none, .escape⟩ := by simp [step, escape]
    rw [begun, escape]
    exact .more (.parts spelled waits .escape)
  · cases waits with
    | half => exact .spoils (spoils_of_plain rfl rfl escape)
    | nothing =>
        rw [List.append_nil]
        by_cases quote : c = '"'
        · have ended : step ⟨chars, none, none, .plain⟩ offset c =
              .ended (.string (String.ofList chars.reverse)) := by simp [step, quote, lexeme]
          rw [ended, quote]
          exact .ended (by rwa [String.toList_ofList])
        · by_cases control : c.toNat < 0x20
          · have refused : Spoils (step ⟨chars, none, none, .plain⟩ offset c) := by
              simp only [step, quote, escape, control, if_true, if_false]
              exact .refused rfl
            exact .spoils refused
          · have pushed : step ⟨chars, none, none, .plain⟩ offset c =
                .more ⟨c :: chars, none, none, .plain⟩ := by
              simp [step, quote, escape, control, push]
            rw [pushed]
            have whole := spelled.push (.plain quote escape (Nat.not_lt.mp control) .nil)
            exact .more (by simpa using Reads.parts whole .nothing .nothing)

/-- A character behind a backslash. -/
theorem goes_escape (spelled : Spelling body chars.reverse) (waits : Waiting waiting half) :
    Goes (body ++ waiting ++ ['\\'] ++ [c]) (step ⟨chars, half, none, .escape⟩ offset c) := by
  by_cases code : c = 'u'
  · have begun : step ⟨chars, half, none, .escape⟩ offset c =
        .more ⟨chars, half, none, .digits (offset + 1) 0 0⟩ := by simp [step, code]
    rw [begun, code]
    exact .more (by simpa using Reads.parts spelled waits (.digits .none (by decide)))
  · cases waits with
    | half => exact .spoils (spoils_of_escape rfl rfl code)
    | nothing =>
        cases means : escaped? c with
        | some d =>
            have pushed : step ⟨chars, none, none, .escape⟩ offset c =
                .more ⟨d :: chars, none, none, .plain⟩ := by simp [step, code, means, push]
            rw [pushed]
            have whole := spelled.push (.letter (mem_letters_of_escaped? means) .nil)
            exact .more (by simpa using Reads.parts whole .nothing .nothing)
        | none =>
            have refused : Spoils (step ⟨chars, none, none, .escape⟩ offset c) := by
              simp only [step, code, means, if_false]
              exact .refused rfl
            exact .spoils refused

/-- The last digit of an escape. -/
theorem goes_code {phase : Phase} (spelled : Spelling body chars.reverse)
    (waits : Waiting waiting half) {code : Nat} (is : Code digits code) :
    Goes (body ++ waiting ++ ('\\' :: 'u' :: digits))
      (.more (pushCode ⟨chars, half, none, phase⟩ code offset)) := by
  have bound := code_lt is
  by_cases isSecond : 0xdc00 ≤ code ∧ code < 0xe000
  · cases waits with
    | nothing =>
        have lost : (pushCode ⟨chars, none, none, phase⟩ code offset).IsLost := by
          simp only [pushCode, isSecond]
          exact isLost_blemish _ _ _
        exact .spoils (.more lost)
    | @half front first isCode isFirst =>
        have pushed : pushCode ⟨chars, some first, none, phase⟩ code offset =
            ⟨Char.ofNat (0x10000 + (first - 0xd800) * 0x400 + (code - 0xdc00)) :: chars, none,
              none, .plain⟩ := by
          simp only [pushCode, isSecond, and_self, if_true, push]
        have pair := spelled.push (spelling_pair isCode is isFirst isSecond)
        rw [pushed]
        exact .more (by simpa using Reads.parts pair .nothing .nothing)
  · cases waits with
    | nothing =>
        by_cases isFirst : 0xd800 ≤ code ∧ code < 0xdc00
        · have waits : pushCode ⟨chars, none, none, phase⟩ code offset =
              ⟨chars, some code, none, .plain⟩ := by
            simp only [pushCode, isSecond, isFirst, and_self, if_true, if_false]
          rw [waits]
          exact .more (by simpa using Reads.parts spelled (.half is isFirst) .nothing)
        · have value : (Char.ofNat code).toNat = code :=
            toNat_ofNat (by unfold Nat.isValidChar; omega)
          have pushed : pushCode ⟨chars, none, none, phase⟩ code offset =
              ⟨Char.ofNat code :: chars, none, none, .plain⟩ := by
            simp only [pushCode, isSecond, isFirst, if_false, push]
          rw [pushed]
          have single := Spelling.code (c := Char.ofNat code) (value.symm ▸ is) .nil
          exact .more (by simpa using Reads.parts (spelled.push single) .nothing .nothing)
    | @half front first isCode isFirst =>
        have lost : (pushCode ⟨chars, some first, none, phase⟩ code offset).IsLost := by
          simp only [pushCode, isSecond, if_false]
          exact isLost_blemish _ _ _
        exact .spoils (.more lost)

theorem goes_digits (spelled : Spelling body chars.reverse) (waits : Waiting waiting half)
    (read : Digits digits count value) (few : count < 4) :
    Goes (body ++ waiting ++ ('\\' :: 'u' :: digits) ++ [c])
      (step ⟨chars, half, none, .digits start count value⟩ offset c) := by
  cases is : Hex.value? c with
  | none =>
      simp only [step, is]
      exact .spoils (spoils_spoil _ offset c start)
  | some n =>
      have more := read.more is
      have whole : body ++ waiting ++ ('\\' :: 'u' :: digits) ++ [c] =
          body ++ waiting ++ ('\\' :: 'u' :: (digits ++ [c])) := by simp
      rw [whole]
      by_cases fewer : count < 3
      · simp only [step, is, fewer, if_true]
        exact .more (.parts spelled waits (.digits more (Nat.succ_lt_succ fewer)))
      · obtain rfl : count = 3 := by omega
        simp only [step, is, Nat.lt_irrefl, if_false]
        exact goes_code spelled waits (code_of_digits more)

/-- A text goes on, ends or is lost with the next character. -/
theorem Reads.step {text : List Char} (reads : Reads text literal) (offset : Nat) (c : Char) :
    Goes (text ++ [c]) (literal.step offset c) := by
  cases reads with
  | parts spelled waits begins =>
      cases begins with
      | nothing =>
          rw [List.append_nil]
          exact goes_plain spelled waits
      | escape => exact goes_escape spelled waits
      | digits read few => exact goes_digits spelled waits read few

end Steps

end Literal

/-! ## Whole texts -/

theorem Numeral.isString_lexeme (numeral : Numeral) (offset : Nat) :
    (numeral.lexeme offset).isString = false := by
  have exact : numeral.exact.isString = false := by
    obtain ⟨n, is⟩ := numeral.exists_exact
    rw [is]
    rfl
  have scaled : (numeral.scaled offset).isString = false := by
    unfold scaled
    dsimp only
    split <;> rfl
  unfold lexeme
  split
  all_goals first | exact exact | exact scaled | rfl

namespace Lexer

variable {lexer : Lexer} {c : Char}

/-- A token that is no string was given, or will be. -/
inductive IsLost (lexer : Lexer) : Prop
  | given {token : Token} (member : token ∈ lexer.tokens)
      (other : token.lexeme.isString = false)
  | word {start : Nat} {rest : List Char} {lexeme : Lexeme}
      (mode : lexer.mode = .word start rest lexeme) (other : lexeme.isString = false)
  | numeral {start : Nat} {numeral : Numeral} (mode : lexer.mode = .numeral start numeral)
  | literal {start : Nat} {literal : Literal} (mode : lexer.mode = .literal start literal)
      (lost : literal.IsLost)

theorem isString_of_word? {rest : List Char} {lexeme : Lexeme}
    (is : word? c = some (rest, lexeme)) : lexeme.isString = false := by
  unfold word? at is
  split at is <;> cases is <;> rfl

theorem isLost_emit {lexeme : Lexeme} (other : lexeme.isString = false) (start stop : Nat) :
    (lexer.emit lexeme start stop).IsLost :=
  .given List.mem_cons_self other

theorem isLost_stop {lexeme : Lexeme} (other : lexeme.isString = false) (start : Nat) :
    (lexer.stop lexeme start).IsLost :=
  .given List.mem_cons_self other

/-- What was given stays when the next token begins. -/
theorem isLost_begin_emit {lexeme : Lexeme} (other : lexeme.isString = false) (start stop : Nat) :
    ((lexer.emit lexeme start stop).begin c).IsLost :=
  .given (tokens_subset_begin _ c List.mem_cons_self) other

theorem IsLost.consume (lost : lexer.IsLost) : (lexer.consume c).IsLost := by
  cases lost with
  | given member other => exact .given (tokens_subset_step lexer c member) other
  | @word start rest lexeme mode other =>
      cases rest with
      | nil =>
          simp only [Lexer.consume, mode]
          exact isLost_begin_emit other _ _
      | cons d rest =>
          simp only [Lexer.consume, mode]
          split
          · split
            · exact isLost_emit other _ _
            · exact .word rfl other
          · exact isLost_stop rfl _
  | @numeral start numeral mode =>
      simp only [Lexer.consume, mode]
      split
      · exact .numeral rfl
      · exact isLost_begin_emit (numeral.isString_lexeme _) _ _
      · exact isLost_stop rfl _
  | @literal start literal mode lost =>
      simp only [Lexer.consume, mode]
      have spoils := lost.spoils lexer.offset c
      generalize literal.step lexer.offset c = step at spoils
      cases spoils with
      | more lost => exact .literal rfl lost
      | ended other => exact isLost_emit other _ _
      | refused other => exact isLost_stop other _

/-- The bytes that were read do not matter. -/
theorem IsLost.counted {offset : Nat} (lost : lexer.IsLost) :
    IsLost { lexer with offset := offset } := by
  cases lost with
  | given member other => exact .given member other
  | word mode other => exact .word mode other
  | numeral mode => exact .numeral mode
  | literal mode lost => exact .literal mode lost

theorem IsLost.step (lost : lexer.IsLost) : (lexer.step c).IsLost :=
  lost.consume.counted

theorem IsLost.finish (lost : lexer.IsLost) :
    ∃ token ∈ lexer.finish.tokens, token.lexeme.isString = false := by
  cases lost with
  | given member other => exact ⟨_, tokens_subset_finish lexer member, other⟩
  | word mode other =>
      simp only [Lexer.finish, mode]
      exact ⟨_, List.mem_cons_self, rfl⟩
  | numeral mode =>
      simp only [Lexer.finish, mode]
      exact ⟨_, List.mem_cons_self, Numeral.isString_lexeme _ _⟩
  | literal mode lost =>
      simp only [Lexer.finish, mode]
      exact ⟨_, List.mem_cons_self, rfl⟩

/-- How many tokens were begun. -/
def count (lexer : Lexer) : Nat :=
  match lexer.mode with
  | .between | .stopped => lexer.tokens.length
  | .word _ _ _ | .numeral _ _ | .literal _ _ => lexer.tokens.length + 1

/-- All tokens that were begun are completed. -/
theorem length_finish (lexer : Lexer) : lexer.finish.tokens.length = lexer.count := by
  cases mode : lexer.mode <;> simp [finish, count, mode, emit]

theorem length_le_count_begin (lexer : Lexer) (c : Char) :
    lexer.tokens.length ≤ (lexer.begin c).count := by
  unfold begin
  repeat' split
  all_goals simp [count, emit, stop]

/-- No character takes back a token that was begun. -/
theorem count_le_step (lexer : Lexer) (c : Char) : lexer.count ≤ (lexer.step c).count := by
  have emitted (lexeme : Lexeme) (start stop : Nat) :
      lexer.tokens.length + 1 ≤ ((lexer.emit lexeme start stop).begin c).count :=
    length_le_count_begin (lexer.emit lexeme start stop) c
  change lexer.count ≤ (lexer.consume c).count
  unfold consume
  split
  · next between =>
      have begun := length_le_count_begin lexer c
      simpa [count, between] using begun
  · next word =>
      repeat' split
      all_goals simp [count, word, emit, stop]
  · next word => simpa [count, word] using emitted _ _ _
  · next numeral =>
      split
      · simp [count, numeral]
      · simpa [count, numeral] using emitted _ _ _
      · simp [count, numeral, emit, stop]
  · next literal =>
      split
      all_goals simp [count, literal, emit, stop]
  · exact Nat.le_refl _

/-- A quotation mark begins a string. -/
theorem step_quote (between : lexer.mode = .between) :
    (lexer.step '"').mode = .literal lexer.offset .start ∧
      (lexer.step '"').tokens = lexer.tokens := by
  constructor <;>
    simp [step, consume, between, begin, isBlank, Symbol.ofChar?, word?, Numeral.ofChar?]

/-- A blank begins nothing. -/
theorem step_blank (between : lexer.mode = .between) (blank : isBlank c = true) :
    (lexer.step c).mode = .between ∧ (lexer.step c).tokens = lexer.tokens := by
  constructor <;> simp [step, consume, between, begin, blank]

/-- Any other character begins a token that is no string. -/
theorem isLost_step_of_between (between : lexer.mode = .between) (visible : isBlank c = false)
    (noQuote : c ≠ '"') : (lexer.step c).IsLost := by
  have begun : (lexer.begin c).IsLost := by
    simp only [begin, visible, Bool.false_eq_true, if_false, noQuote]
    split
    · exact isLost_emit rfl _ _
    · next is => exact .word rfl (isString_of_word? is)
    · exact .numeral rfl
    · exact isLost_stop rfl _
  have same : lexer.consume c = lexer.begin c := by simp only [consume, between]
  rw [← same] at begun
  exact begun.counted

/-- What has been seen of a text that may be one string. -/
inductive Sees : List Char → Lexer → Prop
  | blanks {text : List Char} {lexer : Lexer} (blank : Blanks text)
      (between : lexer.mode = .between) (tokens : lexer.tokens = []) : Sees text lexer
  | inside {front text : List Char} {lexer : Lexer} {start : Nat} {literal : Literal}
      (before : Blanks front) (reads : literal.Reads text)
      (mode : lexer.mode = .literal start literal) (tokens : lexer.tokens = []) :
      Sees (front ++ '"' :: text) lexer
  | closed {text : List Char} {lexer : Lexer} {s : String} (is : IsString s text)
      (between : lexer.mode = .between)
      (tokens : lexer.tokens.map (·.lexeme) = [.string s]) : Sees text lexer
  | lost {text : List Char} {lexer : Lexer} (lost : lexer.IsLost) : Sees text lexer
  | many {text : List Char} {lexer : Lexer} (two : 2 ≤ lexer.count) :
      Sees text lexer

theorem sees_step_inside {front text : List Char} {start : Nat} {literal : Literal}
    (before : Blanks front) (reads : literal.Reads text)
    (mode : lexer.mode = .literal start literal) (tokens : lexer.tokens = []) :
    Sees (front ++ '"' :: (text ++ [c])) (lexer.step c) := by
  have goes := reads.step lexer.offset c
  generalize text ++ [c] = next at goes
  cases stepped : literal.step lexer.offset c with
  | more literal' =>
      have consumed : lexer.consume c = { lexer with mode := .literal start literal' } := by
        simp only [consume, mode, stepped]
      rw [stepped] at goes
      cases goes with
      | more reads =>
          have still : (lexer.step c).mode = .literal start literal' := by
            simp [Lexer.step, consumed]
          exact .inside before reads still (by simp [Lexer.step, consumed, tokens])
      | spoils spoils =>
          cases spoils with | more lost =>
          refine .lost (IsLost.counted ?_)
          rw [consumed]
          exact .literal rfl lost
  | ended lexeme =>
      have consumed : lexer.consume c = lexer.emit lexeme start (lexer.offset + 1) := by
        simp only [consume, mode, stepped]
      rw [stepped] at goes
      cases goes with
      | @ended body s spelled =>
          have is : IsString s (front ++ ('"' :: body ++ ['"']) ++ []) :=
            .between before spelled (List.forall_mem_nil _)
          have between : (lexer.step c).mode = .between := by simp [Lexer.step, consumed, emit]
          have given : (lexer.step c).tokens.map (·.lexeme) = [.string s] := by
            simp [Lexer.step, consumed, tokens, emit]
          exact .closed (by simpa using is) between given
      | spoils spoils =>
          cases spoils with | ended other =>
          refine .lost (IsLost.counted ?_)
          rw [consumed]
          exact isLost_emit other _ _
  | refused lexeme =>
      have consumed : lexer.consume c = lexer.stop lexeme start := by
        simp only [consume, mode, stepped]
      rw [stepped] at goes
      cases goes with | spoils spoils =>
      cases spoils with | refused other =>
      refine .lost (IsLost.counted ?_)
      rw [consumed]
      exact isLost_stop other _

/-- One more character is seen. -/
theorem Sees.step {text : List Char} (sees : Sees text lexer) :
    Sees (text ++ [c]) (lexer.step c) := by
  cases sees with
  | blanks blank between tokens =>
      by_cases isBlank : Json.isBlank c = true
      · obtain ⟨still, same⟩ := step_blank between isBlank
        refine .blanks ?_ still (same.trans tokens)
        simpa [Blanks, or_imp, forall_and] using ⟨blank, isBlank⟩
      · by_cases quote : c = '"'
        · subst quote
          obtain ⟨mode, same⟩ := step_quote between
          exact .inside blank Literal.reads_start mode (same.trans tokens)
        · exact .lost (isLost_step_of_between between (Bool.eq_false_iff.mpr isBlank) quote)
  | inside before reads mode tokens =>
      rw [List.append_assoc, List.cons_append]
      exact sees_step_inside before reads mode tokens
  | @closed _ _ s is between tokens =>
      by_cases isBlank : Json.isBlank c = true
      · obtain ⟨still, same⟩ := step_blank between isBlank
        refine .closed (is.before ?_) still (by rw [same, tokens])
        simpa [Blanks] using isBlank
      · by_cases quote : c = '"'
        · subst quote
          obtain ⟨mode, same⟩ := step_quote between
          have one : lexer.tokens.length = 1 := by simpa using congrArg List.length tokens
          exact .many (by simp [count, mode, same, one])
        · exact .lost (isLost_step_of_between between (Bool.eq_false_iff.mpr isBlank) quote)
  | lost lost => exact .lost lost.step
  | many two => exact .many (two.trans (count_le_step lexer c))

theorem sees_foldl_step (text : List Char) : Sees text (text.foldl step start) := by
  induction text using List.reverseRecOn with
  | nil => exact .blanks nofun rfl rfl
  | append_singleton text c ih =>
      rw [List.foldl_append]
      exact ih.step

end Lexer

/-- What is seen of a text in the end is whether it is a string. -/
theorem Lexer.Sees.isString {text : List Char} {lexer : Lexer} {s : String}
    (sees : Lexer.Sees text lexer) (cut : lexer.finish.tokens.map (·.lexeme) = [.string s]) :
    IsString s text := by
  cases sees with
  | blanks _ between tokens =>
      rw [Lexer.finish_of_between between, tokens] at cut
      cases cut
  | inside _ _ mode tokens =>
      simp only [Lexer.finish, mode, Lexer.emit, tokens, List.map_cons, Literal.unfinished,
        Literal.broken] at cut
      cases cut
  | closed is between tokens =>
      rw [Lexer.finish_of_between between, tokens] at cut
      cases cut
      exact is
  | lost lost =>
      obtain ⟨token, member, other⟩ := lost.finish
      have inList := List.mem_map_of_mem (f := (·.lexeme)) member
      rw [cut, List.mem_singleton] at inList
      rw [inList] at other
      cases other
  | many two =>
      have one : lexer.finish.tokens.length = 1 := by simpa using congrArg List.length cut
      rw [Lexer.length_finish] at one
      omega

/-- A text is cut into one string if and only if it spells this string. -/
theorem tokenize_eq_string_iff {text : List Char} {s : String} :
    (tokenize text).tokens.map (·.lexeme) = [.string s] ↔ IsString s text := by
  constructor
  · intro cut
    have sees := Lexer.sees_foldl_step text
    rw [tokenize, List.map_reverse, List.reverse_eq_iff] at cut
    generalize text.foldl Lexer.step Lexer.start = lexer at sees cut
    exact sees.isString cut
  · exact fun is => tokenize_of_cuts (Lexer.cuts_isString is)

end ContextStream.Json
