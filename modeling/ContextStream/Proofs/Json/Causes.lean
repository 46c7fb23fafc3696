import ContextStream.Json.Reader
import Mathlib.Tactic.Common

/-!
# Causes of faults

A text that cannot be read as a value breaks a rule of the grammar, and the message about it
names the rule and the place: no part of the text is repeated in it. This is followed from the
parts of tokens, character by character, to the tokens and to the places of a value.
-/

namespace ContextStream.Json

/-- Whether a cause is one of the grammar. Such a cause has one wording. -/
def Cause.isGrammar : Cause → Bool
  | .unexpectedType _ _ | .unfitInteger _ _ | .missingField _ | .duplicateField _
  | .wrongLength _ _ => false
  | _ => true

/-- A lexeme that is refused breaks a rule of the grammar. -/
def Lexeme.BlamesGrammar : Lexeme → Prop
  | .malformed _ inRead _ => inRead.cause.isGrammar = true
  | _ => True

theorem Lexeme.blamesGrammar_malformed {quoted : Bool} {inRead : Fault} {inPass : Option Fault}
    (grammar : inRead.cause.isGrammar = true) :
    (malformed quoted inRead inPass).BlamesGrammar :=
  grammar

/-! ## Strings -/

namespace Literal

/-- What is wrong with the text of a string is against the grammar. -/
def BlamesGrammar (literal : Literal) : Prop :=
  ∀ fault ∈ literal.flaw, fault.cause.isGrammar = true

/-- What a character leads to blames only the grammar. -/
def Step.BlamesGrammar : Step → Prop
  | .more literal => literal.BlamesGrammar
  | .ended lexeme | .refused lexeme => lexeme.BlamesGrammar

variable {literal : Literal} {cause : Cause}

theorem blamesGrammar_start : Literal.start.BlamesGrammar := by
  intro fault is
  cases is

theorem BlamesGrammar.blemish (blames : literal.BlamesGrammar) (grammar : cause.isGrammar = true)
    (offset : Nat) : (literal.blemish cause offset).BlamesGrammar := by
  intro fault is
  cases flaw : literal.flaw with
  | none =>
      obtain rfl : ⟨cause, offset⟩ = fault := by simpa [Literal.blemish, flaw] using is
      exact grammar
  | some first =>
      obtain rfl : first = fault := by simpa [Literal.blemish, flaw] using is
      exact blames _ flaw

theorem BlamesGrammar.broken (blames : literal.BlamesGrammar) (read pass : Fault)
    (grammar : read.cause.isGrammar = true) : (literal.broken read pass).BlamesGrammar := by
  unfold Literal.broken
  cases flaw : literal.flaw with
  | none => exact grammar
  | some fault => exact blames fault flaw

theorem BlamesGrammar.lexeme (blames : literal.BlamesGrammar) : literal.lexeme.BlamesGrammar := by
  unfold Literal.lexeme
  split
  · next fault flaw => exact blames fault flaw
  · trivial

theorem BlamesGrammar.pushCode (blames : literal.BlamesGrammar) (code offset : Nat) :
    (literal.pushCode code offset).BlamesGrammar := by
  have plain : BlamesGrammar { literal with phase := .plain } := blames
  unfold Literal.pushCode
  dsimp only
  split
  · split_ifs
    · exact blames
    · exact plain.blemish rfl offset
  · split_ifs
    · exact plain.blemish rfl offset
    · exact blames
    · exact blames

/-- A half of a pair that does not go on is against the grammar. -/
theorem BlamesGrammar.interrupted (blames : literal.BlamesGrammar) (offset : Nat) (other : Prop)
    [Decidable other] :
    BlamesGrammar (if other then literal.blemish .unfinishedPair offset else literal) := by
  split
  · exact blames.blemish rfl offset
  · exact blames

theorem BlamesGrammar.step (blames : literal.BlamesGrammar) (offset : Nat) (c : Char) :
    (literal.step offset c).BlamesGrammar := by
  have spoiled (start : Nat) : (step.spoil offset c literal start).BlamesGrammar := by
    unfold step.spoil
    split
    · exact blames.broken _ ⟨.invalidEscape, start + 4⟩ rfl
    · exact blames
  unfold Literal.step
  split
  · have still := blames.interrupted (offset + 1) (literal.half.isSome ∧ c ≠ '\\')
    generalize (if literal.half.isSome ∧ c ≠ '\\' then
      literal.blemish .unfinishedPair (offset + 1) else literal) = current at still
    dsimp only
    split_ifs with quote escape control
    · exact still.lexeme
    · exact still
    · exact still.broken ⟨.controlCharacter, offset + 1⟩ ⟨.controlCharacter, offset⟩ rfl
    · exact still
  · have still := blames.interrupted (offset + 1) (literal.half.isSome ∧ c ≠ 'u')
    generalize (if literal.half.isSome ∧ c ≠ 'u' then
      literal.blemish .unfinishedPair (offset + 1) else literal) = current at still
    dsimp only
    split
    · exact still
    · split
      · exact still
      · exact still.broken ⟨.invalidEscape, offset + 1⟩ ⟨.invalidEscape, offset + 1⟩ rfl
  · split
    · split
      · exact blames
      · exact blames.pushCode _ _
    · exact spoiled _
  · exact spoiled _

end Literal

/-! ## Numerals -/

namespace Numeral

/-- An exponent that is too large is against the grammar. -/
def BlamesGrammar (numeral : Numeral) : Prop :=
  ∀ fault ∈ numeral.fault, fault.cause.isGrammar = true

/-- What a character leads to blames only the grammar. -/
def Step.BlamesGrammar : Step → Prop
  | .more numeral => numeral.BlamesGrammar
  | .ended | .refused => True

variable {numeral : Numeral}

theorem fault_of_ofChar? {c : Char} (begins : ofChar? c = some numeral) :
    numeral.fault = none := by
  simp only [ofChar?] at begins
  split_ifs at begins <;> cases begins <;> rfl

theorem blamesGrammar_of_faultless (faultless : numeral.fault = none) : numeral.BlamesGrammar := by
  intro fault is
  rw [faultless] at is
  cases is

theorem BlamesGrammar.afterWhole (blames : numeral.BlamesGrammar) (c : Char) :
    (numeral.afterWhole c).BlamesGrammar := by
  unfold Numeral.afterWhole
  split_ifs
  · exact blames
  · exact blames
  · trivial

theorem BlamesGrammar.afterFraction (blames : numeral.BlamesGrammar) (c : Char) :
    (numeral.afterFraction c).BlamesGrammar := by
  unfold Numeral.afterFraction
  split_ifs
  · exact blames
  · trivial

theorem BlamesGrammar.wholeDigit (blames : numeral.BlamesGrammar) (digit : Nat) :
    (numeral.wholeDigit digit).BlamesGrammar := by
  unfold Numeral.wholeDigit
  dsimp only
  split_ifs <;> exact blames

theorem BlamesGrammar.fractionDigit (blames : numeral.BlamesGrammar) (digit : Nat) :
    (numeral.fractionDigit digit).BlamesGrammar := by
  unfold Numeral.fractionDigit
  dsimp only
  split_ifs <;> exact blames

theorem BlamesGrammar.exponentDigit (blames : numeral.BlamesGrammar) (offset digit : Nat) :
    (numeral.exponentDigit offset digit).BlamesGrammar := by
  unfold Numeral.exponentDigit
  dsimp only
  split
  · exact blames
  · intro fault is
    rw [Option.mem_def] at is
    split_ifs at is with tooLarge
    obtain rfl := Option.some.inj is
    rfl

theorem BlamesGrammar.step (blames : numeral.BlamesGrammar) (offset : Nat) (c : Char) :
    (numeral.step offset c).BlamesGrammar := by
  unfold Numeral.step
  dsimp only
  cases phase : numeral.phase with
  | sign =>
      dsimp only
      split
      · next start begins =>
          split
          · trivial
          · exact blamesGrammar_of_faultless
              (show start.fault = none from fault_of_ofChar? begins)
      · trivial
  | zero =>
      dsimp only
      split
      · trivial
      · exact blames.afterWhole c
  | whole =>
      dsimp only
      split
      · exact blames.wholeDigit _
      · exact blames.afterWhole c
  | longWhole =>
      dsimp only
      split
      · exact blames
      · exact blames.afterWhole c
  | point =>
      dsimp only
      split
      · exact blames.fractionDigit _
      · trivial
  | fraction =>
      dsimp only
      split
      · exact blames.fractionDigit _
      · exact blames.afterFraction c
  | longFraction =>
      dsimp only
      split
      · exact blames
      · exact blames.afterFraction c
  | mark =>
      dsimp only
      split_ifs
      · exact blames
      · exact blames
      · exact blames.exponentDigit offset _
      · trivial
  | markSign | exponent =>
      dsimp only
      split
      · exact blames.exponentDigit offset _
      · trivial
  | longExponent =>
      dsimp only
      split
      · exact blames
      · trivial

theorem blamesGrammar_signed (numeral : Numeral) (x : Float) : (numeral.signed x).BlamesGrammar :=
  True.intro

theorem blamesGrammar_scaled (numeral : Numeral) (offset : Nat) :
    (numeral.scaled offset).BlamesGrammar := by
  unfold scaled
  dsimp only
  split
  · exact blamesGrammar_signed numeral _
  · exact Lexeme.blamesGrammar_malformed rfl

theorem blamesGrammar_exact (numeral : Numeral) : numeral.exact.BlamesGrammar := by
  unfold exact
  dsimp only
  split
  · exact blamesGrammar_signed numeral _
  · rw [apply_dite Lexeme.BlamesGrammar, dite_prop_iff_and]
    exact ⟨fun _ => True.intro, fun _ => blamesGrammar_signed numeral _⟩

theorem BlamesGrammar.lexeme (blames : numeral.BlamesGrammar) (offset : Nat) :
    (numeral.lexeme offset).BlamesGrammar := by
  unfold Numeral.lexeme
  split
  · next fault is => exact blames fault is
  · exact blamesGrammar_exact numeral
  · exact blamesGrammar_exact numeral
  · exact blamesGrammar_signed numeral _
  · exact Lexeme.blamesGrammar_malformed rfl
  · exact Lexeme.blamesGrammar_malformed rfl
  · exact Lexeme.blamesGrammar_malformed rfl
  · exact Lexeme.blamesGrammar_malformed rfl
  · exact blamesGrammar_scaled numeral offset

end Numeral

/-! ## Tokens -/

namespace Lexer

/-- What has been read of a token blames only the grammar. -/
def Mode.BlamesGrammar : Mode → Prop
  | .word _ _ lexeme => lexeme.BlamesGrammar
  | .numeral _ read => read.BlamesGrammar
  | .literal _ read => read.BlamesGrammar
  | .between | .stopped => True

/-- All that has been read blames only the grammar. -/
structure BlamesGrammar (lexer : Lexer) : Prop where
  tokens : ∀ token ∈ lexer.tokens, token.lexeme.BlamesGrammar
  mode : lexer.mode.BlamesGrammar

variable {lexer : Lexer}

theorem BlamesGrammar.emit (blames : lexer.BlamesGrammar) {lexeme : Lexeme}
    (blames' : lexeme.BlamesGrammar) (start stop : Nat) :
    (lexer.emit lexeme start stop).BlamesGrammar :=
  ⟨List.forall_mem_cons.mpr ⟨blames', blames.tokens⟩, trivial⟩

theorem BlamesGrammar.stop (blames : lexer.BlamesGrammar) {lexeme : Lexeme}
    (blames' : lexeme.BlamesGrammar) (start : Nat) : (lexer.stop lexeme start).BlamesGrammar :=
  ⟨(blames.emit blames' start (lexer.offset + 1)).tokens, trivial⟩

theorem blamesGrammar_of_word? {c : Char} {rest : List Char} {lexeme : Lexeme}
    (begins : word? c = some (rest, lexeme)) : lexeme.BlamesGrammar := by
  unfold word? at begins
  split at begins <;> cases begins <;> trivial

theorem BlamesGrammar.begin (blames : lexer.BlamesGrammar) (c : Char) :
    (lexer.begin c).BlamesGrammar := by
  unfold Lexer.begin
  split
  · exact ⟨blames.tokens, trivial⟩
  · split
    · exact blames.emit (show Lexeme.BlamesGrammar (.symbol _) from trivial) _ _
    · next rest lexeme _ begins => exact ⟨blames.tokens, blamesGrammar_of_word? begins⟩
    · next numeral _ _ begins =>
        exact ⟨blames.tokens, Numeral.blamesGrammar_of_faultless (Numeral.fault_of_ofChar? begins)⟩
    · split
      · exact ⟨blames.tokens, Literal.blamesGrammar_start⟩
      · exact blames.stop (show Lexeme.BlamesGrammar .stray from trivial) _

theorem BlamesGrammar.consume (blames : lexer.BlamesGrammar) (c : Char) :
    (lexer.consume c).BlamesGrammar := by
  have mode := blames.mode
  unfold Lexer.consume
  split
  · exact blames.begin c
  · next start d rest lexeme is =>
      rw [is] at mode
      split
      · split
        · exact blames.emit mode _ _
        · exact ⟨blames.tokens, mode⟩
      · exact blames.stop (Lexeme.blamesGrammar_malformed rfl) _
  · next start lexeme is =>
      rw [is] at mode
      exact (blames.emit mode _ _).begin c
  · next start numeral is =>
      rw [is] at mode
      have stepped := Numeral.BlamesGrammar.step mode lexer.offset c
      split
      · next goesOn =>
          rw [goesOn] at stepped
          exact ⟨blames.tokens, stepped⟩
      · exact (blames.emit (Numeral.BlamesGrammar.lexeme mode _) _ _).begin c
      · exact blames.stop (Lexeme.blamesGrammar_malformed rfl) _
  · next start literal is =>
      rw [is] at mode
      have stepped := Literal.BlamesGrammar.step mode lexer.offset c
      split
      · next goesOn =>
          rw [goesOn] at stepped
          exact ⟨blames.tokens, stepped⟩
      · next ended =>
          rw [ended] at stepped
          exact blames.emit stepped _ _
      · next refused =>
          rw [refused] at stepped
          exact blames.stop stepped _
  · exact blames

theorem BlamesGrammar.step (blames : lexer.BlamesGrammar) (c : Char) :
    (lexer.step c).BlamesGrammar :=
  ⟨(blames.consume c).tokens, (blames.consume c).mode⟩

theorem BlamesGrammar.foldl_step (blames : lexer.BlamesGrammar) (text : List Char) :
    (text.foldl Lexer.step lexer).BlamesGrammar := by
  induction text generalizing lexer with
  | nil => exact blames
  | cons c text ih => exact ih (blames.step c)

theorem BlamesGrammar.finish (blames : lexer.BlamesGrammar) : lexer.finish.BlamesGrammar := by
  have mode := blames.mode
  unfold Lexer.finish
  split
  · exact blames
  · exact blames
  · exact blames.emit (Lexeme.blamesGrammar_malformed rfl) _ _
  · next start numeral is =>
      rw [is] at mode
      exact blames.emit (Numeral.BlamesGrammar.lexeme mode _) _ _
  · next start literal is =>
      rw [is] at mode
      exact blames.emit (Literal.BlamesGrammar.broken mode _ _ rfl) _ _

end Lexer

/-- All tokens of a text blame only the grammar. -/
theorem blamesGrammar_of_mem_tokenize {text : List Char} {token : Token}
    (cut : token ∈ (tokenize text).tokens) : token.lexeme.BlamesGrammar := by
  have start : Lexer.start.BlamesGrammar := ⟨by simp [Lexer.start], trivial⟩
  exact (start.foldl_step text).finish.tokens token (List.mem_reverse.mp cut)

/-! ## Values -/

namespace Context

variable {context : Context} {room : Nat} {token : Token} {fault : Fault}

theorem isGrammar_of_enter {position : Context → Position}
    (refused : context.enter (.read room) token position = .error fault) :
    fault.cause.isGrammar = true := by
  unfold enter at refused
  dsimp only at refused
  split at refused
  · cases refused
  · cases refused
    rfl

theorem isGrammar_of_begin (blames : token.lexeme.BlamesGrammar)
    (refused : context.begin (.read room) token = .error fault) :
    fault.cause.isGrammar = true := by
  unfold begin at refused
  split at refused
  · cases refused
  · cases refused
  · cases refused
  · cases refused
  · exact isGrammar_of_enter refused
  · exact isGrammar_of_enter refused
  · cases refused
    rfl
  · cases refused
    rfl
  · next is =>
      rw [is] at blames
      cases refused
      exact blames

end Context

theorem Manner.isGrammar_of_key {room : Nat} {token : Token} {fault : Fault}
    (blames : token.lexeme.BlamesGrammar) (refused : (read room).key token = .error fault) :
    fault.cause.isGrammar = true := by
  unfold key at refused
  split at refused
  · cases refused
  · next is =>
      rw [is] at blames
      cases refused
      exact blames
  · cases refused
    rfl

namespace Position

variable {position : Position} {room size : Nat} {fault : Fault}

/-- A token that does not go on with a value breaks a rule of the grammar. -/
theorem isGrammar_of_step {token : Token} (blames : token.lexeme.BlamesGrammar)
    (refused : position.step (.read room) token = .error fault) :
    fault.cause.isGrammar = true := by
  have ofKey {members : List (String × Value)} {outer : Context}
      (unkeyed : ((Manner.read room).key token).map
        (fun key => Progress.missing (.colon members key outer)) = .error fault) :
      fault.cause.isGrammar = true := by
    cases key : (Manner.read room).key token with
    | error first =>
        rw [key] at unkeyed
        cases unkeyed
        exact Manner.isGrammar_of_key blames key
    | ok _ =>
        rw [key] at unkeyed
        cases unkeyed
  cases position with
  | value context => exact Context.isGrammar_of_begin blames refused
  | firstItem outer =>
      unfold step at refused
      dsimp only at refused
      split at refused
      · cases refused
      · exact Context.isGrammar_of_begin blames refused
  | nextItem items outer =>
      unfold step at refused
      dsimp only at refused
      split at refused
      · cases refused
        rfl
      · exact Context.isGrammar_of_begin blames refused
  | firstKey outer =>
      unfold step at refused
      dsimp only at refused
      split at refused
      · cases refused
      · exact ofKey refused
  | nextKey members outer =>
      unfold step at refused
      dsimp only at refused
      split at refused
      · cases refused
        rfl
      · exact ofKey refused
  | afterItem _ _ | afterMember _ _ | colon _ _ _ =>
      unfold step at refused
      dsimp only at refused
      split at refused <;> cases refused
      rfl

theorem isGrammar_endCause (position : Position) (manner : Manner) :
    (position.endCause manner).isGrammar = true := by
  cases position <;> cases manner <;> rfl

theorem isGrammar_of_run {tokens : List Token}
    (blames : ∀ token ∈ tokens, token.lexeme.BlamesGrammar)
    (refused : position.run (.read room) size tokens = .error fault) :
    fault.cause.isGrammar = true := by
  induction tokens generalizing position with
  | nil =>
      cases refused
      exact position.isGrammar_endCause (.read room)
  | cons token rest ih =>
      obtain ⟨first, others⟩ := List.forall_mem_cons.mp blames
      rw [run] at refused
      split at refused
      · next stepped =>
          cases refused
          exact isGrammar_of_step first stepped
      · cases refused
      · exact ih others refused

end Position

/-- A text that cannot be read as a value breaks a rule of the grammar. -/
theorem isGrammar_of_parse {text : String} {error : ReadError}
    (refused : parse text = .error error) : error.cause.isGrammar = true := by
  unfold parse at refused
  dsimp only at refused
  cases read : readValue maxDepth (tokenize text.toList).size (tokenize text.toList).tokens with
  | error fault =>
      rw [read] at refused
      cases refused
      exact Position.isGrammar_of_run (fun _ cut => blamesGrammar_of_mem_tokenize cut) read
  | ok found =>
      rw [read] at refused
      obtain ⟨value, rest⟩ := found
      cases rest with
      | nil => cases refused
      | cons token rest =>
          cases refused
          rfl

end ContextStream.Json
