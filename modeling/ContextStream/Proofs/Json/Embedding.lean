import ContextStream.Json.Reader
import ContextStream.Proofs.Json.Reading

/-!
# Texts inside other texts

Wherever a token may begin, a text is cut as if it stood alone, only that all places lie
further back. Places are told by faults and by unfinished strings, so that moving a text
moves these; a text without faults is cut into the same lexemes everywhere.
-/

namespace ContextStream.Json

/-! ## Offsets -/

/-- A fault of a text that stands so many bytes further back. -/
def Fault.shift (distance : Nat) (fault : Fault) : Fault :=
  { fault with offset := fault.offset + distance }

/-- A lexeme that stands so many bytes further back. -/
def Lexeme.shift (distance : Nat) : Lexeme → Lexeme
  | .malformed quoted inRead inPass =>
      .malformed quoted (inRead.shift distance) (inPass.map (·.shift distance))
  | lexeme => lexeme

/-- A token that stands so many bytes further back. -/
def Token.shift (distance : Nat) (token : Token) : Token :=
  ⟨token.lexeme.shift distance, token.start + distance, token.stop + distance⟩

namespace Numeral

/-- A numeral that stands so many bytes further back. -/
def shift (distance : Nat) (numeral : Numeral) : Numeral :=
  { numeral with fault := numeral.fault.map (·.shift distance) }

/-- What a character does to a numeral that stands so many bytes further back. -/
def Step.shift (distance : Nat) : Step → Step
  | .more numeral => .more (numeral.shift distance)
  | .ended => .ended
  | .refused => .refused

theorem shift_of_ofChar? {c : Char} {numeral : Numeral} (begun : ofChar? c = some numeral)
    (distance : Nat) : numeral.shift distance = numeral := by
  unfold ofChar? at begun
  split at begun
  · cases begun; rfl
  · split at begun
    · cases begun; rfl
    · split at begun <;> cases begun
      rfl

variable (numeral : Numeral) (distance offset : Nat)

theorem afterWhole_shift (c : Char) :
    (numeral.shift distance).afterWhole c = (numeral.afterWhole c).shift distance := by
  unfold afterWhole
  repeat' split
  all_goals rfl

theorem afterFraction_shift (c : Char) :
    (numeral.shift distance).afterFraction c = (numeral.afterFraction c).shift distance := by
  unfold afterFraction
  split <;> rfl

theorem wholeDigit_shift (digit : Nat) :
    (numeral.shift distance).wholeDigit digit = (numeral.wholeDigit digit).shift distance := by
  by_cases fits : 10 * numeral.significand + digit < UInt64.size <;>
    simp [wholeDigit, shift, fits]

theorem fractionDigit_shift (digit : Nat) :
    (numeral.shift distance).fractionDigit digit =
      (numeral.fractionDigit digit).shift distance := by
  by_cases fits : 10 * numeral.significand + digit < UInt64.size <;>
    simp [fractionDigit, shift, fits]

theorem exponentDigit_shift (digit : Nat) :
    (numeral.shift distance).exponentDigit (offset + distance) digit =
      (numeral.exponentDigit offset digit).shift distance := by
  by_cases fits : 10 * numeral.exponent + digit < 2147483648
  · simp [exponentDigit, shift, fits]
  · by_cases large : numeral.significand ≠ 0 ∧ !numeral.exponentNegative <;>
      simp [exponentDigit, shift, fits, large, Fault.shift, Nat.add_right_comm]

theorem step_shift (c : Char) :
    (numeral.shift distance).step (offset + distance) c =
      (numeral.step offset c).shift distance := by
  have same : (numeral.shift distance).phase = numeral.phase := rfl
  unfold step
  rw [same]
  cases numeral.phase <;>
    simp only [afterWhole_shift, afterFraction_shift, wholeDigit_shift, fractionDigit_shift,
      exponentDigit_shift]
  case sign =>
    cases begun : ofChar? c with
    | none => rfl
    | some start =>
        have kept : start.fault.map (·.shift distance) = start.fault :=
          congrArg Numeral.fault (shift_of_ofChar? begun distance)
        by_cases minus : c = '-' <;> simp [minus, Step.shift, shift, kept]
  all_goals
    repeat' split
    all_goals rfl

/-- Digits without fraction and exponent are always a number. -/
theorem exists_exact : ∃ n, numeral.exact = .number n := by
  by_cases zero : numeral.negative = true ∧ numeral.significand = 0
  · exact ⟨_, if_pos zero⟩
  · simp only [exact, if_neg zero]
    by_cases fits :
        -9223372036854775808 ≤
            (if numeral.negative then -(numeral.significand : Int) else numeral.significand) ∧
          (if numeral.negative then -(numeral.significand : Int) else numeral.significand) <
            18446744073709551616
    · exact ⟨_, dif_pos fits⟩
    · exact ⟨_, dif_neg fits⟩

theorem scaled_shift :
    (numeral.shift distance).scaled (offset + distance) =
      (numeral.scaled offset).shift distance := by
  have blind : (numeral.shift distance).scaled (offset + distance) =
      numeral.scaled (offset + distance) := rfl
  rw [blind]
  simp only [scaled]
  cases Number.scaled? numeral.significand
    (if numeral.exponentNegative then numeral.scale - numeral.exponent
      else numeral.scale + numeral.exponent) <;> rfl

theorem lexeme_shift :
    (numeral.shift distance).lexeme (offset + distance) =
      (numeral.lexeme offset).shift distance := by
  have scaled := scaled_shift numeral distance offset
  have exact : (numeral.shift distance).exact = numeral.exact.shift distance := by
    obtain ⟨n, is⟩ := numeral.exists_exact
    rw [is]
    exact is
  have same : (numeral.shift distance).phase = numeral.phase := rfl
  unfold lexeme
  rw [same]
  cases fault : numeral.fault with
  | some fault => simp [shift, fault, Lexeme.shift]
  | none =>
      have none? : (numeral.shift distance).fault = none := by simp [shift, fault]
      rw [none?]
      cases numeral.phase <;> first | exact exact | exact scaled | rfl

end Numeral

namespace Literal

/-- A string that stands so many bytes further back. -/
def shift (distance : Nat) (literal : Literal) : Literal :=
  { literal with
    flaw := literal.flaw.map (·.shift distance)
    phase :=
      match literal.phase with
      | .digits start count value => .digits (start + distance) count value
      | .spoilt start => .spoilt (start + distance)
      | phase => phase }

/-- What a character does to a string that stands so many bytes further back. -/
def Step.shift (distance : Nat) : Step → Step
  | .more literal => .more (literal.shift distance)
  | .ended lexeme => .ended (lexeme.shift distance)
  | .refused lexeme => .refused (lexeme.shift distance)

variable (literal : Literal) (distance offset : Nat)

theorem blemish_shift (cause : Cause) :
    (literal.shift distance).blemish cause (offset + distance) =
      (literal.blemish cause offset).shift distance := by
  cases flaw : literal.flaw <;> simp [blemish, shift, flaw, Fault.shift]

theorem broken_shift (read pass : Fault) :
    (literal.shift distance).broken (read.shift distance) (pass.shift distance) =
      (literal.broken read pass).shift distance := by
  cases flaw : literal.flaw <;> simp [broken, shift, flaw, Lexeme.shift]

theorem refused_shift (cause : Cause) (read pass : Nat) :
    Step.refused ((literal.shift distance).broken ⟨cause, read + distance⟩
        ⟨cause, pass + distance⟩) =
      (Step.refused (literal.broken ⟨cause, read⟩ ⟨cause, pass⟩)).shift distance :=
  congrArg Step.refused (literal.broken_shift distance ⟨cause, read⟩ ⟨cause, pass⟩)

theorem lexeme_shift : (literal.shift distance).lexeme = literal.lexeme.shift distance := by
  cases flaw : literal.flaw <;> simp [lexeme, shift, flaw, Lexeme.shift]

theorem pushCode_shift (code : Nat) :
    (literal.shift distance).pushCode code (offset + distance) =
      (literal.pushCode code offset).shift distance := by
  have same : (literal.shift distance).half = literal.half := rfl
  have blemished := blemish_shift { literal with phase := .plain } distance offset .loneSurrogate
  simp only [pushCode, same]
  cases literal.half
  all_goals
    repeat' split
    all_goals first | rfl | exact blemished

/-- A pair that is broken off is noticed further back. -/
theorem interrupted_shift (interrupts : Prop) [Decidable interrupts] :
    (if (literal.shift distance).half.isSome ∧ interrupts then
        (literal.shift distance).blemish .unfinishedPair (offset + distance + 1)
      else literal.shift distance) =
      (if literal.half.isSome ∧ interrupts then literal.blemish .unfinishedPair (offset + 1)
        else literal).shift distance := by
  have same : (literal.shift distance).half = literal.half := rfl
  rw [same, Nat.add_right_comm, blemish_shift]
  split <;> rfl

theorem spoil_shift (c : Char) (start : Nat) :
    step.spoil (offset + distance) c (literal.shift distance) (start + distance) =
      (step.spoil offset c literal start).shift distance := by
  have same : start + distance + 4 ≤ offset + distance + c.utf8Size ↔
      start + 4 ≤ offset + c.utf8Size := by omega
  simp only [step.spoil, same]
  split
  · rw [Nat.add_right_comm, refused_shift]
  · rfl

theorem step_shift (c : Char) :
    (literal.shift distance).step (offset + distance) c =
      (literal.step offset c).shift distance := by
  cases phase : literal.phase with
  | plain =>
      have plain : (literal.shift distance).phase = .plain := by simp [shift, phase]
      simp only [step, phase, plain, interrupted_shift]
      generalize (if literal.half.isSome ∧ c ≠ '\\' then
        literal.blemish .unfinishedPair (offset + 1) else literal) = current
      repeat' split
      · exact congrArg Step.ended (lexeme_shift ..)
      · rfl
      · rw [Nat.add_right_comm, refused_shift]
      · rfl
  | escape =>
      have escape : (literal.shift distance).phase = .escape := by simp [shift, phase]
      simp only [step, phase, escape, interrupted_shift]
      generalize (if literal.half.isSome ∧ c ≠ 'u' then
        literal.blemish .unfinishedPair (offset + 1) else literal) = current
      repeat' split
      · simp [Step.shift, shift, Nat.add_right_comm]
      · rfl
      · rw [Nat.add_right_comm, refused_shift]
  | digits start count value =>
      have digits : (literal.shift distance).phase = .digits (start + distance) count value := by
        simp [shift, phase]
      simp only [step, phase, digits, Nat.add_right_comm offset distance 1, pushCode_shift,
        spoil_shift]
      repeat' split
      all_goals rfl
  | spoilt start =>
      have spoilt : (literal.shift distance).phase = .spoilt (start + distance) := by
        simp [shift, phase]
      simp only [step, phase, spoilt, spoil_shift]

end Literal

namespace Lexer

/-- What a lexer is in the middle of, so many bytes further back. -/
def Mode.shift (distance : Nat) : Mode → Mode
  | .between => .between
  | .word start rest lexeme => .word (start + distance) rest (lexeme.shift distance)
  | .numeral start begun => .numeral (start + distance) (begun.shift distance)
  | .literal start begun => .literal (start + distance) (begun.shift distance)
  | .stopped => .stopped

/-- A lexer that has read its text behind that of another one. -/
def behind (lexer front : Lexer) : Lexer :=
  ⟨lexer.offset + front.offset, lexer.tokens.map (·.shift front.offset) ++ front.tokens,
    lexer.mode.shift front.offset⟩

variable (lexer front : Lexer)

theorem emit_behind (lexeme : Lexeme) (start stop : Nat) :
    (lexer.behind front).emit (lexeme.shift front.offset) (start + front.offset)
        (stop + front.offset) =
      (lexer.emit lexeme start stop).behind front :=
  rfl

theorem stop_behind (lexeme : Lexeme) (start : Nat) :
    (lexer.behind front).stop (lexeme.shift front.offset) (start + front.offset) =
      (lexer.stop lexeme start).behind front := by
  simp [stop, emit, behind, Token.shift, Mode.shift, Nat.add_right_comm]

theorem stop_malformed_behind (cause : Cause) (start : Nat) :
    let fault (lexer : Lexer) : Fault := ⟨cause, lexer.offset + 1⟩
    (lexer.behind front).stop
        (.malformed false ((fault lexer).shift front.offset)
          (some ((fault lexer).shift front.offset))) (start + front.offset) =
      (lexer.stop (.malformed false (fault lexer) (some (fault lexer))) start).behind front :=
  lexer.stop_behind front (.malformed false ⟨cause, lexer.offset + 1⟩
    (some ⟨cause, lexer.offset + 1⟩)) start

theorem shift_of_word? {c : Char} {rest : List Char} {lexeme : Lexeme}
    (is : word? c = some (rest, lexeme)) (distance : Nat) : lexeme.shift distance = lexeme := by
  unfold word? at is
  split at is <;> cases is <;> rfl

theorem begin_behind (c : Char) :
    (lexer.behind front).begin c = (lexer.begin c).behind front := by
  unfold begin
  split
  · rfl
  · split
    · next symbol _ _ _ =>
        simp [behind, emit, Token.shift, Lexeme.shift, Mode.shift, Nat.add_right_comm]
    · next is => simp [behind, Mode.shift, shift_of_word? is]
    · next is => simp [behind, Mode.shift, Numeral.shift_of_ofChar? is]
    · split
      · rfl
      · exact lexer.stop_behind front .stray lexer.offset

theorem consume_behind (c : Char) :
    (lexer.behind front).consume c = (lexer.consume c).behind front := by
  have further : (lexer.behind front).offset = lexer.offset + front.offset := rfl
  cases mode : lexer.mode with
  | between =>
      have between : (lexer.behind front).mode = .between := by simp [behind, mode, Mode.shift]
      simp only [consume, mode, between, begin_behind]
  | word start rest lexeme =>
      have word : (lexer.behind front).mode =
          .word (start + front.offset) rest (lexeme.shift front.offset) := by
        simp [behind, mode, Mode.shift]
      cases rest with
      | nil => simp only [consume, mode, word, further, emit_behind, begin_behind]
      | cons d rest =>
          simp only [consume, mode, word, further, Nat.add_right_comm _ _ 1, emit_behind]
          repeat' split
          · rfl
          · simp [behind, Mode.shift]
          · exact lexer.stop_malformed_behind front .expectedWord start
  | numeral start numeral =>
      have numeral' : (lexer.behind front).mode =
          .numeral (start + front.offset) (numeral.shift front.offset) := by
        simp [behind, mode, Mode.shift]
      simp only [consume, mode, numeral', further, Numeral.step_shift]
      cases numeral.step lexer.offset c with
      | more next => simp [Numeral.Step.shift, behind, Mode.shift]
      | ended =>
          simp only [Numeral.Step.shift, Numeral.lexeme_shift, emit_behind, begin_behind]
      | refused =>
          simp only [Numeral.Step.shift, Nat.add_right_comm _ _ 1]
          exact lexer.stop_malformed_behind front .invalidNumber start
  | literal start literal =>
      have literal' : (lexer.behind front).mode =
          .literal (start + front.offset) (literal.shift front.offset) := by
        simp [behind, mode, Mode.shift]
      simp only [consume, mode, literal', further, Literal.step_shift]
      cases literal.step lexer.offset c with
      | more next => simp [Literal.Step.shift, behind, Mode.shift]
      | ended lexeme =>
          simp only [Literal.Step.shift, Nat.add_right_comm _ _ 1, emit_behind]
      | refused lexeme => exact lexer.stop_behind front lexeme start
  | stopped =>
      have stopped : (lexer.behind front).mode = .stopped := by simp [behind, mode, Mode.shift]
      simp only [consume, mode, stopped]

/-- Where a token may begin, a text is read as if it stood alone. -/
theorem start_behind {front : Lexer} (between : front.mode = .between) :
    start.behind front = front := by
  cases front
  cases between
  simp [behind, start, Mode.shift]

/-- A character does the same behind another text. -/
theorem step_behind (c : Char) : (lexer.behind front).step c = (lexer.step c).behind front := by
  simp only [step, consume_behind]
  simp [behind, Nat.add_right_comm]

theorem foldl_step_behind (text : List Char) :
    text.foldl step (lexer.behind front) = (text.foldl step lexer).behind front := by
  induction text generalizing lexer with
  | nil => rfl
  | cons c text ih => rw [List.foldl_cons, step_behind, ih, List.foldl_cons]

end Lexer

/-! ## Tokens that were given -/

namespace Lexer

variable (lexer : Lexer)

theorem tokens_subset_begin (c : Char) : lexer.tokens ⊆ (lexer.begin c).tokens := by
  unfold begin
  repeat' split
  all_goals simp [emit, stop]

theorem tokens_subset_step (c : Char) : lexer.tokens ⊆ (lexer.step c).tokens := by
  have emitted (lexeme : Lexeme) (start stop : Nat) :
      lexer.tokens ⊆ ((lexer.emit lexeme start stop).begin c).tokens := by
    have kept : lexer.tokens ⊆ (lexer.emit lexeme start stop).tokens :=
      List.subset_cons_self _ _
    exact List.Subset.trans kept (tokens_subset_begin _ c)
  change lexer.tokens ⊆ (lexer.consume c).tokens
  unfold consume
  repeat' split
  all_goals first | exact tokens_subset_begin lexer c | exact emitted _ _ _ | simp [emit, stop]

theorem tokens_subset_foldl (text : List Char) :
    lexer.tokens ⊆ (text.foldl step lexer).tokens := by
  induction text generalizing lexer with
  | nil => exact List.Subset.refl _
  | cons c text ih => exact List.Subset.trans (tokens_subset_step lexer c) (ih _)

theorem tokens_subset_finish : lexer.tokens ⊆ lexer.finish.tokens := by
  unfold finish
  split <;> simp [emit]

end Lexer

/-! ## Sound lexemes -/

/-- A lexeme that is read wherever it may stand. -/
def Lexeme.IsSound : Lexeme → Prop
  | .malformed _ _ _ | .stray => False
  | _ => True

theorem Lexeme.shift_of_isSound {lexeme : Lexeme} (sound : lexeme.IsSound) (distance : Nat) :
    lexeme.shift distance = lexeme := by
  cases lexeme with
  | malformed quoted inRead inPass => exact sound.elim
  | _ => rfl

theorem Lexeme.isSound_shift {lexeme : Lexeme} {distance : Nat} :
    (lexeme.shift distance).IsSound ↔ lexeme.IsSound := by
  cases lexeme <;> rfl

/-- A string is refused only as something malformed. -/
theorem Literal.not_isSound_of_step {literal : Literal} {offset : Nat} {c : Char}
    {lexeme : Lexeme} (refused : literal.step offset c = .refused lexeme) : ¬lexeme.IsSound := by
  have broken (literal : Literal) (read pass : Fault) : ¬(literal.broken read pass).IsSound := id
  have spoiled {start : Nat} (refused : step.spoil offset c literal start = .refused lexeme) :
      ¬lexeme.IsSound := by
    unfold step.spoil at refused
    split at refused
    · cases refused
      exact broken _ _ _
    · cases refused
  unfold step at refused
  split at refused
  · repeat' split at refused
    all_goals cases refused
    all_goals exact broken _ _ _
  · repeat' split at refused
    all_goals cases refused
    all_goals exact broken _ _ _
  · repeat' split at refused
    · cases refused
    · cases refused
    · exact spoiled refused
  · exact spoiled refused

/-- A numeral that is a number ends in front of every symbol. -/
theorem Numeral.step_symbol {numeral : Numeral} {offset : Nat}
    (sound : (numeral.lexeme offset).IsSound) {c : Char} {symbol : Symbol}
    (is : Symbol.ofChar? c = some symbol) : numeral.step offset c = .ended := by
  obtain ⟨-, noDigit, noPoint, noMark, noMark'⟩ := Lexer.symbol_plain is
  unfold lexeme at sound
  cases fault : numeral.fault with
  | some fault =>
      rw [fault] at sound
      exact sound.elim
  | none =>
      rw [fault] at sound
      cases phase : numeral.phase with
      | sign | point | mark | markSign =>
          rw [phase] at sound
          exact sound.elim
      | zero | whole | longWhole =>
          simp [step, phase, noDigit, afterWhole, noPoint, noMark, noMark']
      | fraction | longFraction =>
          simp [step, phase, noDigit, afterFraction, noMark, noMark']
      | exponent | longExponent => simp [step, phase, noDigit]

namespace Lexer

/-- A lexer has stopped only at a lexeme that is not sound. -/
def StopsUnsound (lexer : Lexer) : Prop :=
  lexer.mode = .stopped → ∃ token ∈ lexer.tokens, ¬token.lexeme.IsSound

variable {lexer : Lexer}

theorem stopsUnsound_stop {lexeme : Lexeme} (unsound : ¬lexeme.IsSound) (start : Nat) :
    (lexer.stop lexeme start).StopsUnsound :=
  fun _ => ⟨_, List.mem_cons_self, unsound⟩

theorem stopsUnsound_begin (c : Char) : (lexer.begin c).StopsUnsound := by
  unfold begin
  split
  · nofun
  · split
    · nofun
    · nofun
    · nofun
    · split
      · nofun
      · exact stopsUnsound_stop id _

theorem StopsUnsound.step (before : lexer.StopsUnsound) (c : Char) :
    (lexer.step c).StopsUnsound := by
  have consumed : (lexer.consume c).StopsUnsound := by
    unfold consume
    split
    · exact stopsUnsound_begin c
    · split
      · split <;> nofun
      · exact stopsUnsound_stop id _
    · exact stopsUnsound_begin c
    · split
      · nofun
      · exact stopsUnsound_begin c
      · exact stopsUnsound_stop id _
    · split
      · nofun
      · nofun
      · next refused => exact stopsUnsound_stop (Literal.not_isSound_of_step refused) _
    · exact before
  exact consumed

theorem StopsUnsound.foldl_step (before : lexer.StopsUnsound) (text : List Char) :
    (text.foldl Lexer.step lexer).StopsUnsound := by
  induction text generalizing lexer with
  | nil => exact before
  | cons c text ih => exact ih (before.step c)

/-- In front of a symbol the last token is as complete as at the end of the text. -/
theorem step_symbol (stops : lexer.StopsUnsound)
    (sound : ∀ token ∈ lexer.finish.tokens, token.lexeme.IsSound) {c : Char} {symbol : Symbol}
    (is : Symbol.ofChar? c = some symbol) :
    (lexer.step c).mode = .between ∧
      (lexer.step c).tokens =
        ⟨.symbol symbol, lexer.offset, lexer.offset + 1⟩ :: lexer.finish.tokens := by
  obtain ⟨visible, -⟩ := symbol_plain is
  cases mode : lexer.mode with
  | between => simp [step, consume, finish, mode, begin, is, visible, emit]
  | word start rest lexeme =>
      simp [finish, mode, emit, Lexeme.IsSound] at sound
  | numeral start numeral =>
      have number : (numeral.lexeme lexer.offset).IsSound := by
        simp only [finish, mode] at sound
        exact sound _ List.mem_cons_self
      simp [step, consume, finish, mode, Numeral.step_symbol number is, begin, is, visible, emit]
  | literal start literal =>
      simp [finish, mode, emit, Literal.unfinished, Literal.broken, Lexeme.IsSound] at sound
  | stopped =>
      obtain ⟨token, tokenMem, unsound⟩ := stops mode
      simp only [finish, mode] at sound
      exact absurd (sound token tokenMem) unsound

end Lexer

/-- A text without unsound lexemes is cut in front of symbols, wherever it stands. -/
theorem cutsInFront_of_isSound {text : List Char}
    (sound : ∀ token ∈ (tokenize text).tokens, token.lexeme.IsSound) :
    Lexer.CutsInFront text ((tokenize text).tokens.map (·.lexeme)) := by
  intro c symbol is lexer between
  have begins : Lexer.start.StopsUnsound := by
    intro stopped
    cases stopped
  have stops := begins.foldl_step text
  simp only [tokenize, List.mem_reverse] at sound ⊢
  obtain ⟨closed, tokens⟩ := Lexer.step_symbol stops sound is
  have whole : (text ++ [c]).foldl Lexer.step lexer =
      ((text.foldl Lexer.step Lexer.start).step c).behind lexer := by
    rw [← Lexer.step_behind, ← Lexer.foldl_step_behind, Lexer.start_behind between,
      List.foldl_append]
    rfl
  have kept : ∀ token ∈ ((text.foldl Lexer.step Lexer.start).step c).tokens,
      (token.shift lexer.offset).lexeme = token.lexeme := by
    rw [tokens, List.forall_mem_cons]
    exact ⟨rfl, fun token tokenMem => Lexeme.shift_of_isSound (sound token tokenMem) _⟩
  rw [whole]
  refine ⟨((text.foldl Lexer.step Lexer.start).step c).tokens.reverse.map (·.shift lexer.offset),
    ?_, ?_, ?_⟩
  · calc
      _ = ((text.foldl Lexer.step Lexer.start).step c).tokens.reverse.map (·.lexeme) := by
        rw [List.map_map]
        exact List.map_congr_left fun token tokenMem => kept token (List.mem_reverse.mp tokenMem)
      _ = _ := by simp [tokens]
  · simp [Lexer.behind, closed, Lexer.Mode.shift]
  · simp [Lexer.behind]

end ContextStream.Json
