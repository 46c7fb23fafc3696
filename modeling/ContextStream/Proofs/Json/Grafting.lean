import ContextStream.Proofs.Json.Embedding
import ContextStream.Proofs.Json.Records

/-!
# Values inside other values

The tokens of a value fill a hole in the same way wherever the hole is. What a token leads
to, when it is not refused, depends on its lexeme alone; so whatever is read on its own is
also read as a part of something else that leaves enough room for it, and is passed over
where nobody asks for it.
-/

namespace ContextStream.Json

/-! ## Levels -/

/-- How many lists and objects are open behind a lexeme. -/
def Lexeme.level (level : Nat) : Lexeme → Nat
  | .symbol .listOpen | .symbol .objectOpen => level + 1
  | .symbol .listClose | .symbol .objectClose => level - 1
  | _ => level

/-- The most lists and objects that are open at the same time. -/
def highest (level : Nat) : List Lexeme → Nat
  | [] => level
  | lexeme :: lexemes => max level (highest (lexeme.level level) lexemes)

/-- How many lists and objects of a text are inside each other. -/
def nesting (text : List Char) : Nat :=
  highest 0 ((tokenize text).tokens.map (·.lexeme))

/-- So many lists and objects may be open at the same time. -/
def Manner.Allows : Manner → Nat → Prop
  | .read room, level => level ≤ room
  | .pass, _ => True

theorem le_highest (level : Nat) (lexemes : List Lexeme) : level ≤ highest level lexemes := by
  cases lexemes with
  | nil => exact Nat.le_refl level
  | cons lexeme lexemes => exact Nat.le_max_left ..

theorem Manner.Allows.mono {manner : Manner} {less more : Nat} (allows : manner.Allows more)
    (le : less ≤ more) : manner.Allows less := by
  cases manner with
  | read room => exact Nat.le_trans le allows
  | pass => trivial

/-! ## What a lexeme leads to -/

/-- A lexeme begins a value in a hole. -/
inductive Context.Begins (context : Context) : Lexeme → Progress → Prop
  | null : Begins context .null (context.fill .null)
  | bool (b : Bool) : Begins context (.bool b) (context.fill (.bool b))
  | number (n : Number) : Begins context (.number n) (context.fill (.number n))
  | string (s : String) : Begins context (.string s) (context.fill (.string s))
  | list : Begins context (.symbol .listOpen) (.missing (.firstItem context))
  | object : Begins context (.symbol .objectOpen) (.missing (.firstKey context))

/-- A lexeme leads on from a position. -/
inductive Position.Leads : Position → Lexeme → Progress → Prop
  | value {context : Context} {lexeme : Lexeme} {progress : Progress}
      (begins : context.Begins lexeme progress) : Leads (.value context) lexeme progress
  | firstItem {outer : Context} {lexeme : Lexeme} {progress : Progress}
      (begins : (Context.item [] outer).Begins lexeme progress) :
      Leads (.firstItem outer) lexeme progress
  | emptyList (outer : Context) :
      Leads (.firstItem outer) (.symbol .listClose) (outer.fill (.list []))
  | nextItem {items : List Value} {outer : Context} {lexeme : Lexeme} {progress : Progress}
      (begins : (Context.item items outer).Begins lexeme progress) :
      Leads (.nextItem items outer) lexeme progress
  | itemComma (items : List Value) (outer : Context) :
      Leads (.afterItem items outer) (.symbol .comma) (.missing (.nextItem items outer))
  | listEnd (items : List Value) (outer : Context) :
      Leads (.afterItem items outer) (.symbol .listClose) (outer.fill (.list items.reverse))
  | firstKey (key : String) (outer : Context) :
      Leads (.firstKey outer) (.string key) (.missing (.colon [] key outer))
  | emptyObject (outer : Context) :
      Leads (.firstKey outer) (.symbol .objectClose) (outer.fill (.object []))
  | nextKey (members : List (String × Value)) (key : String) (outer : Context) :
      Leads (.nextKey members outer) (.string key) (.missing (.colon members key outer))
  | colon (members : List (String × Value)) (key : String) (outer : Context) :
      Leads (.colon members key outer) (.symbol .colon)
        (.missing (.value (.member members key outer)))
  | memberComma (members : List (String × Value)) (outer : Context) :
      Leads (.afterMember members outer) (.symbol .comma) (.missing (.nextKey members outer))
  | objectEnd (members : List (String × Value)) (outer : Context) :
      Leads (.afterMember members outer) (.symbol .objectClose) (outer.fill (.object members))

theorem Context.begins_of_begin {context : Context} {room : Nat} {token : Token}
    {progress : Progress} (begun : context.begin (.read room) token = .ok progress) :
    context.Begins token.lexeme progress := by
  unfold begin at begun
  split at begun
  · next is =>
      cases begun
      exact is ▸ .null
  · next is =>
      cases begun
      exact is ▸ .bool _
  · next is =>
      cases begun
      exact is ▸ .number _
  · next is =>
      cases begun
      exact is ▸ .string _
  · next is =>
      simp only [enter] at begun
      split at begun
      · cases begun
        exact is ▸ .list
      · cases begun
  · next is =>
      simp only [enter] at begun
      split at begun
      · cases begun
        exact is ▸ .object
      · cases begun
  · cases begun
  · cases begun
  · cases begun

/-- A key that is read is a string. -/
theorem Manner.lexeme_of_key {room : Nat} {token : Token} {key : String}
    (found : (Manner.read room).key token = .ok key) : token.lexeme = .string key := by
  unfold Manner.key at found
  split at found
  · next is =>
      cases found
      exact is
  · cases found
  · cases found

/-- A token that is not refused leads on by its lexeme. -/
theorem Position.leads_of_step {position : Position} {room : Nat} {token : Token}
    {progress : Progress} (stepped : position.step (.read room) token = .ok progress) :
    position.Leads token.lexeme progress := by
  cases position with
  | value context => exact .value (Context.begins_of_begin stepped)
  | firstItem outer =>
      simp only [step] at stepped
      split at stepped
      · next is =>
          cases stepped
          exact is ▸ .emptyList outer
      · exact .firstItem (Context.begins_of_begin stepped)
  | nextItem items outer =>
      simp only [step] at stepped
      split at stepped
      · cases stepped
      · exact .nextItem (Context.begins_of_begin stepped)
  | afterItem items outer =>
      simp only [step] at stepped
      split at stepped
      · next is =>
          cases stepped
          exact is ▸ .itemComma items outer
      · next is =>
          cases stepped
          exact is ▸ .listEnd items outer
      · cases stepped
  | firstKey outer =>
      simp only [step] at stepped
      split at stepped
      · next is =>
          cases stepped
          exact is ▸ .emptyObject outer
      · cases found : (Manner.read room).key token with
        | error fault => simp [found, Except.map] at stepped
        | ok key =>
            simp only [found, Except.map, Except.ok.injEq] at stepped
            rw [← stepped, Manner.lexeme_of_key found]
            exact .firstKey key outer
  | nextKey members outer =>
      simp only [step] at stepped
      split at stepped
      · cases stepped
      · cases found : (Manner.read room).key token with
        | error fault => simp [found, Except.map] at stepped
        | ok key =>
            simp only [found, Except.map, Except.ok.injEq] at stepped
            rw [← stepped, Manner.lexeme_of_key found]
            exact .nextKey members key outer
  | colon members key outer =>
      simp only [step] at stepped
      split at stepped
      · next is =>
          cases stepped
          exact is ▸ .colon members key outer
      · cases stepped
  | afterMember members outer =>
      simp only [step] at stepped
      split at stepped
      · next is =>
          cases stepped
          exact is ▸ .memberComma members outer
      · next is =>
          cases stepped
          exact is ▸ .objectEnd members outer
      · cases stepped

/-! ## How much is open -/

/-- How many lists and objects are open where something is missing. -/
def Position.depth : Position → Nat
  | .value context => context.depth
  | .firstItem outer | .nextItem _ outer | .afterItem _ outer | .firstKey outer
  | .nextKey _ outer | .colon _ _ outer | .afterMember _ outer => outer.depth + 1

/-- How many lists and objects are still open. -/
def Progress.depth : Progress → Nat
  | .missing position => position.depth
  | .complete _ => 0

theorem Context.depth_fill (context : Context) (value : Value) :
    (context.fill value).depth = context.depth := by
  cases context <;> rfl

theorem Context.Begins.depth {context : Context} {lexeme : Lexeme} {progress : Progress}
    (begins : context.Begins lexeme progress) : progress.depth = lexeme.level context.depth := by
  cases begins with
  | null | bool | number | string => exact context.depth_fill _
  | list | object => rfl

/-- A lexeme changes how much is open as it says. -/
theorem Position.Leads.depth {position : Position} {lexeme : Lexeme} {progress : Progress}
    (leads : position.Leads lexeme progress) : progress.depth = lexeme.level position.depth := by
  cases leads with
  | value begins | firstItem begins | nextItem begins => exact begins.depth
  | emptyList outer | listEnd _ outer | emptyObject outer | objectEnd _ outer =>
      exact outer.depth_fill _
  | itemComma | firstKey | nextKey | colon | memberComma => rfl

/-! ## Holes in holes -/

/-- A hole inside another one. -/
def Context.within : (context outside : Context) → Context
  | .whole, outside => outside
  | .item items outer, outside => .item items (outer.within outside)
  | .member members key outer, outside => .member members key (outer.within outside)

/-- What is missing, inside a hole. -/
def Position.within (outside : Context) : Position → Position
  | .value context => .value (context.within outside)
  | .firstItem outer => .firstItem (outer.within outside)
  | .nextItem items outer => .nextItem items (outer.within outside)
  | .afterItem items outer => .afterItem items (outer.within outside)
  | .firstKey outer => .firstKey (outer.within outside)
  | .nextKey members outer => .nextKey members (outer.within outside)
  | .colon members key outer => .colon members key (outer.within outside)
  | .afterMember members outer => .afterMember members (outer.within outside)

/-- What a token leads to, inside a hole; a complete value fills it. -/
def Progress.within (outside : Context) : Progress → Progress
  | .missing position => .missing (position.within outside)
  | .complete value => outside.fill value

variable {outside : Context}

theorem Context.depth_within (context : Context) :
    (context.within outside).depth = outside.depth + context.depth := by
  induction context with
  | whole => rfl
  | item items outer ih => simp only [within, depth, ih, Nat.add_assoc]
  | member members key outer ih => simp only [within, depth, ih, Nat.add_assoc]

theorem Position.depth_within (position : Position) :
    (position.within outside).depth = outside.depth + position.depth := by
  cases position <;> simp only [within, depth, Context.depth_within, Nat.add_assoc]

theorem Context.fill_within (context outside : Context) (value : Value) :
    (context.within outside).fill value = (context.fill value).within outside := by
  cases context <;> rfl

theorem Context.Begins.within {context : Context} {lexeme : Lexeme} {progress : Progress}
    (begins : context.Begins lexeme progress) :
    (context.within outside).Begins lexeme (progress.within outside) := by
  cases begins with
  | null => exact fill_within context outside _ ▸ .null
  | bool b => exact fill_within context outside _ ▸ .bool b
  | number n => exact fill_within context outside _ ▸ .number n
  | string s => exact fill_within context outside _ ▸ .string s
  | list => exact .list
  | object => exact .object

theorem Position.Leads.within {position : Position} {lexeme : Lexeme} {progress : Progress}
    (leads : position.Leads lexeme progress) :
    (position.within outside).Leads lexeme (progress.within outside) := by
  cases leads with
  | value begins => exact .value begins.within
  | firstItem begins => exact .firstItem begins.within
  | nextItem begins => exact .nextItem begins.within
  | emptyList outer => exact outer.fill_within outside _ ▸ .emptyList _
  | listEnd items outer => exact outer.fill_within outside _ ▸ .listEnd items _
  | emptyObject outer => exact outer.fill_within outside _ ▸ .emptyObject _
  | objectEnd members outer => exact outer.fill_within outside _ ▸ .objectEnd members _
  | itemComma items outer => exact .itemComma items _
  | firstKey key outer => exact .firstKey key _
  | nextKey members key outer => exact .nextKey members key _
  | colon members key outer => exact .colon members key _
  | memberComma members outer => exact .memberComma members _

/-! ## Steps of any manner -/

theorem Context.Begins.begin {context : Context} {token : Token} {progress : Progress}
    (begins : context.Begins token.lexeme progress) {manner : Manner}
    (allows : manner.Allows (token.lexeme.level context.depth)) :
    context.begin manner token = .ok progress := by
  unfold Context.begin
  generalize token.lexeme = lexeme at begins allows
  cases begins with
  | null | bool | number | string => rfl
  | list | object =>
      cases manner with
      | read room => exact if_pos allows
      | pass => rfl

/-- The end of a list begins no value. -/
theorem Context.Begins.ne_listClose {context : Context} {lexeme : Lexeme} {progress : Progress}
    (begins : context.Begins lexeme progress) : lexeme ≠ .symbol .listClose := by
  rintro rfl
  cases begins

/-- A token leads on by its lexeme in any manner that leaves enough room. -/
theorem Position.Leads.step {position : Position} {token : Token} {progress : Progress}
    (leads : position.Leads token.lexeme progress) {manner : Manner}
    (allows : manner.Allows (token.lexeme.level position.depth)) :
    position.step manner token = .ok progress := by
  generalize is : token.lexeme = lexeme at leads
  cases leads with
  | value begins => exact (is ▸ begins).begin allows
  | firstItem begins =>
      have begun := (is ▸ begins).begin allows
      simp only [Position.step]
      split
      · next close => exact absurd (is.symm.trans close) begins.ne_listClose
      · exact begun
  | nextItem begins =>
      have begun := (is ▸ begins).begin allows
      simp only [Position.step]
      split
      · next close => exact absurd (is.symm.trans close) begins.ne_listClose
      · exact begun
  | emptyList outer => simp [Position.step, is]
  | itemComma items outer => simp [Position.step, is]
  | listEnd items outer => simp [Position.step, is]
  | firstKey key outer => cases manner <;> simp [Position.step, is, Manner.key, Except.map]
  | emptyObject outer => simp [Position.step, is]
  | nextKey members key outer =>
      cases manner <;> simp [Position.step, is, Manner.key, Except.map]
  | colon members key outer => simp [Position.step, is]
  | memberComma members outer => simp [Position.step, is]
  | objectEnd members outer => simp [Position.step, is]

/-! ## Runs -/

/-- Lexemes complete the value of which something is missing. -/
inductive Position.Completes : Position → List Lexeme → Value → Prop
  | last {position : Position} {lexeme : Lexeme} {value : Value}
      (leads : position.Leads lexeme (.complete value)) : Completes position [lexeme] value
  | more {position next : Position} {lexeme : Lexeme} {lexemes : List Lexeme} {value : Value}
      (leads : position.Leads lexeme (.missing next)) (completes : next.Completes lexemes value) :
      Completes position (lexeme :: lexemes) value

theorem Position.Leads.isSound {position : Position} {lexeme : Lexeme} {progress : Progress}
    (leads : position.Leads lexeme progress) : lexeme.IsSound := by
  cases leads with
  | value begins | firstItem begins | nextItem begins => cases begins <;> trivial
  | _ => trivial

theorem Position.Completes.isSound {position : Position} {lexemes : List Lexeme} {value : Value}
    (completes : position.Completes lexemes value) : ∀ lexeme ∈ lexemes, lexeme.IsSound := by
  induction completes with
  | last leads => exact List.forall_mem_singleton.mpr leads.isSound
  | more leads _ ih => exact List.forall_mem_cons.mpr ⟨leads.isSound, ih⟩

/-- What is read to the end is complete. -/
theorem Position.completes_of_run {position : Position} {room size : Nat} {tokens : List Token}
    {value : Value} (read : position.run (.read room) size tokens = .ok (value, [])) :
    position.Completes (tokens.map (·.lexeme)) value := by
  induction tokens generalizing position with
  | nil => cases read
  | cons token tokens ih =>
      unfold run at read
      split at read
      · cases read
      · next stepped =>
          cases read
          exact .last (leads_of_step stepped)
      · next stepped => exact .more (leads_of_step stepped) (ih read)

theorem Lexeme.level_add_le (lexeme : Lexeme) (less more : Nat) :
    lexeme.level (less + more) ≤ less + lexeme.level more := by
  unfold level
  split <;> omega

/-- A token leads on inside a hole, in any manner that leaves enough room. -/
theorem Position.Leads.step_within {position : Position} {token : Token} {progress : Progress}
    (leads : position.Leads token.lexeme progress) {manner : Manner} {lexemes : List Lexeme}
    (allows : manner.Allows
      (outside.depth + highest position.depth (token.lexeme :: lexemes))) :
    (position.within outside).step manner token = .ok (progress.within outside) := by
  have level : token.lexeme.level (position.within outside).depth ≤
      outside.depth + highest position.depth (token.lexeme :: lexemes) := calc
    _ = token.lexeme.level (outside.depth + position.depth) := by rw [Position.depth_within]
    _ ≤ outside.depth + token.lexeme.level position.depth := token.lexeme.level_add_le ..
    _ ≤ outside.depth + highest (token.lexeme.level position.depth) lexemes :=
      Nat.add_le_add_left (le_highest ..) _
    _ ≤ _ := Nat.add_le_add_left (Nat.le_max_right ..) _
  exact leads.within.step (allows.mono level)

/-- Lexemes that complete a value fill any hole with it, in any manner that leaves enough
room for them. -/
theorem Position.Completes.run {position : Position} {lexemes : List Lexeme} {value : Value}
    (completes : position.Completes lexemes value) {manner : Manner}
    (allows : manner.Allows (outside.depth + highest position.depth lexemes))
    {tokens : List Token} (means : tokens.map (·.lexeme) = lexemes) (size : Nat)
    (rest : List Token) :
    (position.within outside).run manner size (tokens ++ rest) =
      (outside.fill value).run manner size rest := by
  induction completes generalizing tokens with
  | last leads =>
      obtain ⟨token, rfl, rfl⟩ := List.map_eq_singleton_iff.mp means
      exact Position.run_cons (leads.step_within allows) size rest
  | @more position next lexeme lexemes value leads completes ih =>
      obtain ⟨token, behind, rfl, rfl, behindMeans⟩ := List.map_eq_cons_iff.mp means
      have open? : next.depth = token.lexeme.level position.depth := leads.depth
      have further : manner.Allows (outside.depth + highest next.depth lexemes) :=
        allows.mono (Nat.add_le_add_left (open? ▸ Nat.le_max_right ..) _)
      rw [List.cons_append, Position.run_cons (leads.step_within allows)]
      exact ih further behindMeans

/-- Lexemes that complete a value spell it. -/
theorem Position.Completes.spells {lexemes : List Lexeme} {value : Value}
    (completes : (Position.value .whole).Completes lexemes value) :
    Spells (highest 0 lexemes) lexemes value := by
  intro context room tokens size rest means fits
  have allows : (Manner.read room).Allows (context.depth + highest 0 lexemes) := fits
  exact completes.run allows means size rest

/-- Lexemes that complete a value are passed over. -/
theorem Position.Completes.reads_passValue {lexemes : List Lexeme} {value : Value}
    (completes : (Position.value .whole).Completes lexemes value) :
    Reads passValue lexemes () := by
  intro size rest tokens means
  have allows : Manner.pass.Allows (Context.whole.depth + highest 0 lexemes) := trivial
  have passed : (Position.value .whole).run .pass size (tokens ++ rest) = .ok (value, rest) :=
    completes.run allows means size rest
  simp [passValue, passed, Except.map]

/-! ## Texts -/

/-- The tokens of a text that is read on its own complete its value. -/
theorem completes_of_parse {text : List Char} {value : Value}
    (read : parse (String.ofList text) = .ok value) :
    (Position.value .whole).Completes ((tokenize text).tokens.map (·.lexeme)) value := by
  have whole := readValue_of_parse read
  rw [String.toList_ofList] at whole
  exact Position.completes_of_run whole

/-- A text that is read on its own is cut in front of symbols, wherever it stands. -/
theorem cutsInFront_of_parse {text : List Char} {value : Value}
    (read : parse (String.ofList text) = .ok value) :
    Lexer.CutsInFront text ((tokenize text).tokens.map (·.lexeme)) := by
  have sound := (completes_of_parse read).isSound
  intro c symbol is
  exact cutsInFront_of_isSound (List.forall_mem_map.mp sound) is

/-- Nothing is read of a text in which this one stands behind whole tokens and in front of a
symbol. -/
def Unreadable (text : List Char) : Prop :=
  ∀ {front rest : List Char} {lexemes : List Lexeme} {c : Char} {symbol : Symbol} {value : Value},
    Lexer.Cuts front lexemes → Symbol.ofChar? c = some symbol →
      parse (String.ofList (front ++ (text ++ c :: rest))) ≠ .ok value

/-- A token that is not sound spoils every text around it. -/
theorem unreadable_of_token {text : List Char} {token : Token} (unsound : ¬token.lexeme.IsSound)
    (given : ∀ {c : Char} {symbol : Symbol}, Symbol.ofChar? c = some symbol →
      token ∈ ((text ++ [c]).foldl Lexer.step Lexer.start).tokens) : Unreadable text := by
  intro front rest lexemes c symbol value cuts is read
  obtain ⟨-, -, between, -⟩ := cuts Lexer.start rfl
  have whole : (front ++ (text ++ c :: rest)).foldl Lexer.step Lexer.start =
      rest.foldl Lexer.step (((text ++ [c]).foldl Lexer.step Lexer.start).behind
        (front.foldl Lexer.step Lexer.start)) := by
    rw [← Lexer.foldl_step_behind, Lexer.start_behind between, ← List.foldl_append,
      ← List.foldl_append]
    simp
  have moved : token.shift (front.foldl Lexer.step Lexer.start).offset ∈
      (((text ++ [c]).foldl Lexer.step Lexer.start).behind
        (front.foldl Lexer.step Lexer.start)).tokens :=
    List.mem_append_left _ (List.mem_map_of_mem (given is))
  have found := Lexer.tokens_subset_finish _ (Lexer.tokens_subset_foldl _ rest moved)
  rw [← whole] at found
  have inTokens := List.mem_map_of_mem (f := (·.lexeme)) (List.mem_reverse.mpr found)
  exact unsound (Lexeme.isSound_shift.mp ((completes_of_parse read).isSound _ inTokens))

end ContextStream.Json
