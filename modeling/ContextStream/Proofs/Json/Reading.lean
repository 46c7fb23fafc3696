import ContextStream.Json.Reader
import ContextStream.Proofs.Json.Lexing

/-!
# Lexemes and their values

Lexemes spell a value when reading them fills whatever hole stands in front of them.
Objects are spelled by their members one after the other, and a text of which the
lexemes spell a value is read as this value.
-/

namespace ContextStream.Json

/-- The lexemes of other members behind the value of a member, and of the end of the
object. -/
def moreMembers : List (String × List Lexeme) → List Lexeme
  | [] => [.symbol .objectClose]
  | (key, lexemes) :: others =>
      .symbol .comma :: .string key :: .symbol .colon :: (lexemes ++ moreMembers others)

/-- The lexemes of an object with members. -/
def objectOf : List (String × List Lexeme) → List Lexeme
  | [] => [.symbol .objectOpen, .symbol .objectClose]
  | (key, lexemes) :: others =>
      .symbol .objectOpen :: .string key :: .symbol .colon :: (lexemes ++ moreMembers others)

/-! ## Written members -/

namespace Lexer

/-- In front of every symbol, a text is cut into lexemes. -/
def CutsInFront (text : List Char) (lexemes : List Lexeme) : Prop :=
  ∀ {c : Char} {symbol : Symbol}, Symbol.ofChar? c = some symbol →
    Cuts (text ++ [c]) (lexemes ++ [.symbol symbol])

theorem Cuts.inFront {text : List Char} {lexemes : List Lexeme} (cuts : Cuts text lexemes) :
    CutsInFront text lexemes :=
  fun is => cuts.append (cuts_symbol is)

/-- The texts of members and their lexemes. -/
inductive CutsMembers : List (String × List Char) → List (String × List Lexeme) → Prop
  | nil : CutsMembers [] []
  | cons {key : String} {text : List Char} {lexemes : List Lexeme}
      {members : List (String × List Char)} {lexed : List (String × List Lexeme)}
      (value : CutsInFront text lexemes) (others : CutsMembers members lexed) :
      CutsMembers ((key, text) :: members) ((key, lexemes) :: lexed)

/-- The texts of keys and values, and the lexemes of the members. -/
inductive CutsParts : List (List Char × List Char) → List (String × List Lexeme) → Prop
  | nil : CutsParts [] []
  | cons {key : String} {name text : List Char} {lexemes : List Lexeme}
      {parts : List (List Char × List Char)} {lexed : List (String × List Lexeme)}
      (named : Cuts name [.string key]) (value : CutsInFront text lexemes)
      (others : CutsParts parts lexed) : CutsParts ((name, text) :: parts) ((key, lexemes) :: lexed)

theorem CutsMembers.parts {members : List (String × List Char)}
    {lexed : List (String × List Lexeme)} (cut : CutsMembers members lexed) :
    CutsParts (members.map fun (key, text) => (quote key, text)) lexed := by
  induction cut with
  | nil => exact .nil
  | cons value _ ih => exact .cons (cuts_quote _) value ih

/-- The text of other members behind the value of a member. -/
def moreText (parts : List (List Char × List Char)) : List Char :=
  (parts.map fun (name, text) => name ++ ':' :: text).flatMap ([','] ++ ·) ++ ['\x7d']

theorem cuts_moreText {parts : List (List Char × List Char)} {lexed : List (String × List Lexeme)}
    (cut : CutsParts parts lexed) {text : List Char} {lexemes : List Lexeme}
    (value : CutsInFront text lexemes) :
    Cuts (text ++ moreText parts) (lexemes ++ moreMembers lexed) := by
  induction cut generalizing text lexemes with
  | nil => exact value rfl
  | cons named memberValue _ ih =>
      have comma := (value (rfl : Symbol.ofChar? ',' = _)).append named
      have colon : Cuts [':'] [.symbol .colon] := cuts_symbol rfl
      have whole := (comma.append colon).append (ih memberValue)
      simpa [moreText, moreMembers] using whole

/-- Members are cut as the object that they are members of. -/
theorem cuts_objectText {parts : List (List Char × List Char)}
    {lexed : List (String × List Lexeme)} (cut : CutsParts parts lexed) :
    Cuts (objectText parts) (objectOf lexed) := by
  have opened : Cuts ['\x7b'] [.symbol .objectOpen] := cuts_symbol rfl
  cases cut with
  | nil => exact opened.append (cuts_symbol rfl)
  | cons named value others =>
      have colon : Cuts [':'] [.symbol .colon] := cuts_symbol rfl
      have whole := ((opened.append named).append colon).append (cuts_moreText others value)
      simpa [objectText, Text.joinWith, objectOf, moreText] using whole

/-- Members are cut as the object that they are written for. -/
theorem cuts_writeMembers {members : List (String × List Char)}
    {lexed : List (String × List Lexeme)} (cut : CutsMembers members lexed) :
    Cuts (writeMembers members) (objectOf lexed) := by
  have written : writeMembers members =
      objectText (members.map fun (key, text) => (quote key, text)) := by
    simp [writeMembers, objectText, Function.comp_def]
  exact written ▸ cuts_objectText cut.parts

end Lexer

/-! ## Values -/

/-- Goes on from what a token led to. -/
def Progress.run (manner : Manner) : Progress → Reader Value
  | .missing position => position.run manner
  | .complete value => fun _ rest => .ok (value, rest)

theorem Position.run_cons {manner : Manner} {position : Position} {token : Token}
    {progress : Progress} (stepped : position.step manner token = .ok progress) (size : Nat)
    (rest : List Token) :
    position.run manner size (token :: rest) = progress.run manner size rest := by
  rw [Position.run, stepped]
  cases progress <;> rfl

/-- Reading the lexemes fills the hole in front of them, if so many lists and objects
may still be opened in it. -/
def Spells (depth : Nat) (lexemes : List Lexeme) (value : Value) : Prop :=
  ∀ (context : Context) {room : Nat} {tokens : List Token} (size : Nat) (rest : List Token),
    tokens.map (·.lexeme) = lexemes → context.depth + depth ≤ room →
      (Position.value context).run (.read room) size (tokens ++ rest) =
        (context.fill value).run (.read room) size rest

theorem Spells.mono {depth more : Nat} {lexemes : List Lexeme} {value : Value}
    (spelled : Spells depth lexemes value) (le : depth ≤ more) : Spells more lexemes value :=
  fun context _ _ size rest means fits => spelled context size rest means (by omega)

theorem spells_string (s : String) : Spells 0 [.string s] (.string s) := by
  intro context room tokens size rest means _
  obtain ⟨token, rfl, is⟩ := List.map_eq_singleton_iff.mp means
  exact Position.run_cons (by simp [Position.step, Context.begin, is]) size rest

theorem spells_number (n : Number) : Spells 0 [.number n] (.number n) := by
  intro context room tokens size rest means _
  obtain ⟨token, rfl, is⟩ := List.map_eq_singleton_iff.mp means
  exact Position.run_cons (by simp [Position.step, Context.begin, is]) size rest

/-- The lexemes of members and their values. -/
inductive SpellsMembers (depth : Nat) :
    List (String × List Lexeme) → List (String × Value) → Prop
  | nil : SpellsMembers depth [] []
  | cons {key : String} {lexemes : List Lexeme} {value : Value}
      {lexed : List (String × List Lexeme)} {members : List (String × Value)}
      (spelled : Spells depth lexemes value) (others : SpellsMembers depth lexed members) :
      SpellsMembers depth ((key, lexemes) :: lexed) ((key, value) :: members)

/-- Puts members in turn into an object. -/
def insertMembers (members earlier : List (String × Value)) : List (String × Value) :=
  members.foldl (fun earlier member => insertMember member.1 member.2 earlier) earlier

/-- A key, a colon and the value of a member lead behind this member. -/
theorem run_member {depth room : Nat} {position : Position} {outer : Context} {key : String}
    {lexemes : List Lexeme} {value : Value} {earlier : List (String × Value)}
    (keyed : ∀ token : Token, token.lexeme = .string key →
      position.step (.read room) token = .ok (.missing (.colon earlier key outer)))
    (spelled : Spells depth lexemes value) (fits : outer.depth + 1 + depth ≤ room)
    {tokens : List Token}
    (means : tokens.map (·.lexeme) = .string key :: .symbol .colon :: lexemes)
    (size : Nat) (rest : List Token) :
    position.run (.read room) size (tokens ++ rest) =
      (Position.afterMember (insertMember key value earlier) outer).run (.read room) size rest := by
  simp only [List.map_eq_cons_iff] at means
  obtain ⟨name, _, rfl, isName, colon, inside, rfl, isColon, means⟩ := means
  have valued : (Position.colon earlier key outer).step (.read room) colon =
      .ok (.missing (.value (.member earlier key outer))) := by
    simp [Position.step, isColon]
  rw [List.cons_append, Position.run_cons (keyed name isName), Progress.run, List.cons_append,
    Position.run_cons valued, Progress.run,
    spelled (.member earlier key outer) size rest means fits]
  rfl

/-- Other members are put into the object, which their end completes. -/
theorem run_moreMembers {depth room : Nat} {outer : Context}
    {lexed : List (String × List Lexeme)} {members : List (String × Value)}
    (spelled : SpellsMembers depth lexed members) (fits : outer.depth + 1 + depth ≤ room)
    {tokens : List Token} (means : tokens.map (·.lexeme) = moreMembers lexed)
    (earlier : List (String × Value)) (size : Nat) (rest : List Token) :
    (Position.afterMember earlier outer).run (.read room) size (tokens ++ rest) =
      (outer.fill (.object (insertMembers members earlier))).run (.read room) size rest := by
  induction spelled generalizing tokens earlier with
  | nil =>
      obtain ⟨token, rfl, is⟩ := List.map_eq_singleton_iff.mp means
      exact Position.run_cons (by simp [Position.step, is, insertMembers]) size rest
  | @cons key lexemes value lexed members spelled others ih =>
      rw [moreMembers, ← List.cons_append, ← List.cons_append, List.map_eq_cons_iff] at means
      obtain ⟨comma, _, rfl, isComma, means⟩ := means
      obtain ⟨member, behind, rfl, memberMeans, means⟩ := List.map_eq_append_iff.mp means
      have separated : (Position.afterMember earlier outer).step (.read room) comma =
          .ok (.missing (.nextKey earlier outer)) := by
        simp [Position.step, isComma]
      have keyed : ∀ token : Token, token.lexeme = .string key →
          (Position.nextKey earlier outer).step (.read room) token =
            .ok (.missing (.colon earlier key outer)) := by
        intro token is
        simp [Position.step, Manner.key, is, Except.map]
      rw [List.cons_append, Position.run_cons separated, Progress.run, List.append_assoc,
        run_member keyed spelled fits memberMeans, ih means]
      rfl

/-- An object is spelled by its members. -/
theorem spells_objectOf {depth : Nat} {lexed : List (String × List Lexeme)}
    {members : List (String × Value)} (spelled : SpellsMembers depth lexed members) :
    Spells (depth + 1) (objectOf lexed) (.object (insertMembers members [])) := by
  intro context room tokens size rest means fits
  have entered : ∀ token : Token, token.lexeme = .symbol .objectOpen →
      (Position.value context).step (.read room) token = .ok (.missing (.firstKey context)) := by
    intro token is
    have less : context.depth < room := by omega
    simp [Position.step, Context.begin, is, Context.enter, less]
  cases spelled with
  | nil =>
      simp only [objectOf, List.map_eq_cons_iff] at means
      obtain ⟨opening, _, rfl, isOpening, closing, _, rfl, isClosing, means⟩ := means
      rw [List.map_eq_nil_iff.mp means, List.cons_append, Position.run_cons (entered _ isOpening)]
      exact Position.run_cons (by simp [Position.step, isClosing, insertMembers]) size rest
  | @cons key lexemes value lexed members spelled others =>
      rw [objectOf, ← List.cons_append, ← List.cons_append, List.map_eq_cons_iff] at means
      obtain ⟨opening, _, rfl, isOpening, means⟩ := means
      obtain ⟨member, behind, rfl, memberMeans, means⟩ := List.map_eq_append_iff.mp means
      have keyed : ∀ token : Token, token.lexeme = .string key →
          (Position.firstKey context).step (.read room) token =
            .ok (.missing (.colon [] key context)) := by
        intro token is
        simp [Position.step, Manner.key, is, Except.map]
      rw [List.cons_append, Position.run_cons (entered _ isOpening), Progress.run,
        List.append_assoc, run_member keyed spelled (by omega) memberMeans,
        run_moreMembers others (by omega) means]
      rfl

/-- A text of which the lexemes spell a value is read as this value. -/
theorem parse_of_cuts {text : String} {lexemes : List Lexeme} {value : Value} {depth : Nat}
    (cuts : Lexer.Cuts text.toList lexemes) (spelled : Spells depth lexemes value)
    (fits : depth ≤ maxDepth) : parse text = .ok value := by
  have means := tokenize_of_cuts cuts
  have read : readValue maxDepth (tokenize text.toList).size (tokenize text.toList).tokens =
      .ok (value, []) := by
    have whole := spelled .whole (tokenize text.toList).size [] means
      (by simpa [Context.depth] using fits)
    rwa [List.append_nil] at whole
  simp [parse, read, finish, Except.mapError, bind, Except.bind, pure, Except.pure]

end ContextStream.Json
