import ContextStream.Proofs.Json.Reading
import ContextStream.Proofs.Json.Values
import Mathlib.Data.List.Forall2

/-!
# Written values are read back

The text of a value without floating point numbers is cut into the lexemes of the value,
and these spell the value if its members are in order: the members of an object are put
into it one behind the other, and none replaces another.
-/

namespace ContextStream.Json

open Value

/-! ## Lists -/

/-- The lexemes of other items behind an item, and of the end of the list. -/
def moreItems : List (List Lexeme) → List Lexeme
  | [] => [.symbol .listClose]
  | lexemes :: others => .symbol .comma :: (lexemes ++ moreItems others)

/-- The lexemes of a list with items. -/
def listOf : List (List Lexeme) → List Lexeme
  | [] => [.symbol .listOpen, .symbol .listClose]
  | lexemes :: others => .symbol .listOpen :: (lexemes ++ moreItems others)

namespace Lexer

/-- The texts of items and their lexemes. -/
def CutsItems (texts : List (List Char)) (lexed : List (List Lexeme)) : Prop :=
  List.Forall₂ (fun text lexemes => CutsInFront text lexemes) texts lexed

theorem cuts_moreItems {texts : List (List Char)} {lexed : List (List Lexeme)}
    (cut : CutsItems texts lexed) {text : List Char} {lexemes : List Lexeme}
    (item : CutsInFront text lexemes) :
    Cuts (text ++ (texts.flatMap ([','] ++ ·) ++ [']'])) (lexemes ++ moreItems lexed) := by
  induction cut generalizing text lexemes with
  | nil => exact item rfl
  | cons next _ ih =>
      have whole := (item (rfl : Symbol.ofChar? ',' = _)).append (ih next)
      simpa [moreItems] using whole

/-- Items between brackets are cut as the list that they are written for. -/
theorem cuts_listOf {texts : List (List Char)} {lexed : List (List Lexeme)}
    (cut : CutsItems texts lexed) :
    Cuts ('[' :: Text.joinWith [','] texts ++ [']']) (listOf lexed) := by
  have opened : Cuts ['['] [.symbol .listOpen] := cuts_symbol rfl
  cases cut with
  | nil => exact opened.append (cuts_symbol rfl)
  | cons item others =>
      simpa [Text.joinWith, listOf] using opened.append (cuts_moreItems others item)

end Lexer

/-- What spells a value does not begin like the end of a list. -/
theorem Spells.exists_first {depth : Nat} {lexemes : List Lexeme} {value : Value}
    (spelled : Spells depth lexemes value) :
    ∃ first others, lexemes = first :: others ∧ first ≠ .symbol .listClose := by
  have means : (lexemes.map fun lexeme => (⟨lexeme, 0, 0⟩ : Token)).map (·.lexeme) = lexemes := by
    simp [Function.comp_def]
  have fits : Context.whole.depth + depth ≤ depth := by
    simp [Context.depth]
  have whole := spelled .whole 0 [] means fits
  cases lexemes with
  | nil => simp [Context.fill, Progress.run, Position.run] at whole
  | cons first others =>
      refine ⟨first, others, rfl, ?_⟩
      rintro rfl
      simp [Context.fill, Progress.run, Position.run, Position.step, Context.begin] at whole

section Items

variable {depth room : Nat} {outer : Context} {lexed : List (List Lexeme)} {items : List Value}

/-- An item leads behind it. -/
theorem run_item {position : Position} {earlier : List Value}
    (begins : ∀ token : Token, token.lexeme ≠ .symbol .listClose →
      position.step (.read room) token = (Context.item earlier outer).begin (.read room) token)
    {lexemes : List Lexeme} {value : Value} (spelled : Spells depth lexemes value)
    (fits : outer.depth + 1 + depth ≤ room) {tokens : List Token}
    (means : tokens.map (·.lexeme) = lexemes) (size : Nat) (rest : List Token) :
    position.run (.read room) size (tokens ++ rest) =
      (Position.afterItem (value :: earlier) outer).run (.read room) size rest := by
  obtain ⟨_, _, rfl, noClose⟩ := spelled.exists_first
  have filled := spelled (.item earlier outer) size rest means fits
  obtain ⟨first, others, rfl, rfl, -⟩ := List.map_eq_cons_iff.mp means
  have same : position.step (.read room) first =
      (Position.value (.item earlier outer)).step (.read room) first :=
    begins first noClose
  rw [List.cons_append] at filled ⊢
  rw [Position.run, same, ← Position.run, filled]
  rfl

/-- Other items follow, and the end completes the list. -/
theorem run_moreItems (spelled : List.Forall₂ (Spells depth) lexed items)
    (fits : outer.depth + 1 + depth ≤ room) {tokens : List Token}
    (means : tokens.map (·.lexeme) = moreItems lexed) (earlier : List Value) (size : Nat)
    (rest : List Token) :
    (Position.afterItem earlier outer).run (.read room) size (tokens ++ rest) =
      (outer.fill (.list (earlier.reverse ++ items))).run (.read room) size rest := by
  induction spelled generalizing tokens earlier with
  | nil =>
      obtain ⟨token, rfl, is⟩ := List.map_eq_singleton_iff.mp means
      exact Position.run_cons (by simp [Position.step, is]) size rest
  | @cons lexemes value lexed items spelled others ih =>
      obtain ⟨comma, _, rfl, isComma, means⟩ := List.map_eq_cons_iff.mp means
      obtain ⟨item, behind, rfl, itemMeans, means⟩ := List.map_eq_append_iff.mp means
      have separated : (Position.afterItem earlier outer).step (.read room) comma =
          .ok (.missing (.nextItem earlier outer)) := by
        simp [Position.step, isComma]
      have begins : ∀ token : Token, token.lexeme ≠ .symbol .listClose →
          (Position.nextItem earlier outer).step (.read room) token =
            (Context.item earlier outer).begin (.read room) token := by
        intro token noClose
        simp only [Position.step]
        split
        · next is _ => exact absurd is noClose
        · rfl
      rw [List.cons_append, Position.run_cons separated, Progress.run, List.append_assoc,
        run_item begins spelled fits itemMeans, ih means, List.reverse_cons, List.append_assoc]
      rfl

/-- A list is spelled by its items. -/
theorem spells_listOf (spelled : List.Forall₂ (Spells depth) lexed items) :
    Spells (depth + 1) (listOf lexed) (.list items) := by
  intro context room tokens size rest means fits
  have entered : ∀ token : Token, token.lexeme = .symbol .listOpen →
      (Position.value context).step (.read room) token = .ok (.missing (.firstItem context)) := by
    intro token is
    have less : context.depth < room := by omega
    simp [Position.step, Context.begin, is, Context.enter, less]
  cases spelled with
  | nil =>
      simp only [listOf, List.map_eq_cons_iff, List.map_eq_nil_iff] at means
      obtain ⟨opening, _, rfl, isOpening, closing, _, rfl, isClosing, rfl⟩ := means
      rw [List.cons_append, Position.run_cons (entered _ isOpening)]
      exact Position.run_cons (by simp [Position.step, isClosing]) size rest
  | cons spelled others =>
      obtain ⟨opening, _, rfl, isOpening, means⟩ := List.map_eq_cons_iff.mp means
      obtain ⟨item, behind, rfl, itemMeans, means⟩ := List.map_eq_append_iff.mp means
      have begins : ∀ token : Token, token.lexeme ≠ .symbol .listClose →
          (Position.firstItem context).step (.read room) token =
            (Context.item [] context).begin (.read room) token := by
        intro token noClose
        simp only [Position.step]
      rw [List.cons_append, Position.run_cons (entered _ isOpening), Progress.run,
        List.append_assoc, run_item begins spelled (by omega) itemMeans,
        run_moreItems others (by omega) means]
      rfl

end Items

/-! ## Values -/

mutual

/-- The lexemes of a value. -/
def Value.lexemes : Value → List Lexeme
  | .null => [.null]
  | .bool b => [.bool b]
  | .number n => [.number n]
  | .string s => [.string s]
  | .list items => listOf (lexemesOfItems items)
  | .object members => objectOf (lexemesOfMembers members)

/-- The lexemes of items. -/
def lexemesOfItems : List Value → List (List Lexeme)
  | [] => []
  | item :: items => item.lexemes :: lexemesOfItems items

/-- The lexemes of members. -/
def lexemesOfMembers : List (String × Value) → List (String × List Lexeme)
  | [] => []
  | (key, value) :: members => (key, value.lexemes) :: lexemesOfMembers members

end

namespace Lexer

theorem cutsItems_of_forall {items : List Value}
    (all : ∀ item ∈ items, CutsInFront item.compact item.lexemes) :
    CutsItems (compactItems items) (lexemesOfItems items) := by
  induction items with
  | nil => exact .nil
  | cons item items ih =>
      obtain ⟨first, others⟩ := List.forall_mem_cons.mp all
      exact .cons first (ih others)

theorem cutsMembers_of_forall {members : List (String × Value)}
    (all : ∀ member ∈ members, CutsInFront member.2.compact member.2.lexemes) :
    CutsMembers (compactMembers members) (lexemesOfMembers members) := by
  induction members with
  | nil => exact .nil
  | cons member members ih =>
      obtain ⟨first, others⟩ := List.forall_mem_cons.mp all
      exact .cons first (ih others)

/-- The text of a value without floating point numbers is cut into its lexemes. -/
theorem cuts_compact {value : Value} (exact : value.IsExact) :
    CutsInFront value.compact value.lexemes := by
  induction value using Value.induction with
  | null => exact (cuts_word rfl).inFront
  | bool b => cases b <;> exact (cuts_word rfl).inFront
  | number n =>
      cases n with
      | integer n => exact cuts_integer n
      | double x => exact absurd .self (exact x)
  | string s => exact (cuts_quote s).inFront
  | list items ih =>
      refine (cuts_listOf (cutsItems_of_forall fun item itemMem => ?_)).inFront
      exact ih item itemMem (isExact_list_iff.mp exact item itemMem)
  | object members ih =>
      refine (cuts_writeMembers (cutsMembers_of_forall fun member memberMem => ?_)).inFront
      exact ih member memberMem (isExact_object_iff.mp exact member memberMem)

end Lexer

theorem spells_null : Spells 0 [.null] .null := by
  intro context room tokens size rest means _
  obtain ⟨token, rfl, is⟩ := List.map_eq_singleton_iff.mp means
  exact Position.run_cons (by simp [Position.step, Context.begin, is]) size rest

theorem spells_bool (b : Bool) : Spells 0 [.bool b] (.bool b) := by
  intro context room tokens size rest means _
  obtain ⟨token, rfl, is⟩ := List.map_eq_singleton_iff.mp means
  exact Position.run_cons (by simp [Position.step, Context.begin, is]) size rest

theorem spellsItems_of_forall {items : List Value} {depth : Nat}
    (all : ∀ item ∈ items, Spells depth item.lexemes item) :
    List.Forall₂ (Spells depth) (lexemesOfItems items) items := by
  induction items with
  | nil => exact .nil
  | cons item items ih =>
      obtain ⟨first, others⟩ := List.forall_mem_cons.mp all
      exact .cons first (ih others)

theorem spellsMembers_of_forall {members : List (String × Value)} {depth : Nat}
    (all : ∀ member ∈ members, Spells depth member.2.lexemes member.2) :
    SpellsMembers depth (lexemesOfMembers members) members := by
  induction members with
  | nil => exact .nil
  | cons member members ih =>
      obtain ⟨first, others⟩ := List.forall_mem_cons.mp all
      exact .cons first (ih others)

/-- Members in order are put one behind the other. -/
theorem insertMembers_of_ascending {members earlier : List (String × Value)}
    (ascending : Ascending (earlier ++ members)) :
    insertMembers members earlier = earlier ++ members := by
  induction members generalizing earlier with
  | nil => exact (List.append_nil earlier).symm
  | cons member members ih =>
      obtain ⟨_, _, above⟩ := List.pairwise_append.mp ascending
      have atEnd : insertMember member.1 member.2 earlier = earlier ++ [member] :=
        insertMember_of_above fun other otherMem => above other otherMem member List.mem_cons_self
      have split : earlier ++ member :: members = earlier ++ [member] ++ members := by simp
      rw [split] at ascending
      rw [insertMembers, List.foldl_cons, atEnd, ← insertMembers, ih ascending, split]

/-- The lexemes of a value spell it, if its members are in order. -/
theorem spells_lexemes {value : Value} (ordered : value.IsOrdered) :
    Spells value.depth value.lexemes value := by
  induction value using Value.induction with
  | null => exact spells_null
  | bool b => exact spells_bool b
  | number n => exact spells_number n
  | string s => exact spells_string s
  | list items ih =>
      refine spells_listOf (spellsItems_of_forall fun item itemMem => ?_)
      exact (ih item itemMem (isOrdered_list_iff.mp ordered item itemMem)).mono
        (depthOfItems_le_iff.mp (Nat.le_refl _) item itemMem)
  | object members ih =>
      obtain ⟨ascending, all⟩ := isOrdered_object_iff.mp ordered
      have spelled := spells_objectOf (spellsMembers_of_forall fun member memberMem =>
        (ih member memberMem (all member memberMem)).mono
          (depthOfMembers_le_iff.mp (Nat.le_refl _) member memberMem))
      have inserted : insertMembers members [] = members := insertMembers_of_ascending ascending
      rwa [inserted] at spelled

end ContextStream.Json
