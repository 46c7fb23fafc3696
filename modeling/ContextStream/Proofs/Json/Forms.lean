import ContextStream.Proofs.Json.Mixtures
import ContextStream.Proofs.Text.Pieces

/-!
# Objects with room for a value

An object is written around the value of one key. Whatever stands there, the other members say
the same; and where a text cannot be read, neither can the object around it.
-/

namespace ContextStream.Json

open Lexer

/-! ## Texts in front of a value -/

/-- The texts of members in front of another one. -/
def openingText (parts : List (List Char × List Char)) : List Char :=
  '\x7b' :: parts.flatMap fun (name, text) => name ++ ':' :: text ++ [',']

theorem objectText_append_cons (earlier later : List (List Char × List Char))
    (name text : List Char) :
    objectText (earlier ++ (name, text) :: later) =
      openingText earlier ++ (name ++ [':']) ++ (text ++ moreText later) := by
  simp [objectText, openingText, moreText, Text.joinWith_append_cons, List.flatMap_map]

/-- Whole members are cut into whole tokens. -/
theorem cuts_openingText {parts : List (List Char × List Char)}
    {lexed : List (String × List Lexeme)} (cut : CutsParts parts lexed) :
    ∃ lexemes, Cuts (openingText parts) lexemes := by
  suffices members : ∃ lexemes,
      Cuts (parts.flatMap fun (name, text) => name ++ ':' :: text ++ [',']) lexemes by
    obtain ⟨lexemes, cuts⟩ := members
    have opened : Cuts ['\x7b'] [.symbol .objectOpen] := cuts_symbol rfl
    exact ⟨_, opened.append cuts⟩
  induction cut with
  | nil => exact ⟨[], fun lexer between => ⟨[], rfl, between, rfl⟩⟩
  | cons named value others ih =>
      obtain ⟨lexemes, cuts⟩ := ih
      have colon : Cuts [':'] [.symbol .colon] := cuts_symbol rfl
      have member := (named.append colon).append (value (rfl : Symbol.ofChar? ',' = _))
      exact ⟨_, by simpa using member.append cuts⟩

/-- A symbol stands behind the value. -/
theorem exists_moreText (parts : List (List Char × List Char)) :
    ∃ c symbol rest, moreText parts = c :: rest ∧ Symbol.ofChar? c = some symbol := by
  cases parts with
  | nil => exact ⟨_, _, _, rfl, rfl⟩
  | cons part parts => exact ⟨',', .comma, _, by simp [moreText]; rfl, rfl⟩

/-! ## Members behind each other -/

theorem Lexer.CutsParts.append {parts others : List (List Char × List Char)}
    {lexed further : List (String × List Lexeme)} (cut : CutsParts parts lexed)
    (cutOthers : CutsParts others further) : CutsParts (parts ++ others) (lexed ++ further) := by
  induction cut with
  | nil => exact cutOthers
  | cons named value _ ih => exact .cons named value ih

theorem SpellsMembers.append {depth : Nat} {lexed further : List (String × List Lexeme)}
    {members others : List (String × Value)} (spelled : SpellsMembers depth lexed members)
    (spelledOthers : SpellsMembers depth further others) :
    SpellsMembers depth (lexed ++ further) (members ++ others) := by
  induction spelled with
  | nil => exact spelledOthers
  | cons value _ ih => exact .cons value ih

/-- Members with values are cut and spelled. -/
theorem exists_spelled {depth : Nat} {members : List Member}
    (stand : ∀ member ∈ members, ∃ value, Stands depth member.text value) :
    ∃ lexed values, CutsParts (members.map Member.part) lexed ∧
      SpellsMembers depth lexed values ∧ values.map (·.1) = members.map (·.key) := by
  induction members with
  | nil => exact ⟨[], [], .nil, .nil, rfl⟩
  | cons member members ih =>
      obtain ⟨⟨value, lexemes, cuts, spelled⟩, others⟩ := List.forall_mem_cons.mp stand
      obtain ⟨lexed, values, cut, spelledOthers, keys⟩ := ih others
      exact ⟨(member.key, lexemes) :: lexed, (member.key, value) :: values,
        .cons (cuts_isString member.spelled) cuts cut, .cons spelled spelledOthers, by simp [keys]⟩

/-- What is put into objects behind each other is found in the same way if it was before. -/
theorem member?_insertMembers_congr {name : String} {members earlier others : List (String × Value)}
    (same : member? name earlier = member? name others) :
    member? name (insertMembers members earlier) = member? name (insertMembers members others) := by
  induction members generalizing earlier others with
  | nil => exact same
  | cons member members ih =>
      refine ih ?_
      rw [member?_insertMember, member?_insertMember, same]

/-! ## Forms -/

/-- An object with room for the value of a key, between blanks: the text around the room. No
member behind it has the same key, so that the value counts; the others have foreign values. -/
structure Form (key : String) (foreign : List Char → Prop) where
  front : List Char
  earlier : List Member
  name : List Char
  left : List Char
  right : List Char
  later : List Member
  back : List Char
  spelled : IsString key name
  blank : Blanks (front ++ left ++ right ++ back)
  last : ∀ member ∈ later, member.key ≠ key
  others : ∀ member ∈ earlier ++ later, foreign member.text

namespace Form

variable {key : String} {foreign : List Char → Prop} (form : Form key foreign)

/-- The value and the blanks around it. -/
def value (text : List Char) : List Char :=
  form.left ++ text ++ form.right

/-- The text of the object with this value. -/
def text (text : List Char) : String :=
  String.ofList (form.front ++
    objectText (form.earlier.map Member.part ++ (form.name, form.value text) ::
      form.later.map Member.part) ++ form.back)

theorem blanks : Blanks form.front ∧ Blanks form.left ∧ Blanks form.right ∧ Blanks form.back := by
  have blank := form.blank
  simp only [Blanks, List.forall_mem_append] at blank
  obtain ⟨⟨⟨front, left⟩, right⟩, back⟩ := blank
  exact ⟨front, left, right, back⟩

variable {depth : Nat} (foreignStands : ∀ text, foreign text → ∃ value, Stands depth text value)

include foreignStands in
/-- With a value that can be read the object is read. Its key has this value, and the others
have the same ones with any value. -/
theorem exists_object (fits : depth < maxDepth) :
    ∃ object : Value → List (String × Value),
      (∀ text value, Stands depth (form.value text) value →
        parse (form.text text) = .ok (.object (object value))) ∧
      (∀ value, member? key (object value) = some value) ∧
      ∀ name ≠ key, ∀ value other, member? name (object value) = member? name (object other) := by
  obtain ⟨front, -, -, back⟩ := form.blanks
  obtain ⟨othersEarlier, othersLater⟩ := List.forall_mem_append.mp form.others
  obtain ⟨lexed, earlier, cut, spelled, -⟩ :=
    exists_spelled fun member memberMem => foreignStands _ (othersEarlier member memberMem)
  obtain ⟨further, later, cutLater, spelledLater, keys⟩ :=
    exists_spelled fun member memberMem => foreignStands _ (othersLater member memberMem)
  have behind (value : Value) : insertMembers (earlier ++ (key, value) :: later) [] =
      insertMembers later (insertMember key value (insertMembers earlier [])) := by
    simp [insertMembers]
  refine ⟨fun value => insertMembers later (insertMember key value (insertMembers earlier [])),
    ?_, ?_, ?_⟩
  · rintro text value ⟨lexemes, cuts, spells⟩
    have object := cuts_objectText
      (cut.append (.cons (cuts_isString form.spelled) cuts cutLater))
    have whole := ((cuts_blanks front).append object).append (cuts_blanks back)
    have members : SpellsMembers depth (lexed ++ (key, lexemes) :: further)
        (earlier ++ (key, value) :: later) := spelled.append (.cons spells spelledLater)
    have isObject := spells_objectOf members
    rw [behind] at isObject
    refine parse_of_cuts ?_ isObject fits
    rw [Form.text, String.toList_ofList]
    simpa using whole
  · intro value
    refine member?_insertMembers (Or.inr ?_) ?_
    · rw [member?_insertMember, if_pos rfl]
    · intro member memberMem same
      have inKeys : member.1 ∈ form.later.map (·.key) := keys ▸ List.mem_map_of_mem memberMem
      obtain ⟨other, otherMem, is⟩ := List.mem_map.mp inKeys
      exact absurd (is.trans same) (form.last other otherMem)
  · intro name different value other
    apply member?_insertMembers_congr
    rw [member?_insertMember, member?_insertMember, if_neg different, if_neg different]

include foreignStands in
/-- Where a text cannot be read, neither can the object around it. -/
theorem parse_of_unreadable {text : List Char} (unreadable : Unreadable (form.value text))
    (value : Value) : parse (form.text text) ≠ .ok value := by
  obtain ⟨front, -⟩ := form.blanks
  obtain ⟨othersEarlier, -⟩ := List.forall_mem_append.mp form.others
  obtain ⟨lexed, earlier, cut, -⟩ :=
    exists_spelled fun member memberMem => foreignStands _ (othersEarlier member memberMem)
  obtain ⟨lexemes, opening⟩ := cuts_openingText cut
  have colon : Cuts [':'] [.symbol .colon] := cuts_symbol rfl
  have whole := ((cuts_blanks front).append opening).append
    ((cuts_isString form.spelled).append colon)
  obtain ⟨c, symbol, rest, more, is⟩ := exists_moreText (form.later.map Member.part)
  have split : form.text text = String.ofList
      (form.front ++ openingText (form.earlier.map Member.part) ++ (form.name ++ [':']) ++
        (form.value text ++ c :: (rest ++ form.back))) := by
    rw [Form.text, objectText_append_cons, more]
    simp
  rw [split]
  exact unreadable whole is

end Form

end ContextStream.Json
