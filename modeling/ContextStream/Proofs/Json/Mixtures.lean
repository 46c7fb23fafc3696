import ContextStream.Proofs.Json.Grafting

/-!
# Members in any order, among others

An object says the same in whatever order its members stand and whatever stands beside them
under other keys. This holds for objects that are read as values and for those that are read
as records.
-/

namespace ContextStream.Json

open Lexer

/-! ## Lexemes of members -/

/-- The texts of members are cut into lexemes of which something is known. -/
theorem exists_lexed {known : String → List Lexeme → Prop} {members : List Member}
    (all : ∀ member ∈ members,
      ∃ lexemes, CutsInFront member.text lexemes ∧ known member.key lexemes) :
    ∃ lexed, CutsParts (members.map Member.part) lexed ∧
      lexed.map (·.1) = members.map (·.key) ∧ ∀ part ∈ lexed, known part.1 part.2 := by
  induction members with
  | nil => exact ⟨[], .nil, rfl, nofun⟩
  | cons member members ih =>
      obtain ⟨⟨lexemes, cuts, is⟩, others⟩ := List.forall_mem_cons.mp all
      obtain ⟨lexed, cut, keys, are⟩ := ih others
      exact ⟨(member.key, lexemes) :: lexed, .cons (cuts_isString member.spelled) cuts cut,
        by simp [keys], List.forall_mem_cons.mpr ⟨is, are⟩⟩

theorem cuts_isObject {members : List Member} {text : List Char} (is : IsObject members text)
    {lexed : List (String × List Lexeme)} (cut : CutsParts (members.map Member.part) lexed) :
    Cuts text (objectOf lexed) := by
  obtain ⟨before, after⟩ := is
  simpa using ((cuts_blanks before).append (cuts_objectText cut)).append (cuts_blanks after)

section Mixtures

variable {own : List (String × (List Char → Prop))} {foreign : List Char → Prop}

/-- A mixture is cut as an object, in which its own keys stand once each. -/
theorem cuts_isMixture {text : List Char} (mixture : IsMixture own foreign text)
    (known : String → List Lexeme → Prop)
    (ownKnown : ∀ entry ∈ own, ∀ text, entry.2 text →
      ∃ lexemes, CutsInFront text lexemes ∧ known entry.1 lexemes)
    (foreignKnown : ∀ key ∉ own.map (·.1), ∀ text, foreign text →
      ∃ lexemes, CutsInFront text lexemes ∧ known key lexemes) :
    ∃ lexed, Cuts text (objectOf lexed) ∧
      (∀ entry ∈ own, (lexed.map (·.1)).count entry.1 = 1) ∧
        ∀ part ∈ lexed, known part.1 part.2 := by
  obtain @⟨members, text, is, once, others⟩ := mixture
  have all : ∀ member ∈ members,
      ∃ lexemes, CutsInFront member.text lexemes ∧ known member.key lexemes := by
    intro member memberMem
    by_cases isOwn : member.key ∈ own.map (·.1)
    · obtain ⟨entry, entryMem, same⟩ := List.mem_map.mp isOwn
      obtain ⟨only, single, wanted⟩ := once entry entryMem
      have found : member ∈ members.filter (·.key = entry.1) :=
        List.mem_filter.mpr ⟨memberMem, decide_eq_true same.symm⟩
      rw [single, List.mem_singleton] at found
      rw [← same]
      exact ownKnown entry entryMem member.text (found ▸ wanted)
    · exact foreignKnown member.key isOwn member.text (others member memberMem isOwn)
  obtain ⟨lexed, cut, keys, are⟩ := exists_lexed all
  refine ⟨lexed, cuts_isObject is cut, ?_, are⟩
  intro entry entryMem
  obtain ⟨only, single, -⟩ := once entry entryMem
  rw [keys, List.count, List.countP_map, List.countP_eq_length_filter]
  have same : members.filter ((· == entry.1) ∘ (·.key)) = members.filter (·.key = entry.1) := by
    simp [Function.comp_def, beq_eq_decide]
  rw [same, single]
  rfl

end Mixtures

/-! ## Values -/

/-- A text is some value on its own. -/
def IsValue (text : List Char) : Prop :=
  ∃ value, parse (String.ofList text) = .ok value

/-- In front of every symbol a text is read as a value, where so many lists and objects may be
opened. -/
def Stands (depth : Nat) (text : List Char) (value : Value) : Prop :=
  ∃ lexemes, CutsInFront text lexemes ∧ Spells depth lexemes value

theorem stands_isString {s : String} {text : List Char} (is : IsString s text) (depth : Nat) :
    Stands depth text (.string s) :=
  ⟨[.string s], (cuts_isString is).inFront, (spells_string s).mono (Nat.zero_le depth)⟩

theorem stands_isInteger {n : Integer} {text : List Char} (is : IsInteger n.val text)
    (depth : Nat) : Stands depth text (.number (.integer n)) :=
  ⟨[.number (.integer n)], fun ends => cuts_isInteger is ends,
    (spells_number (.integer n)).mono (Nat.zero_le depth)⟩

/-- Whatever is read on its own is read where there is enough room for it. -/
theorem stands_of_parse {text : List Char} {value : Value}
    (read : parse (String.ofList text) = .ok value) {depth : Nat} (fits : nesting text ≤ depth) :
    Stands depth text value :=
  ⟨_, cutsInFront_of_parse read, (completes_of_parse read).spells.mono fits⟩

theorem member?_cons (name : String) (member : String × Value) (members : List (String × Value)) :
    member? name (member :: members) =
      if name = member.1 then some member.2 else member? name members := by
  by_cases same : name = member.1
  · simp [member?, same]
  · simp [member?, same, Ne.symm same]

/-- A member that is put into an object is found there, and so are the others. -/
theorem member?_insertMember (key : String) (value : Value) (name : String)
    (members : List (String × Value)) :
    member? name (insertMember key value members) =
      if name = key then some value else member? name members := by
  induction members with
  | nil => exact member?_cons name (key, value) []
  | cons member members ih =>
      unfold insertMember
      split
      · exact member?_cons ..
      · split
        · next same =>
            rw [member?_cons, member?_cons, ← same]
            split <;> rfl
        · next different =>
            rw [member?_cons, member?_cons, ih]
            by_cases here : name = member.1
            · have other : name ≠ key := fun same => different (same.symm.trans here)
              rw [if_pos here, if_neg other, if_pos here]
            · rw [if_neg here, if_neg here]

/-- The value of a key is found, if no member gives it another one. -/
theorem member?_insertMembers {name : String} {value : Value}
    {members earlier : List (String × Value)}
    (found : name ∈ members.map (·.1) ∨ member? name earlier = some value)
    (all : ∀ member ∈ members, member.1 = name → member.2 = value) :
    member? name (insertMembers members earlier) = some value := by
  induction members generalizing earlier with
  | nil => simpa [insertMembers] using found
  | cons member members ih =>
      obtain ⟨first, others⟩ := List.forall_mem_cons.mp all
      refine ih ?_ others
      rw [member?_insertMember]
      by_cases same : name = member.1
      · exact Or.inr (by rw [if_pos same, first same.symm])
      · rw [if_neg same]
        simpa [same] using found

/-- Members that are spelled have values, and those of certain keys have certain values. -/
theorem exists_spellsMembers {depth : Nat} {names : List String} {valueOf : String → Value}
    {lexed : List (String × List Lexeme)}
    (all : ∀ part ∈ lexed,
      ∃ value, Spells depth part.2 value ∧ (part.1 ∈ names → value = valueOf part.1)) :
    ∃ members, SpellsMembers depth lexed members ∧ members.map (·.1) = lexed.map (·.1) ∧
      ∀ member ∈ members, member.1 ∈ names → member.2 = valueOf member.1 := by
  induction lexed with
  | nil => exact ⟨[], .nil, rfl, nofun⟩
  | cons part lexed ih =>
      obtain ⟨⟨value, spelled, is⟩, others⟩ := List.forall_mem_cons.mp all
      obtain ⟨members, spelledMembers, keys, are⟩ := ih others
      exact ⟨(part.1, value) :: members, .cons spelled spelledMembers, by simp [keys],
        List.forall_mem_cons.mpr ⟨is, are⟩⟩

section Mixtures

variable {own : List (String × (List Char → Prop))} {foreign : List Char → Prop}

/-- A mixture is read as an object in which its own keys have the values of their texts. -/
theorem parse_of_isMixture {text : String} (mixture : IsMixture own foreign text.toList)
    {depth : Nat} (fits : depth < maxDepth) (valueOf : String → Value)
    (ownStands : ∀ entry ∈ own, ∀ text, entry.2 text → Stands depth text (valueOf entry.1))
    (foreignStands : ∀ text, foreign text → ∃ value, Stands depth text value) :
    ∃ members, parse text = .ok (.object members) ∧
      ∀ entry ∈ own, member? entry.1 members = some (valueOf entry.1) := by
  have ownSpelled : ∀ entry ∈ own, ∀ text, entry.2 text → ∃ lexemes, CutsInFront text lexemes ∧
      ∃ value, Spells depth lexemes value ∧
        (entry.1 ∈ own.map (·.1) → value = valueOf entry.1) := by
    intro entry entryMem text wanted
    obtain ⟨lexemes, cuts, spelled⟩ := ownStands entry entryMem text wanted
    exact ⟨lexemes, cuts, _, spelled, fun _ => rfl⟩
  have foreignSpelled : ∀ key ∉ own.map (·.1), ∀ text, foreign text →
      ∃ lexemes, CutsInFront text lexemes ∧
        ∃ value, Spells depth lexemes value ∧ (key ∈ own.map (·.1) → value = valueOf key) := by
    intro key notOwn text isForeign
    obtain ⟨value, lexemes, cuts, spelled⟩ := foreignStands text isForeign
    exact ⟨lexemes, cuts, value, spelled, fun isOwn => absurd isOwn notOwn⟩
  obtain ⟨lexed, cuts, once, parts⟩ := cuts_isMixture mixture _ ownSpelled foreignSpelled
  obtain ⟨members, spelled, keys, values⟩ := exists_spellsMembers parts
  refine ⟨_, parse_of_cuts cuts (spells_objectOf spelled) fits, ?_⟩
  intro entry entryMem
  refine member?_insertMembers (Or.inl ?_) ?_
  · rw [keys, ← List.one_le_count_iff]
    exact Nat.le_of_eq (once entry entryMem).symm
  · rintro member memberMem same
    rw [← same]
    exact values member memberMem (same ▸ List.mem_map_of_mem entryMem)

end Mixtures

/-! ## Records -/

namespace Record

variable {σ α : Type} {record : Record σ α} {room : Nat} {draft : List String → σ}

/-- Lexemes suit a key, whatever keys were seen before: they are the value of the field of this
key, or belong to none. The draft is given by the keys that were seen. -/
inductive Suits (record : Record σ α) (room : Nat) (draft : List String → σ) (key : String)
    (lexemes : List Lexeme) : Prop
  | field {field : Field σ} (found : record.fields.find? (·.name = key) = some field)
      (open? : ∀ seen, key ∉ seen → field.isSet (draft seen) = false)
      (reads : ∀ seen, key ∉ seen →
        Reads (field.read room (draft seen)) lexemes (draft (key :: seen)))
  | other (foreign : record.fields.find? (·.name = key) = none)
      (passes : Reads passValue lexemes ()) (kept : ∀ seen, draft (key :: seen) = draft seen)

/-- Members that suit their keys fill the draft, if no field is given twice. -/
theorem fills_of_suits {lexed : List (String × List Lexeme)}
    (suits : ∀ part ∈ lexed, record.Suits room draft part.1 part.2) {seen : List String}
    (once : ∀ key, (record.fields.find? (·.name = key)).isSome →
      (lexed.map (·.1)).count key + seen.count key ≤ 1) :
    record.Fills room (draft seen) lexed (draft ((lexed.map (·.1)).reverse ++ seen)) := by
  induction lexed generalizing seen with
  | nil => exact .done _
  | cons part lexed ih =>
      obtain ⟨key, lexemes⟩ := part
      obtain ⟨first, others⟩ := List.forall_mem_cons.mp suits
      have behind : ∀ name, (record.fields.find? (·.name = name)).isSome →
          (lexed.map (·.1)).count name + (key :: seen).count name ≤ 1 := by
        intro name isField
        have total := once name isField
        simp only [List.map_cons, List.count_cons] at total ⊢
        omega
      have rest := ih others behind
      have keys : (lexed.map (·.1)).reverse ++ key :: seen =
          (((key, lexemes) :: lexed).map (·.1)).reverse ++ seen := by simp
      rw [keys] at rest
      cases first with
      | field found open? reads =>
          have unseen : key ∉ seen := by
            have total := once key (by simp [found])
            rw [List.map_cons, List.count_cons_self] at total
            exact List.count_eq_zero.mp (by omega)
          exact .member found (open? seen unseen) (reads seen unseen) rest
      | other foreign passes kept => exact .other foreign passes (kept seen ▸ rest)

/-- In front of every symbol a text is taken under a key: it is cut into lexemes that suit it. -/
def Takes (record : Record σ α) (room : Nat) (draft : List String → σ) (key : String)
    (text : List Char) : Prop :=
  ∃ lexemes, CutsInFront text lexemes ∧ record.Suits room draft key lexemes

/-- What is read and put into the draft is taken under the key of its field. -/
theorem takes_of_reads {β : Type} {key : String} {field : Field σ}
    (found : record.fields.find? (·.name = key) = some field) (put : β → σ → σ)
    {text : List Char} {lexemes : List Lexeme} (cuts : CutsInFront text lexemes)
    {reader : Reader β} {value : β} (reads : Reads reader lexemes value)
    (same : ∀ seen, field.read room (draft seen) = fun size tokens => do
      let (a, rest) ← reader size tokens
      return (put a (draft seen), rest))
    (open? : ∀ seen, key ∉ seen → field.isSet (draft seen) = false)
    (puts : ∀ seen, put value (draft seen) = draft (key :: seen)) :
    record.Takes room draft key text := by
  refine ⟨lexemes, cuts, .field found open? ?_⟩
  intro seen _
  rw [same, ← puts]
  exact reads.map fun a => put a (draft seen)

/-- A value is taken under a key that belongs to no field, however deep it is. -/
theorem takes_of_isValue {key : String}
    (foreign : record.fields.find? (·.name = key) = none)
    (kept : ∀ seen, draft (key :: seen) = draft seen) {text : List Char} (is : IsValue text) :
    record.Takes room draft key text := by
  obtain ⟨value, read⟩ := is
  exact ⟨_, cutsInFront_of_parse read,
    .other foreign (completes_of_parse read).reads_passValue kept⟩

variable (draft) in
/-- A mixture is read as a record that its own keys complete. -/
theorem reads_of_isMixture {own : List (String × (List Char → Prop))}
    {foreign : List Char → Prop} {text : List Char} (mixture : IsMixture own foreign text)
    (ownTaken : ∀ entry ∈ own, ∀ text, entry.2 text → record.Takes room draft entry.1 text)
    (foreignTaken : ∀ key ∉ own.map (·.1), ∀ text, foreign text →
      record.Takes room draft key text)
    (fields : ∀ field ∈ record.fields, field.name ∈ own.map (·.1))
    (blank : draft [] = record.blank) {value : α}
    (complete : ∀ seen, (∀ entry ∈ own, entry.1 ∈ seen) →
      record.complete (draft seen) = .ok value) :
    ∃ lexemes, Cuts text lexemes ∧ Reads (record.read (room + 1)) lexemes value := by
  obtain ⟨lexed, cuts, once, suits⟩ := cuts_isMixture mixture _ ownTaken foreignTaken
  refine ⟨objectOf lexed, cuts, ?_⟩
  have counted : ∀ key, (record.fields.find? (·.name = key)).isSome →
      (lexed.map (·.1)).count key + ([] : List String).count key ≤ 1 := by
    intro key isField
    obtain ⟨field, found⟩ := Option.isSome_iff_exists.mp isField
    have name : field.name = key := by simpa using List.find?_some found
    obtain ⟨entry, entryMem, same⟩ :=
      List.mem_map.mp (fields field (List.mem_of_find?_eq_some found))
    have single := once entry entryMem
    rw [same, name] at single
    simp [single]
  have fills := fills_of_suits suits counted
  rw [blank, List.append_nil] at fills
  refine reads_objectOf fills (complete _ ?_)
  intro entry entryMem
  rw [List.mem_reverse, ← List.one_le_count_iff]
  exact Nat.le_of_eq (once entry entryMem).symm

end Record

end ContextStream.Json
