import ContextStream.Json.Reader
import Mathlib.Tactic.Common

/-!
# Values by their parts

A value is seen by its parts: the numbers in it, how many lists and objects are inside
each other, and whether the members of each object stand in the order of their keys.
Whatever is read has its members in order and is no deeper than it was allowed to be;
with less room it is read as the same value, or found to be too deep.
-/

namespace ContextStream.Json

namespace Value

/-- Induction over the items of lists and the values of members. -/
@[elab_as_elim]
theorem induction {motive : Value → Prop} (null : motive .null) (bool : ∀ b, motive (.bool b))
    (number : ∀ n, motive (.number n)) (string : ∀ s, motive (.string s))
    (list : ∀ items, (∀ item ∈ items, motive item) → motive (.list items))
    (object : ∀ members, (∀ member ∈ members, motive member.2) → motive (.object members))
    (value : Value) : motive value := by
  refine Value.rec (motive_2 := fun items => ∀ item ∈ items, motive item)
    (motive_3 := fun members => ∀ member ∈ members, motive member.2)
    (motive_4 := fun member => motive member.2)
    null bool number string list object (by simp) ?_ (by simp) ?_ (fun _ _ is => is) value
  · intro item items first others
    simpa using ⟨first, others⟩
  · intro member members first others other otherMem
    rcases List.mem_cons.mp otherMem with rfl | behind
    · exact first
    · exact others other behind

/-! ## Parts -/

/-- A value is a part of another one. -/
inductive Part (part : Value) : Value → Prop
  | self : Part part part
  | item {item : Value} {items : List Value} (itemMem : item ∈ items) (inside : Part part item) :
      Part part (.list items)
  | member {member : String × Value} {members : List (String × Value)}
      (memberMem : member ∈ members) (inside : Part part member.2) : Part part (.object members)

/-- No number in a value is a floating point number. -/
def IsExact (value : Value) : Prop :=
  ∀ x, ¬Part (.number (.double x)) value

theorem isExact_string (s : String) : IsExact (.string s) := by
  intro x inside
  cases inside

theorem isExact_integer (n : Integer) : IsExact (.number (.integer n)) := by
  intro x inside
  cases inside

theorem isExact_list_iff {items : List Value} :
    IsExact (.list items) ↔ ∀ item ∈ items, item.IsExact := by
  constructor
  · intro exact item itemMem x inside
    exact exact x (.item itemMem inside)
  · intro exact x inside
    cases inside with
    | item itemMem inside => exact exact _ itemMem x inside

theorem isExact_object_iff {members : List (String × Value)} :
    IsExact (.object members) ↔ ∀ member ∈ members, member.2.IsExact := by
  constructor
  · intro exact member memberMem x inside
    exact exact x (.member memberMem inside)
  · intro exact x inside
    cases inside with
    | member memberMem inside => exact exact _ memberMem x inside

/-- The members of an object are in the order of their keys, each key once. -/
def Ascending (members : List (String × Value)) : Prop :=
  members.Pairwise (·.1 < ·.1)

/-- The members of every object in a value are in order. -/
def IsOrdered (value : Value) : Prop :=
  ∀ members, Part (.object members) value → Ascending members

theorem isOrdered_list_iff {items : List Value} :
    IsOrdered (.list items) ↔ ∀ item ∈ items, item.IsOrdered := by
  constructor
  · intro ordered item itemMem members inside
    exact ordered members (.item itemMem inside)
  · intro ordered members inside
    cases inside with
    | item itemMem inside => exact ordered _ itemMem members inside

theorem isOrdered_object_iff {members : List (String × Value)} :
    IsOrdered (.object members) ↔ Ascending members ∧ ∀ member ∈ members, member.2.IsOrdered := by
  constructor
  · intro ordered
    refine ⟨ordered members .self, ?_⟩
    intro member memberMem others inside
    exact ordered others (.member memberMem inside)
  · rintro ⟨ascending, ordered⟩ others inside
    cases inside with
    | self => exact ascending
    | member memberMem inside => exact ordered _ memberMem others inside

/-! ## Depth -/

mutual

/-- How many lists and objects of a value are inside each other. -/
def depth : Value → Nat
  | .null | .bool _ | .number _ | .string _ => 0
  | .list items => depthOfItems items + 1
  | .object members => depthOfMembers members + 1

/-- The depth of the deepest item. -/
def depthOfItems : List Value → Nat
  | [] => 0
  | item :: items => max item.depth (depthOfItems items)

/-- The depth of the deepest value of a member. -/
def depthOfMembers : List (String × Value) → Nat
  | [] => 0
  | (_, value) :: members => max value.depth (depthOfMembers members)

end

theorem depthOfItems_le_iff {items : List Value} {bound : Nat} :
    depthOfItems items ≤ bound ↔ ∀ item ∈ items, item.depth ≤ bound := by
  induction items with
  | nil => simp [depthOfItems]
  | cons item items ih => rw [depthOfItems, Nat.max_le, ih, List.forall_mem_cons]

theorem depthOfMembers_le_iff {members : List (String × Value)} {bound : Nat} :
    depthOfMembers members ≤ bound ↔ ∀ member ∈ members, member.2.depth ≤ bound := by
  induction members with
  | nil => simp [depthOfMembers]
  | cons member members ih => rw [depthOfMembers, Nat.max_le, ih, List.forall_mem_cons]

/-- A value with its members in order that fits into so many levels. -/
structure Fits (room : Nat) (value : Value) : Prop where
  ordered : value.IsOrdered
  depth_le : value.depth ≤ room

theorem fits_list_iff {items : List Value} {room : Nat} :
    Fits (room + 1) (.list items) ↔ ∀ item ∈ items, Fits room item := by
  constructor
  · rintro ⟨ordered, deep⟩ item itemMem
    rw [depth, Nat.add_le_add_iff_right, depthOfItems_le_iff] at deep
    exact ⟨isOrdered_list_iff.mp ordered item itemMem, deep item itemMem⟩
  · intro all
    refine ⟨isOrdered_list_iff.mpr fun item itemMem => (all item itemMem).ordered, ?_⟩
    rw [depth, Nat.add_le_add_iff_right, depthOfItems_le_iff]
    exact fun item itemMem => (all item itemMem).depth_le

theorem fits_object_iff {members : List (String × Value)} {room : Nat} :
    Fits (room + 1) (.object members) ↔
      Ascending members ∧ ∀ member ∈ members, Fits room member.2 := by
  constructor
  · rintro ⟨ordered, deep⟩
    rw [depth, Nat.add_le_add_iff_right, depthOfMembers_le_iff] at deep
    obtain ⟨ascending, all⟩ := isOrdered_object_iff.mp ordered
    exact ⟨ascending, fun member memberMem => ⟨all member memberMem, deep member memberMem⟩⟩
  · rintro ⟨ascending, all⟩
    refine ⟨isOrdered_object_iff.mpr ⟨ascending, fun member memberMem =>
      (all member memberMem).ordered⟩, ?_⟩
    rw [depth, Nat.add_le_add_iff_right, depthOfMembers_le_iff]
    exact fun member memberMem => (all member memberMem).depth_le

end Value

open Value

/-! ## Members in order -/

theorem mem_insertMember {key : String} {value : Value} {members : List (String × Value)}
    {member : String × Value} (memberMem : member ∈ insertMember key value members) :
    member = (key, value) ∨ member ∈ members := by
  induction members with
  | nil => exact Or.inl (List.mem_singleton.mp memberMem)
  | cons first members ih =>
      unfold insertMember at memberMem
      split at memberMem
      · simpa using memberMem
      · split at memberMem
        · rcases List.mem_cons.mp memberMem with same | other
          · exact Or.inl same
          · exact Or.inr (List.mem_cons_of_mem first other)
        · rcases List.mem_cons.mp memberMem with rfl | other
          · exact Or.inr List.mem_cons_self
          · exact (ih other).imp_right (List.mem_cons_of_mem first)

/-- A member is put in its place. -/
theorem ascending_insertMember {key : String} {value : Value} {members : List (String × Value)}
    (ascending : Ascending members) : Ascending (insertMember key value members) := by
  induction members with
  | nil => exact List.pairwise_singleton _ _
  | cons first members ih =>
      obtain ⟨below, behind⟩ := List.pairwise_cons.mp ascending
      unfold insertMember
      split
      · next before =>
          refine List.pairwise_cons.mpr ⟨?_, ascending⟩
          intro member memberMem
          rcases List.mem_cons.mp memberMem with rfl | other
          · exact before
          · exact String.lt_trans before (below member other)
      · split
        · next same => exact List.pairwise_cons.mpr ⟨same ▸ below, behind⟩
        · next notBefore notSame =>
            refine List.pairwise_cons.mpr ⟨?_, ih behind⟩
            intro member memberMem
            rcases mem_insertMember memberMem with rfl | other
            · exact Std.lt_of_le_of_ne (String.not_lt.mp notBefore) (Ne.symm notSame)
            · exact below member other

/-- A member behind all others is put at the end. -/
theorem insertMember_of_above {key : String} {value : Value} {members : List (String × Value)}
    (above : ∀ member ∈ members, member.1 < key) :
    insertMember key value members = members ++ [(key, value)] := by
  induction members with
  | nil => rfl
  | cons first members ih =>
      have less := above first List.mem_cons_self
      have different : ¬key = first.1 := fun same => String.lt_irrefl _ (same ▸ less)
      rw [insertMember, if_neg (String.lt_asymm less), if_neg different,
        ih fun member memberMem => above member (List.mem_cons_of_mem first memberMem),
        List.cons_append]

/-! ## What is read fits -/

/-- The values in front of a hole fit, and the lists and objects around it were allowed. -/
def Context.Sound (room : Nat) : Context → Prop
  | .whole => True
  | .item items outer =>
      outer.depth < room ∧ (∀ item ∈ items, Fits (room - (outer.depth + 1)) item) ∧
        outer.Sound room
  | .member members _ outer =>
      outer.depth < room ∧ Ascending members ∧
        (∀ member ∈ members, Fits (room - (outer.depth + 1)) member.2) ∧ outer.Sound room

/-- What was read up to a position fits. -/
def Position.Sound (room : Nat) : Position → Prop
  | .value context => context.Sound room
  | .firstItem outer | .firstKey outer => outer.depth < room ∧ outer.Sound room
  | .nextItem items outer | .afterItem items outer => (Context.item items outer).Sound room
  | .nextKey members outer | .afterMember members outer =>
      (Context.member members "" outer).Sound room
  | .colon members key outer => (Context.member members key outer).Sound room

/-- What was read so far fits, or all of it. -/
def Progress.Sound (room : Nat) : Progress → Prop
  | .missing position => position.Sound room
  | .complete value => value.Fits room

variable {room : Nat}

theorem Context.Sound.fill {context : Context} (sound : context.Sound room) {value : Value}
    (fits : value.Fits (room - context.depth)) : (context.fill value).Sound room := by
  cases context with
  | whole => exact fits
  | item items outer =>
      obtain ⟨open?, all, outside⟩ := sound
      exact ⟨open?, List.forall_mem_cons.mpr ⟨fits, all⟩, outside⟩
  | member members key outer =>
      obtain ⟨open?, ascending, all, outside⟩ := sound
      refine ⟨open?, ascending_insertMember ascending, ?_, outside⟩
      intro member memberMem
      rcases mem_insertMember memberMem with rfl | other
      · exact fits
      · exact all member other

/-- A list or an object is filled in where it was opened. -/
theorem Context.Sound.fill_closed {outer : Context} (sound : outer.Sound room)
    (open? : outer.depth < room) {value : Value}
    (fits : value.Fits (room - (outer.depth + 1) + 1)) : (outer.fill value).Sound room := by
  apply sound.fill
  rwa [show room - outer.depth = room - (outer.depth + 1) + 1 by omega]

theorem Context.sound_begin {context : Context} (sound : context.Sound room) {token : Token}
    {progress : Progress} (begun : context.begin (.read room) token = .ok progress) :
    progress.Sound room := by
  unfold begin at begun
  split at begun
  iterate 4
    · cases begun
      exact sound.fill ⟨nofun, Nat.zero_le _⟩
  iterate 2
    · simp only [enter] at begun
      split at begun
      · next open? =>
          cases begun
          exact ⟨open?, sound⟩
      · cases begun
  · cases begun
  · cases begun
  · cases begun

/-- Every step keeps what was read fitting. -/
theorem Position.sound_step {position : Position} (sound : position.Sound room) {token : Token}
    {progress : Progress} (stepped : position.step (.read room) token = .ok progress) :
    progress.Sound room := by
  cases position with
  | value context => exact Context.sound_begin sound stepped
  | firstItem outer =>
      obtain ⟨open?, outside⟩ := sound
      simp only [step] at stepped
      split at stepped
      · cases stepped
        exact outside.fill_closed open? (fits_list_iff.mpr nofun)
      · have inside : (Context.item [] outer).Sound room := ⟨open?, nofun, outside⟩
        exact Context.sound_begin inside stepped
  | nextItem items outer =>
      simp only [step] at stepped
      split at stepped
      · cases stepped
      · have inside : (Context.item items outer).Sound room := sound
        exact Context.sound_begin inside stepped
  | afterItem items outer =>
      simp only [step] at stepped
      split at stepped
      · cases stepped
        exact sound
      · cases stepped
        obtain ⟨open?, all, outside⟩ := sound
        refine outside.fill_closed open? (fits_list_iff.mpr fun item itemMem => ?_)
        exact all item (List.mem_reverse.mp itemMem)
      · cases stepped
  | firstKey outer =>
      obtain ⟨open?, outside⟩ := sound
      simp only [step] at stepped
      split at stepped
      · cases stepped
        exact outside.fill_closed open? (fits_object_iff.mpr ⟨.nil, nofun⟩)
      · cases key : (Manner.read room).key token with
        | error fault => simp [key, Except.map] at stepped
        | ok name =>
            simp only [key, Except.map, Except.ok.injEq] at stepped
            subst stepped
            exact ⟨open?, .nil, nofun, outside⟩
  | nextKey members outer =>
      simp only [step] at stepped
      split at stepped
      · cases stepped
      · cases key : (Manner.read room).key token with
        | error fault => simp [key, Except.map] at stepped
        | ok name =>
            simp only [key, Except.map, Except.ok.injEq] at stepped
            subst stepped
            exact sound
  | colon members key outer =>
      simp only [step] at stepped
      split at stepped
      · cases stepped
        exact sound
      · cases stepped
  | afterMember members outer =>
      simp only [step] at stepped
      split at stepped
      · cases stepped
        exact sound
      · cases stepped
        obtain ⟨open?, ascending, all, outside⟩ := sound
        exact outside.fill_closed open? (fits_object_iff.mpr ⟨ascending, all⟩)
      · cases stepped

theorem Position.fits_of_run {position : Position} (sound : position.Sound room) {size : Nat}
    {tokens rest : List Token} {value : Value}
    (done : position.run (.read room) size tokens = .ok (value, rest)) : value.Fits room := by
  induction tokens generalizing position with
  | nil => simp [run] at done
  | cons token tokens ih =>
      unfold run at done
      split at done
      · cases done
      · next complete =>
          cases done
          exact position.sound_step sound complete
      · next missing => exact ih (position.sound_step sound missing) done

/-- What is read has its members in order, and is no deeper than it may be. -/
theorem fits_of_readValue {size : Nat} {tokens rest : List Token} {value : Value}
    (read : readValue room size tokens = .ok (value, rest)) : value.Fits room := by
  have begins : (Position.value .whole).Sound room := trivial
  exact Position.fits_of_run begins read

/-- A text is a value when all of its tokens are. -/
theorem readValue_of_parse {text : String} {value : Value} (read : parse text = .ok value) :
    readValue maxDepth (tokenize text.toList).size (tokenize text.toList).tokens =
      .ok (value, []) := by
  unfold parse at read
  cases found : readValue maxDepth (tokenize text.toList).size (tokenize text.toList).tokens with
  | error fault => simp [found, bind, Except.bind, Except.mapError] at read
  | ok result =>
      obtain ⟨value', rest⟩ := result
      cases rest with
      | nil =>
          simp only [found, finish, bind, Except.bind, pure, Except.pure, Except.mapError,
            Except.ok.injEq] at read
          rw [read]
      | cons token rest => simp [found, finish, bind, Except.bind, Except.mapError] at read

/-- The value that a text is has its members in order, and a bounded depth. -/
theorem fits_of_parse {text : String} {value : Value} (read : parse text = .ok value) :
    value.Fits maxDepth :=
  fits_of_readValue (readValue_of_parse read)

/-! ## Less room -/

/-- With less room a reader gives the same, or finds that there is too little. -/
def TooDeepOr {α : Type} (less more : Except Fault α) : Prop :=
  less = more ∨ ∃ offset, less = .error ⟨.tooDeep, offset⟩

theorem Context.tooDeepOr_begin (context : Context) (token : Token) {less more : Nat}
    (le : less ≤ more) :
    TooDeepOr (context.begin (.read less) token) (context.begin (.read more) token) := by
  have entered : ∀ position : Context → Position,
      TooDeepOr (context.enter (.read less) token position)
        (context.enter (.read more) token position) := by
    intro position
    simp only [enter]
    by_cases room : context.depth < less
    · exact Or.inl (by rw [if_pos room, if_pos (Nat.lt_of_lt_of_le room le)])
    · exact Or.inr ⟨_, if_neg room⟩
  unfold begin
  split
  case h_5 => exact entered _
  case h_6 => exact entered _
  all_goals exact Or.inl rfl

theorem Manner.key_read (token : Token) (less more : Nat) :
    (Manner.read less).key token = (Manner.read more).key token := by
  unfold key
  split <;> rfl

theorem Position.tooDeepOr_step (position : Position) (token : Token) {less more : Nat}
    (le : less ≤ more) :
    TooDeepOr (position.step (.read less) token) (position.step (.read more) token) := by
  have sameKey := Manner.key_read token less more
  cases position with
  | value context => exact context.tooDeepOr_begin token le
  | firstItem outer =>
      simp only [step]
      split
      · exact Or.inl rfl
      · exact Context.tooDeepOr_begin _ token le
  | nextItem items outer =>
      by_cases close : token.lexeme = .symbol .listClose
      · exact Or.inl (by simp [step, close])
      · have begun : ∀ room, (Position.nextItem items outer).step (.read room) token =
            (Context.item items outer).begin (.read room) token := by
          intro room
          simp only [step]
          split
          · next is _ => exact absurd is close
          · rfl
        rw [begun, begun]
        exact Context.tooDeepOr_begin _ token le
  | nextKey members outer =>
      by_cases close : token.lexeme = .symbol .objectClose
      · exact Or.inl (by simp [step, close])
      · have keyed : ∀ room, (Position.nextKey members outer).step (.read room) token =
            ((Manner.read room).key token).map fun key => .missing (.colon members key outer) := by
          intro room
          simp only [step]
          split
          · next is _ => exact absurd is close
          · rfl
        rw [keyed, keyed, sameKey]
        exact Or.inl rfl
  | firstKey outer => exact Or.inl (by simp only [step, sameKey])
  | afterItem items outer => exact Or.inl rfl
  | colon members key outer => exact Or.inl rfl
  | afterMember members outer => exact Or.inl rfl

theorem Position.tooDeepOr_run (position : Position) (size : Nat) (tokens : List Token)
    {less more : Nat} (le : less ≤ more) :
    TooDeepOr (position.run (.read less) size tokens) (position.run (.read more) size tokens) := by
  induction tokens generalizing position with
  | nil => exact Or.inl (by cases position <;> rfl)
  | cons token tokens ih =>
      unfold run
      rcases position.tooDeepOr_step token le with same | ⟨offset, tooDeep⟩
      · rw [same]
        split
        · exact Or.inl rfl
        · exact Or.inl rfl
        · exact ih _
      · exact Or.inr ⟨offset, by rw [tooDeep]⟩

/-- A value that is read with more room, and has no place in less, is found to be too deep. -/
theorem tooDeep_of_readValue {less more size : Nat} {tokens rest : List Token} {value : Value}
    (read : readValue more size tokens = .ok (value, rest)) (le : less ≤ more)
    (deep : less < value.depth) :
    ∃ offset, readValue less size tokens = .error ⟨.tooDeep, offset⟩ := by
  rcases Position.tooDeepOr_run (.value .whole) size tokens le with same | tooDeep
  · have fits := fits_of_readValue (same.trans read)
    exact absurd fits.depth_le (Nat.not_le_of_gt deep)
  · exact tooDeep

end ContextStream.Json
