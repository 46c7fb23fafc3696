import ContextStream.Text.Split
import Mathlib.Data.List.Forall2

/-!
# Pieces of texts

Each character of a text is in a piece or separates two of them, and pieces that are read
one by one give one value each.
-/

namespace ContextStream.Text

/-- A property of the characters of ASCII is checked one by one. -/
@[elab_as_elim]
theorem forall_ascii {P : Char → Prop} (all : ∀ n < 128, P (Char.ofNat n)) {c : Char}
    (ascii : c.toNat < 128) : P c := by
  have holds := all c.toNat ascii
  rwa [Char.ofNat_toNat] at holds

/-- A property of each sign of a list is checked sign by sign. -/
theorem forall_mem_of_all {P : Char → Prop} [DecidablePred P] {signs : List Char}
    (all : signs.all (fun c => decide (P c)) = true) : ∀ c ∈ signs, P c :=
  fun c member => of_decide_eq_true (List.all_eq_true.mp all c member)

/-- Pieces in front of another one have a separator behind them, and the others in front. -/
theorem joinWith_append_cons (separator piece : List Char) (front others : List (List Char)) :
    joinWith separator (front ++ piece :: others) =
      front.flatMap (· ++ separator) ++ (piece ++ others.flatMap (separator ++ ·)) := by
  induction front with
  | nil => rfl
  | cons first front ih =>
      have separated : (front ++ piece :: others).flatMap (separator ++ ·) =
          separator ++ joinWith separator (front ++ piece :: others) := by
        cases front <;> simp [joinWith]
      calc
        _ = first ++ (front ++ piece :: others).flatMap (separator ++ ·) := rfl
        _ = first ++ (separator ++ joinWith separator (front ++ piece :: others)) := by
          rw [separated]
        _ = _ := by simp [ih]

theorem mem_joinWith {separator : List Char} {pieces : List (List Char)} {c : Char}
    (member : c ∈ joinWith separator pieces) : c ∈ separator ∨ ∃ piece ∈ pieces, c ∈ piece := by
  cases pieces with
  | nil => cases member
  | cons piece others =>
      rcases List.mem_append.mp member with inPiece | behind
      · exact Or.inr ⟨piece, List.mem_cons_self, inPiece⟩
      · obtain ⟨other, inOthers, inBoth⟩ := List.mem_flatMap.mp behind
        rcases List.mem_append.mp inBoth with separates | inOther
        · exact Or.inl separates
        · exact Or.inr ⟨other, List.mem_cons_of_mem piece inOthers, inOther⟩

/-- A character that does not separate is in a piece. -/
theorem exists_piece {mark c : Char} {text : List Char} (other : c ≠ mark) (member : c ∈ text) :
    ∃ piece ∈ splitBy (· == mark) text, c ∈ piece := by
  rw [← joinWith_splitBy mark text] at member
  rcases mem_joinWith member with separates | inPiece
  · exact absurd (List.mem_singleton.mp separates) other
  · exact inPiece

/-- A text is cut where a character first stands. -/
theorem cutAt_eq_iff {c : Char} {word front back : List Char} :
    cutAt (· == c) word = (front, back) ↔
      front ++ back = word ∧ c ∉ front ∧ ∀ d ∈ back.head?, d = c := by
  constructor
  · intro cut
    have first : (cutAt (· == c) word).1 = front := congrArg Prod.fst cut
    have second : (cutAt (· == c) word).2 = back := congrArg Prod.snd cut
    refine ⟨?_, fun member => ?_, fun d isHead => ?_⟩
    · rw [← first, ← second, cutAt_append]
    · rw [← first] at member
      simpa using eq_false_of_mem_cutAt member
    · rw [← second] at isHead
      simpa using eq_true_of_mem_head?_cutAt isHead
  · rintro ⟨rfl, absent, begins⟩
    apply cutAt_append_of_head
    · intro d member
      rw [beq_eq_false_iff_ne]
      rintro rfl
      exact absent member
    · exact fun d isHead => beq_iff_eq.mpr (begins d isHead)

theorem splitLast?_eq_none {mark : Char} {text : List Char} (absent : mark ∉ text) :
    splitLast? mark text = none := by
  have uncut : cutAt (· == mark) text.reverse = (text.reverse, []) := by
    apply cutAt_all
    intro c member
    rw [beq_eq_false_iff_ne]
    rintro rfl
    exact absent (List.mem_reverse.mp member)
  simp only [splitLast?, uncut]

theorem splitLast?_append {mark : Char} {front back : List Char} (absent : mark ∉ back) :
    splitLast? mark (front ++ mark :: back) = some (front, back) := by
  have cut : cutAt (· == mark) (front ++ mark :: back).reverse =
      (back.reverse, mark :: front.reverse) := by
    have turned : (front ++ mark :: back).reverse = back.reverse ++ mark :: front.reverse := by
      simp
    rw [turned]
    apply cutAt_append_of_head
    · intro c member
      rw [beq_eq_false_iff_ne]
      rintro rfl
      exact absent (List.mem_reverse.mp member)
    · rintro c ⟨⟩
      exact beq_self_eq_true mark
  simp only [splitLast?, cut, List.reverse_reverse]

/-- A list that is read as a whole is read one by one. -/
theorem forall₂_of_mapM {α β : Type} {read : α → Option β} {items : List α} {values : List β}
    (all : items.mapM read = some values) :
    List.Forall₂ (fun item value => read item = some value) items values := by
  induction items generalizing values with
  | nil =>
      cases all
      exact .nil
  | cons item items ih =>
      rw [List.mapM_cons] at all
      obtain ⟨value, first, rest⟩ := Option.bind_eq_some_iff.mp all
      obtain ⟨others, behind, whole⟩ := Option.bind_eq_some_iff.mp rest
      cases whole
      exact .cons first (ih behind)

theorem exists_of_forall₂ {α β : Type} {related : α → β → Prop} {items : List α} {values : List β}
    (pairs : List.Forall₂ related items values) {item : α} (member : item ∈ items) :
    ∃ value ∈ values, related item value := by
  induction pairs with
  | nil => cases member
  | cons first others ih =>
      rcases List.mem_cons.mp member with rfl | behind
      · exact ⟨_, List.mem_cons_self, first⟩
      · obtain ⟨value, inValues, is⟩ := ih behind
        exact ⟨value, List.mem_cons_of_mem _ inValues, is⟩

end ContextStream.Text
