import ContextStream.Graph
import Mathlib.Data.List.Induction
import Mathlib.Data.List.Nodup

/-!
# The views of a graph

A graph is seen through its subjects, the predicates of a subject, and the objects
under a predicate. Every view lists exactly what the triples say, and nothing twice.
-/

namespace ContextStream

section Distinct

variable {α : Type} [DecidableEq α]

@[simp]
theorem mem_distinct {a : α} {elements : List α} : a ∈ distinct elements ↔ a ∈ elements := by
  induction elements with
  | nil => simp [distinct]
  | cons first rest ih =>
      simp only [distinct, List.mem_cons, List.mem_filter, ih, decide_eq_true_eq]
      by_cases same : a = first <;> simp [same]

theorem nodup_distinct (elements : List α) : (distinct elements).Nodup := by
  induction elements with
  | nil => exact List.nodup_nil
  | cons first rest ih =>
      rw [distinct, List.nodup_cons]
      exact ⟨by simp, ih.filter _⟩

theorem distinct_of_nodup {elements : List α} (nodup : elements.Nodup) :
    distinct elements = elements := by
  induction elements with
  | nil => rfl
  | cons first rest ih =>
      obtain ⟨new, nodup⟩ := List.nodup_cons.mp nodup
      rw [distinct, ih nodup, List.filter_eq_self.mpr]
      intro a aMem
      rw [decide_eq_true_eq]
      rintro rfl
      exact new aMem

theorem length_distinct_le (elements : List α) :
    (distinct elements).length ≤ elements.length := by
  induction elements with
  | nil => exact Nat.le_refl 0
  | cons first rest ih =>
      exact Nat.succ_le_succ (Nat.le_trans (List.length_filter_le _ _) ih)

/-- Of a second list only what the first one lacks is kept. -/
theorem distinct_append (elements others : List α) :
    distinct (elements ++ others) =
      distinct elements ++ (distinct others).filter (· ∉ elements) := by
  induction elements with
  | nil => simp [distinct]
  | cons first rest ih =>
      rw [List.cons_append, distinct, distinct, ih, List.filter_append, List.filter_filter,
        List.cons_append]
      simp

theorem distinct_concat (elements : List α) (a : α) :
    distinct (elements ++ [a]) =
      if a ∈ elements then distinct elements else distinct elements ++ [a] := by
  rw [distinct_append]
  split <;> simp [distinct, *]

/-- Elements that are all the same are one. -/
theorem distinct_eq_singleton {elements : List α} {a : α} (nonempty : elements ≠ [])
    (same : ∀ b ∈ elements, b = a) : distinct elements = [a] := by
  obtain ⟨first, rest, rfl⟩ := List.exists_cons_of_ne_nil nonempty
  obtain rfl := same first List.mem_cons_self
  rw [distinct, List.filter_eq_nil_iff.mpr]
  intro b bMem
  simpa using same b (List.mem_cons_of_mem first (mem_distinct.mp bMem))

end Distinct

namespace Graph

variable {graph : Graph} {subject predicate : Iri} {object : Term}

/-! ## Insertion -/

theorem insert_of_mem {triple : Triple} (known : triple ∈ graph.triples) :
    (graph.insert triple).2 = graph := by
  rw [insert, dif_pos known]

theorem triples_insert_of_notMem {triple : Triple} (new : triple ∉ graph.triples) :
    (graph.insert triple).2.triples = graph.triples ++ [triple] := by
  rw [insert, dif_neg new]

theorem ofList_concat (triples : List Triple) (triple : Triple) :
    ofList (triples ++ [triple]) = ((ofList triples).insert triple).2 := by
  simp [ofList, List.foldl_append]

/-- A graph holds the triples of a list without the repetitions. -/
theorem triples_ofList_eq_distinct (triples : List Triple) :
    (ofList triples).triples = distinct triples := by
  induction triples using List.reverseRecOn with
  | nil => rfl
  | append_singleton front triple ih =>
      have held : triple ∈ (ofList front).triples ↔ triple ∈ front := by rw [ih, mem_distinct]
      rw [ofList_concat, distinct_concat]
      by_cases known : triple ∈ front
      · rw [if_pos known, insert_of_mem (held.mpr known), ih]
      · rw [if_neg known, triples_insert_of_notMem (mt held.mp known), ih]

/-- A list of triples gives no more triples than it has. -/
theorem size_ofList_le (triples : List Triple) : (ofList triples).size ≤ triples.length := by
  rw [size, triples_ofList_eq_distinct]
  exact length_distinct_le triples

/-- Exactly the triples of a list are in its graph. -/
theorem mem_ofList {triple : Triple} {triples : List Triple} :
    triple ∈ (ofList triples).triples ↔ triple ∈ triples := by
  rw [triples_ofList_eq_distinct, mem_distinct]

/-- A triple that is already there may be left out of a list. -/
theorem ofList_append_cons_of_mem {triple : Triple} {front : List Triple} (known : triple ∈ front)
    (back : List Triple) : ofList (front ++ triple :: back) = ofList (front ++ back) := by
  have inserted : triple ∈ (ofList front).triples := mem_ofList.mpr known
  rw [ofList] at inserted
  simp only [ofList, List.foldl_append, List.foldl_cons, insert_of_mem inserted]

/-- A list of triples without repetitions is the graph that it gives. -/
theorem triples_ofList {triples : List Triple} (nodup : triples.Nodup) :
    (ofList triples).triples = triples := by
  rw [triples_ofList_eq_distinct, distinct_of_nodup nodup]

/-! ## Views -/

theorem mem_subjects : subject ∈ graph.subjects ↔ ∃ t ∈ graph.triples, t.subject = subject := by
  simp [subjects]

theorem nodup_subjects (graph : Graph) : graph.subjects.Nodup :=
  nodup_distinct _

theorem mem_predicates :
    predicate ∈ graph.predicates subject ↔
      ∃ t ∈ graph.triples, t.subject = subject ∧ t.predicate = predicate := by
  simp [predicates, and_assoc]

theorem nodup_predicates (graph : Graph) (subject : Iri) : (graph.predicates subject).Nodup :=
  nodup_distinct _

theorem mem_objects :
    object ∈ graph.objects subject predicate ↔ ⟨subject, predicate, object⟩ ∈ graph.triples := by
  simp only [objects_text, List.mem_map, List.mem_filter, decide_eq_true_eq]
  constructor
  · rintro ⟨⟨s, p, o⟩, ⟨tripleMem, rfl, rfl⟩, rfl⟩
    exact tripleMem
  · intro tripleMem
    exact ⟨_, ⟨tripleMem, rfl, rfl⟩, rfl⟩

/-- Two triples of one subject and one predicate differ in their objects. -/
theorem nodup_objects (graph : Graph) (subject predicate : Iri) :
    (graph.objects subject predicate).Nodup := by
  rw [objects_text]
  refine List.Nodup.map_on ?_ (graph.nodup.filter _)
  rintro ⟨s, p, o⟩ first ⟨s', p', o'⟩ second same
  simp only [List.mem_filter, decide_eq_true_eq] at first second
  obtain ⟨-, rfl, rfl⟩ := first
  obtain ⟨-, rfl, rfl⟩ := second
  cases same
  rfl

/-- A subject has a predicate exactly when it has an object under it. -/
theorem objects_ne_nil :
    graph.objects subject predicate ≠ [] ↔ predicate ∈ graph.predicates subject := by
  rw [mem_predicates, List.ne_nil_iff_exists_cons]
  constructor
  · rintro ⟨object, rest, found⟩
    have objectMem : object ∈ graph.objects subject predicate := by simp [found]
    exact ⟨_, mem_objects.mp objectMem, rfl, rfl⟩
  · rintro ⟨⟨s, p, o⟩, tripleMem, rfl, rfl⟩
    exact List.exists_cons_of_ne_nil (List.ne_nil_of_mem (mem_objects.mpr tripleMem))

/-- A graph has a subject exactly when the subject has a predicate. -/
theorem predicates_ne_nil : graph.predicates subject ≠ [] ↔ subject ∈ graph.subjects := by
  rw [mem_subjects, List.ne_nil_iff_exists_cons]
  constructor
  · rintro ⟨predicate, rest, found⟩
    have predicateMem : predicate ∈ graph.predicates subject := by simp [found]
    obtain ⟨triple, tripleMem, same, -⟩ := mem_predicates.mp predicateMem
    exact ⟨triple, tripleMem, same⟩
  · rintro ⟨triple, tripleMem, same⟩
    exact List.exists_cons_of_ne_nil
      (List.ne_nil_of_mem (mem_predicates.mpr ⟨triple, tripleMem, same, rfl⟩))

theorem mem_instancesOf {type : Iri} :
    subject ∈ graph.instancesOf type ↔ ⟨subject, Vocabulary.type, .iri type⟩ ∈ graph.triples := by
  simp only [instancesOf_text, List.mem_map, List.mem_filter, decide_eq_true_eq]
  constructor
  · rintro ⟨⟨s, p, o⟩, ⟨tripleMem, rfl, rfl⟩, rfl⟩
    exact tripleMem
  · intro tripleMem
    exact ⟨_, ⟨tripleMem, rfl, rfl⟩, rfl⟩

/-! ## Graphs with the same triples -/

variable {other : Graph}

/-- Graphs with the same triples differ only in their order. -/
theorem perm_iff {triples : List Triple} (nodup : triples.Nodup) :
    graph.triples.Perm triples ↔ ∀ triple, triple ∈ graph ↔ triple ∈ triples :=
  List.perm_ext_iff_of_nodup graph.nodup nodup

theorem objects_perm (perm : graph.triples.Perm other.triples) (subject : Iri)
    (predicate : String) :
    (graph.objects subject predicate).Perm (other.objects subject predicate) :=
  (perm.filter _).map _

theorem instancesOf_perm (perm : graph.triples.Perm other.triples) (type : String) :
    (graph.instancesOf type).Perm (other.instancesOf type) :=
  (perm.filter _).map _

end Graph

end ContextStream
