import ContextStream.Proofs.Graph

/-!
# The order of a graph

A graph that was made by insertions holds what was inserted, each triple once and where it
was inserted first. Its views list what they show in the same order: the subjects by their
first triples, the objects of a subject under a predicate and the subjects of a type by the
triples that state them.
-/

namespace ContextStream

/-! ## Elements in the order in which they are first seen -/

/-- What is listed is what stands somewhere in a list, each element once and in the order in
which the elements first stand there. An element may stand for what is listed. -/
structure FirstSeen {α β : Type} [DecidableEq β] (elements : List β) (stands : α → β)
    (listed : List α) : Prop where
  nodup : listed.Nodup
  mem : ∀ a, a ∈ listed ↔ stands a ∈ elements
  order : listed.Pairwise fun a b => elements.idxOf (stands a) < elements.idxOf (stands b)

section Distinct

variable {α β : Type} [DecidableEq α] [DecidableEq β]

theorem distinct_filter (keep : α → Bool) (elements : List α) :
    distinct (elements.filter keep) = (distinct elements).filter keep := by
  induction elements with
  | nil => rfl
  | cons a rest ih =>
      by_cases kept : keep a = true
      · rw [List.filter_cons_of_pos kept, distinct, distinct, List.filter_cons_of_pos kept, ih,
          List.filter_comm]
      · rw [List.filter_cons_of_neg kept, distinct, List.filter_cons_of_neg kept, ih,
          List.filter_filter]
        apply List.filter_congr
        intro b _
        by_cases same : b = a
        · simp [same, kept]
        · simp [same]

/-- What repeats an element is left out before or behind a map. -/
theorem distinct_map_distinct (f : α → β) (elements : List α) :
    distinct ((distinct elements).map f) = distinct (elements.map f) := by
  induction elements with
  | nil => rfl
  | cons a rest ih =>
      have others : ((distinct rest).filter (· ≠ a)).filter (f · ≠ f a) =
          (distinct rest).filter (f · ≠ f a) := by
        rw [List.filter_filter]
        apply List.filter_congr
        intro b _
        by_cases same : b = a <;> simp [same]
      rw [distinct, List.map_cons, List.map_cons, distinct, distinct]
      calc
        f a :: (distinct (((distinct rest).filter (· ≠ a)).map f)).filter (· ≠ f a) =
            f a :: distinct ((((distinct rest).filter (· ≠ a)).filter (f · ≠ f a)).map f) := by
          rw [← distinct_filter, List.filter_map]
          rfl
        _ = f a :: distinct (((distinct rest).map f).filter (· ≠ f a)) := by
          rw [others, List.filter_map]
          rfl
        _ = f a :: (distinct (rest.map f)).filter (· ≠ f a) := by
          rw [distinct_filter, ih]

/-- The distinct elements of a list are those that are first seen. -/
theorem firstSeen_distinct (elements : List α) : FirstSeen elements id (distinct elements) where
  nodup := nodup_distinct elements
  mem _ := mem_distinct
  order := by
    induction elements with
    | nil => exact List.Pairwise.nil
    | cons a rest ih =>
        rw [distinct, List.pairwise_cons]
        constructor
        · intro b bMem
          have other : b ≠ a := by simpa using (List.mem_filter.mp bMem).2
          simp [List.idxOf_cons_ne rest other.symm]
        · refine (ih.filter _).imp_of_mem ?_
          intro b c bMem cMem before
          have other : b ≠ a := by simpa using (List.mem_filter.mp bMem).2
          have other' : c ≠ a := by simpa using (List.mem_filter.mp cMem).2
          simpa [List.idxOf_cons_ne rest other.symm, List.idxOf_cons_ne rest other'.symm]
            using before

omit [DecidableEq α] in
/-- Some of the elements that are first seen, each shown by what stands for it. -/
theorem FirstSeen.map_filter {elements listed : List β} (seen : FirstSeen elements id listed)
    {stands : α → β} {keep : β → Bool} {shown : β → α} (kept : ∀ a, keep (stands a) = true)
    (shows : ∀ a, shown (stands a) = a) (stood : ∀ b, keep b = true → stands (shown b) = b) :
    FirstSeen elements stands ((listed.filter keep).map shown) where
  nodup := by
    refine List.Nodup.map_on ?_ (seen.nodup.filter _)
    intro b bMem c cMem same
    rw [← stood b (List.mem_filter.mp bMem).2, ← stood c (List.mem_filter.mp cMem).2, same]
  mem a := by
    rw [List.mem_map]
    constructor
    · rintro ⟨b, bMem, rfl⟩
      obtain ⟨listedMem, keeps⟩ := List.mem_filter.mp bMem
      rw [stood b keeps]
      exact (seen.mem b).mp listedMem
    · intro aMem
      exact ⟨stands a, List.mem_filter.mpr ⟨(seen.mem _).mpr aMem, kept a⟩, shows a⟩
  order := by
    rw [List.pairwise_map]
    refine (seen.order.filter keep).imp_of_mem ?_
    intro b c bMem cMem before
    rwa [stood b (List.mem_filter.mp bMem).2, stood c (List.mem_filter.mp cMem).2]

end Distinct

namespace Graph

/-! ## Insertions -/

theorem insert_fst (graph : Graph) (triple : Triple) :
    (graph.insert triple).1 = decide (triple ∉ graph.triples) := by
  by_cases known : triple ∈ graph.triples <;> simp [insert, known]

/-- A graph is an ordered set: after any insertions it holds each inserted triple once, where
it was inserted first. A further insertion succeeds exactly if its triple was not inserted
before, and otherwise changes nothing. Every view lists what it shows once, in the order in
which it is first seen. A text that is no IRI is no predicate and no type. -/
theorem firstSeen_of_inserts (inserted : List Triple) :
    let graph := ofList inserted
    FirstSeen inserted id graph.triples ∧
      (∀ triple, ((graph.insert triple).1 = true ↔ triple ∉ inserted) ∧
        ((graph.insert triple).1 = false → (graph.insert triple).2 = graph) ∧
        (graph.insert triple).2 = ofList (inserted ++ [triple])) ∧
      FirstSeen (inserted.map (·.subject)) id graph.subjects ∧
      (∀ subject predicate, FirstSeen inserted (fun object => ⟨subject, predicate, object⟩)
        (graph.objects subject predicate)) ∧
      (∀ type, FirstSeen inserted (fun subject => ⟨subject, Vocabulary.type, .iri type⟩)
        (graph.instancesOf type)) ∧
      ∀ text, (∀ iri : Iri, iri.text ≠ text) →
        (∀ subject, graph.objects subject text = []) ∧ graph.instancesOf text = [] := by
  intro graph
  have triples : graph.triples = distinct inserted := triples_ofList_eq_distinct inserted
  have seen : FirstSeen inserted id graph.triples := triples ▸ firstSeen_distinct inserted
  refine ⟨seen, fun triple => ⟨?_, fun known => ?_, (ofList_concat inserted triple).symm⟩, ?_,
    fun subject predicate => ?_, fun type => ?_, fun text foreign => ⟨fun subject => ?_, ?_⟩⟩
  · rw [insert_fst, decide_eq_true_eq, mem_ofList]
  · rw [insert_fst, decide_eq_false_iff_not, not_not] at known
    exact insert_of_mem known
  · rw [subjects, triples, distinct_map_distinct]
    exact firstSeen_distinct _
  · rw [objects_text]
    refine seen.map_filter (fun object => by simp) (fun object => rfl) ?_
    rintro ⟨s, p, o⟩ keeps
    obtain ⟨rfl, rfl⟩ : s = subject ∧ p = predicate := by simpa using keeps
    rfl
  · rw [instancesOf_text]
    refine seen.map_filter (fun subject => by simp) (fun subject => rfl) ?_
    rintro ⟨s, p, o⟩ keeps
    obtain ⟨rfl, rfl⟩ : p = Vocabulary.type ∧ o = .iri type := by simpa using keeps
    rfl
  · simp [objects, foreign]
  · have none? (object : Term) : object.iri?.any (·.text = text) = false := by
      cases object <;> simp [Term.iri?, foreign]
    simp [instancesOf, none?]

end Graph

end ContextStream
