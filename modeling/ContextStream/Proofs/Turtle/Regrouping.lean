import ContextStream.Proofs.Turtle.RoundTrip

/-!
# Documents are fixed points

The document of a graph states its triples in groups: subject by subject, in each predicate by
predicate. A graph that is made of the triples as they are stated has the same groups in the
same order, and so the same document. Hence the document of a graph tells its groups and their
order, and nothing else.
-/

namespace ContextStream

/-! ## Lists in parts that are known by a key -/

section Keys

variable {α β : Type} [DecidableEq α] {elements : List α} {list : α → List β} {key : β → α}

/-- Each of some lists whose elements tell which list they belong to is found by its key. -/
theorem filter_flatMap_of_key (nodup : elements.Nodup)
    (keyed : ∀ a ∈ elements, ∀ b ∈ list a, key b = a) (a : α) :
    (elements.flatMap list).filter (key · = a) = if a ∈ elements then list a else [] := by
  induction elements with
  | nil => rfl
  | cons first rest ih =>
      obtain ⟨new, nodup⟩ := List.nodup_cons.mp nodup
      have others := ih nodup fun b bMem => keyed b (List.mem_cons_of_mem first bMem)
      have own : ∀ b ∈ list first, key b = first := keyed first List.mem_cons_self
      rw [List.flatMap_cons, List.filter_append, others]
      by_cases same : a = first
      · subst same
        rw [if_neg new, if_pos List.mem_cons_self, List.append_nil, List.filter_eq_self]
        simpa using own
      · have none? : (list first).filter (key · = a) = [] := by
          rw [List.filter_eq_nil_iff]
          intro b bMem
          simpa [own b bMem] using Ne.symm same
        simp [none?, same]

/-- The lists, if none of them is empty, are told by their elements. -/
theorem distinct_map_flatMap_of_key (nodup : elements.Nodup)
    (keyed : ∀ a ∈ elements, ∀ b ∈ list a, key b = a) (nonempty : ∀ a ∈ elements, list a ≠ []) :
    distinct ((elements.flatMap list).map key) = elements := by
  induction elements with
  | nil => rfl
  | cons first rest ih =>
      obtain ⟨new, nodup⟩ := List.nodup_cons.mp nodup
      have others := ih nodup (fun b bMem => keyed b (List.mem_cons_of_mem first bMem))
        fun b bMem => nonempty b (List.mem_cons_of_mem first bMem)
      have own : ∀ a ∈ (list first).map key, a = first := by
        simpa using keyed first List.mem_cons_self
      have some? : (list first).map key ≠ [] := by
        simpa using nonempty first List.mem_cons_self
      rw [List.flatMap_cons, List.map_append, distinct_append, others,
        distinct_eq_singleton some? own, List.filter_eq_self.mpr]
      · rfl
      · intro a aMem
        rw [decide_eq_true_eq]
        intro inFirst
        exact new (own a inFirst ▸ aMem)

end Keys

namespace Turtle

variable {graph other : Graph} {subject predicate : Iri}

/-! ## The groups of a graph -/

/-- What a graph says of a subject under a predicate. -/
def group (graph : Graph) (subject predicate : Iri) : List Triple :=
  (graph.objects subject predicate).map fun object => ⟨subject, predicate, object⟩

/-- What a graph says of a subject, group by group. -/
def groups (graph : Graph) (subject : Iri) : List Triple :=
  (graph.predicates subject).flatMap (group graph subject)

theorem blockTriples_eq_flatMap (graph : Graph) :
    blockTriples graph = graph.subjects.flatMap (groups graph) := by
  simp only [blockTriples, blocks, Block.triples, statementsOf, Statement.triples,
    List.flatMap_map]
  rfl

theorem predicate_of_mem_group : ∀ triple ∈ group graph subject predicate,
    triple.predicate = predicate := by
  intro triple tripleMem
  obtain ⟨object, -, rfl⟩ := List.mem_map.mp tripleMem
  rfl

theorem subject_of_mem_groups : ∀ triple ∈ groups graph subject, triple.subject = subject := by
  intro triple tripleMem
  obtain ⟨predicate, -, inGroup⟩ := List.mem_flatMap.mp tripleMem
  obtain ⟨object, -, rfl⟩ := List.mem_map.mp inGroup
  rfl

theorem group_ne_nil (stated : predicate ∈ graph.predicates subject) :
    group graph subject predicate ≠ [] := by
  simpa [group] using Graph.objects_ne_nil.mpr stated

theorem groups_ne_nil (known : subject ∈ graph.subjects) : groups graph subject ≠ [] := by
  obtain ⟨predicate, stated⟩ := List.exists_mem_of_ne_nil _ (Graph.predicates_ne_nil.mpr known)
  obtain ⟨triple, inGroup⟩ := List.exists_mem_of_ne_nil _ (group_ne_nil stated)
  exact List.ne_nil_of_mem (List.mem_flatMap.mpr ⟨predicate, stated, inGroup⟩)

/-! ## Graphs of stated triples -/

/-- The graph of the triples of another one, as they are stated in its document. -/
def regrouped (graph : Graph) : Graph :=
  Graph.ofList (blockTriples graph)

theorem triples_regrouped (graph : Graph) :
    (regrouped graph).triples = graph.subjects.flatMap (groups graph) := by
  rw [regrouped, Graph.triples_ofList (nodup_blockTriples graph), blockTriples_eq_flatMap]

theorem subjects_regrouped (graph : Graph) : (regrouped graph).subjects = graph.subjects := by
  rw [Graph.subjects, triples_regrouped]
  exact distinct_map_flatMap_of_key graph.nodup_subjects (fun _ _ => subject_of_mem_groups)
    fun _ => groups_ne_nil

/-- What a regrouped graph says of a subject are the groups of the subject. -/
theorem filter_triples_regrouped (graph : Graph) (subject : Iri) :
    (regrouped graph).triples.filter (·.subject = subject) = groups graph subject := by
  rw [triples_regrouped,
    filter_flatMap_of_key graph.nodup_subjects (fun _ _ => subject_of_mem_groups)]
  split
  · rfl
  · next unknown =>
      have none? : graph.predicates subject = [] := by
        by_contra some?
        exact unknown (Graph.predicates_ne_nil.mp some?)
      rw [groups, none?]
      rfl

theorem predicates_regrouped (graph : Graph) (subject : Iri) :
    (regrouped graph).predicates subject = graph.predicates subject := by
  rw [Graph.predicates, filter_triples_regrouped]
  exact distinct_map_flatMap_of_key (graph.nodup_predicates subject)
    (fun _ _ => predicate_of_mem_group) fun _ => group_ne_nil

theorem objects_regrouped (graph : Graph) (subject predicate : Iri) :
    (regrouped graph).objects subject predicate = graph.objects subject predicate := by
  have found : (regrouped graph).triples.filter
      (fun t => t.subject = subject ∧ t.predicate = predicate) = group graph subject predicate := by
    calc
      (regrouped graph).triples.filter (fun t => t.subject = subject ∧ t.predicate = predicate) =
          ((regrouped graph).triples.filter (·.subject = subject)).filter
            (·.predicate = predicate) := by
        rw [List.filter_filter]
        simp [Bool.and_comm]
      _ = if predicate ∈ graph.predicates subject then group graph subject predicate else [] := by
        rw [filter_triples_regrouped]
        exact filter_flatMap_of_key (graph.nodup_predicates subject)
          (fun _ _ => predicate_of_mem_group) predicate
      _ = group graph subject predicate := by
        split
        · rfl
        · next unstated =>
            have none? : graph.objects subject predicate = [] := by
              by_contra some?
              exact unstated (Graph.objects_ne_nil.mp some?)
            rw [group, none?]
            rfl
  rw [Graph.objects_text, found, group, List.map_map]
  exact List.map_id _

/-! ## Documents -/

/-- Two graphs have the same groups in the same order. -/
structure SameGroups (graph other : Graph) : Prop where
  subjects : graph.subjects = other.subjects
  predicates : ∀ subject ∈ graph.subjects, graph.predicates subject = other.predicates subject
  objects : ∀ subject ∈ graph.subjects, ∀ predicate ∈ graph.predicates subject,
    graph.objects subject predicate = other.objects subject predicate

theorem sameGroups_regrouped (graph : Graph) : SameGroups (regrouped graph) graph where
  subjects := subjects_regrouped graph
  predicates subject _ := predicates_regrouped graph subject
  objects subject _ predicate _ := objects_regrouped graph subject predicate

/-- A document depends on the groups only. -/
theorem SameGroups.write_eq (same : SameGroups graph other) : write graph = write other := by
  have blocks_eq : blocks graph = blocks other := by
    rw [blocks, blocks, ← same.subjects]
    apply List.map_congr_left
    intro subject known
    rw [Block.mk.injEq, statementsOf, statementsOf, ← same.predicates subject known]
    refine ⟨rfl, List.map_congr_left fun predicate stated => ?_⟩
    rw [same.objects subject known predicate stated]
  rw [write, write, blocks_eq]

/-- The groups of a graph are read from its document. -/
theorem sameGroups_of_write_eq (same : write graph = write other) : SameGroups graph other := by
  have stated : blockTriples graph = blockTriples other := by
    have read := read?_write graph
    rw [same, read?_write other] at read
    exact (Option.some.inj read).symm
  have regrouped_eq : regrouped graph = regrouped other := congrArg Graph.ofList stated
  constructor
  · rw [← subjects_regrouped graph, regrouped_eq, subjects_regrouped]
  · intro subject _
    rw [← predicates_regrouped graph, regrouped_eq, predicates_regrouped]
  · intro subject _ predicate _
    rw [← objects_regrouped graph, regrouped_eq, objects_regrouped]

/-- The triples that are read from the document of a graph, inserted one after the other, give
a graph with the same document. Two graphs have the same document exactly if they have the same
subjects, each with the same predicates, and each of these with the same objects, all in the
same order. -/
theorem fixedPoint_of_write (graph : Graph) :
    (∃ triples, read? (write graph) = some triples ∧
      write (Graph.ofList triples) = write graph) ∧
    ∀ other, write graph = write other ↔ SameGroups graph other :=
  ⟨⟨blockTriples graph, read?_write graph, (sameGroups_regrouped graph).write_eq⟩,
    fun _ => ⟨sameGroups_of_write_eq, SameGroups.write_eq⟩⟩

end Turtle

end ContextStream
