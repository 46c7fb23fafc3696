import ContextStream.Assertion.Basic
import ContextStream.Proofs.Graph
import Mathlib.Data.List.Perm.Subperm

/-!
# The graphs that pass the check

The check counts triples and looks at a few views of a graph. The graphs that pass it are
those with the seven triples of an assertion, in any order. Beside the marker an assertion
has one other type, which need not be a node.
-/

namespace ContextStream

namespace Vocabulary

/-- The properties of assertions and annotations. -/
def properties : List Iri :=
  [type, assertionSubject, assertionObject, annotatedBy, hasValue]

theorem nodup_properties : properties.Nodup := by
  decide +kernel

theorem timestampClass_ne_binaryAssertion : timestampClass ≠ binaryAssertion := by
  decide +kernel

end Vocabulary

namespace Assertion

/-! ## What the check looks at -/

theorem require_eq_ok_iff {requirement : Bool} {misshape : Misshape} {u : Unit} :
    require requirement misshape = .ok u ↔ requirement = true := by
  cases requirement <;> simp [require]

theorem onlyNode_eq_ok_iff {graph : Graph} {subject predicate node : Iri} :
    onlyNode graph subject predicate = .ok node ↔
      graph.objects subject predicate = [.iri node] := by
  unfold onlyNode
  split
  · next found => simp [found]
  · next others => simpa using others node

theorem onlyAssertion_eq_ok_iff {graph : Graph} {assertion : Iri} :
    onlyAssertion graph = .ok assertion ↔
      graph.instancesOf Vocabulary.binaryAssertion = [assertion] := by
  unfold onlyAssertion
  split
  · next found => simp [found]
  · next others => simpa using others assertion

/-- What the views of a graph show of an assertion and its annotation. -/
structure Shows (graph : Graph) (id stampId : Iri) : Prop where
  size : graph.size = 7
  instances : graph.instancesOf Vocabulary.binaryAssertion = [id]
  types : (graph.objects id Vocabulary.type).length = 2
  subject : ∃ subject, graph.objects id Vocabulary.assertionSubject = [.iri subject]
  object : ∃ object, graph.objects id Vocabulary.assertionObject = [.iri object]
  stamp : graph.objects id Vocabulary.annotatedBy = [.iri stampId]
  apart : stampId ≠ id
  stampType : graph.objects stampId Vocabulary.type = [.iri Vocabulary.timestampClass]
  value : ((graph.objects stampId Vocabulary.hasValue).filterMap Term.integer?).length = 1

/-- A graph passes the check exactly if its views show an assertion. -/
theorem checkShape_eq_ok_iff_shows {graph : Graph} :
    checkShape graph = .ok () ↔ ∃ id stampId, Shows graph id stampId := by
  simp only [checkShape, bind_eq_ok_iff, require_eq_ok_iff, onlyNode_eq_ok_iff,
    onlyAssertion_eq_ok_iff, decide_eq_true_eq]
  constructor
  · rintro ⟨-, size, id, instances, -, types, _, subject, _, object, stampId, stamp, -, apart,
      _, stampType, -, rfl, value⟩
    exact ⟨id, stampId, size, instances, types, ⟨_, subject⟩, ⟨_, object⟩, stamp, apart,
      stampType, value⟩
  · rintro ⟨id, stampId, size, instances, types, ⟨_, subject⟩, ⟨_, object⟩, stamp, apart,
      stampType, value⟩
    exact ⟨(), size, id, instances, (), types, _, subject, _, object, stampId, stamp, (), apart,
      _, stampType, (), rfl, value⟩

/-! ## The triples of an assertion -/

/-- Beside one element a list of two without repetitions has another one. -/
theorem exists_other {α : Type} {a : α} {elements : List α} (two : elements.length = 2)
    (nodup : elements.Nodup) (member : a ∈ elements) : ∃ b ∈ elements, b ≠ a := by
  obtain ⟨first, second, rfl⟩ := List.length_eq_two.mp two
  have differ : first ≠ second := by simpa using nodup
  rcases List.mem_pair.mp member with rfl | rfl
  · exact ⟨second, by simp, differ.symm⟩
  · exact ⟨first, by simp, differ⟩

/-- The parts of an assertion and its annotation. -/
structure Layout where
  id : Iri
  type : Term
  subject : Iri
  object : Iri
  stampId : Iri
  time : Int64

namespace Layout

variable {layout : Layout} {graph : Graph}

/-- The triples of an assertion with these parts. -/
def triples (layout : Layout) : List Triple :=
  [⟨layout.id, Vocabulary.type, layout.type⟩,
    ⟨layout.id, Vocabulary.type, .iri Vocabulary.binaryAssertion⟩,
    ⟨layout.id, Vocabulary.assertionSubject, .iri layout.subject⟩,
    ⟨layout.id, Vocabulary.assertionObject, .iri layout.object⟩,
    ⟨layout.id, Vocabulary.annotatedBy, .iri layout.stampId⟩,
    ⟨layout.stampId, Vocabulary.type, .iri Vocabulary.timestampClass⟩,
    ⟨layout.stampId, Vocabulary.hasValue, .integer layout.time⟩]

/-- The two nodes are apart, and so are the two types. -/
structure Proper (layout : Layout) : Prop where
  apart : layout.id ≠ layout.stampId
  domain : layout.type ≠ .iri Vocabulary.binaryAssertion

/-- No two of the triples are the same. -/
theorem Proper.nodup_triples (proper : layout.Proper) : layout.triples.Nodup := by
  have properties := Vocabulary.nodup_properties
  simp only [Vocabulary.properties, List.nodup_cons, List.mem_cons, not_or] at properties
  simp [triples, properties, proper.apart, proper.domain]

/-- A graph with the triples of an assertion, in any order, shows the assertion. -/
theorem Proper.shows_of_perm (proper : layout.Proper) (perm : graph.triples.Perm layout.triples) :
    Shows graph layout.id layout.stampId := by
  have properties := Vocabulary.nodup_properties
  have reversed := List.nodup_reverse.mpr Vocabulary.nodup_properties
  simp only [Vocabulary.properties, List.reverse_cons, List.reverse_nil, List.nil_append,
    List.cons_append, List.nodup_cons, List.mem_cons, not_or] at properties reversed
  have classes := Vocabulary.timestampClass_ne_binaryAssertion
  have ⟨apart, domain⟩ := proper
  -- No view of one element depends on the order, so that it is computed in the usual one.
  let usual : Graph := ⟨layout.triples, proper.nodup_triples⟩
  have same : graph.triples.Perm usual.triples := perm
  have instances := Graph.instancesOf_perm same
  have objects := Graph.objects_perm same
  have only {predicate id : Iri} {object : Term} (is : usual.objects id predicate = [object]) :
      graph.objects id predicate = [object] :=
    List.perm_singleton.mp (is ▸ objects id predicate)
  constructor
  case size => exact perm.length_eq
  case instances =>
    apply List.perm_singleton.mp
    simpa [usual, Graph.instancesOf_text, triples, properties, reversed, classes, domain] using
      instances Vocabulary.binaryAssertion
  case types =>
    rw [(objects _ _).length_eq]
    simp [usual, Graph.objects_text, triples, reversed, apart.symm]
  case apart => exact apart.symm
  case value =>
    have time : usual.objects layout.stampId Vocabulary.hasValue = [.integer layout.time] := by
      simp [usual, Graph.objects_text, triples, properties, apart]
    rw [only time]
    rfl
  case stampType => exact only (by simp [usual, Graph.objects_text, triples, reversed, apart])
  case subject =>
    exact ⟨layout.subject,
      only (by simp [usual, Graph.objects_text, triples, properties, reversed])⟩
  case object =>
    exact ⟨layout.object, only (by simp [usual, Graph.objects_text, triples, properties, reversed])⟩
  case stamp => exact only (by simp [usual, Graph.objects_text, triples, properties, reversed])

/-- A graph that shows an assertion holds its seven triples, and has room for no others. -/
theorem exists_perm_of_shows {id stampId : Iri} (shows_ : Shows graph id stampId) :
    ∃ layout : Layout, layout.Proper ∧ graph.triples.Perm layout.triples := by
  have holds {predicate subject : Iri} {object : Term}
      (is : graph.objects subject predicate = [object]) :
      ⟨subject, predicate, object⟩ ∈ graph.triples :=
    Graph.mem_objects.mp (by simp [is])
  have marked : ⟨id, Vocabulary.type, .iri Vocabulary.binaryAssertion⟩ ∈ graph.triples :=
    Graph.mem_instancesOf.mp (by simp [shows_.instances])
  obtain ⟨type, typeMem, domain⟩ := exists_other shows_.types
    (graph.nodup_objects id Vocabulary.type) (Graph.mem_objects.mpr marked)
  obtain ⟨subject, isSubject⟩ := shows_.subject
  obtain ⟨object, isObject⟩ := shows_.object
  obtain ⟨time, values⟩ := List.length_eq_one_iff.mp shows_.value
  have timeMem : time ∈ (graph.objects stampId Vocabulary.hasValue).filterMap Term.integer? := by
    simp [values]
  obtain ⟨value, valueMem, isTime⟩ := List.mem_filterMap.mp timeMem
  cases value with
  | iri node => cases isTime
  | integer n =>
      cases isTime
      let layout : Layout := ⟨id, type, subject, object, stampId, time⟩
      have proper : layout.Proper := ⟨shows_.apart.symm, domain⟩
      have subset : layout.triples ⊆ graph.triples := by
        simp only [triples, List.cons_subset, List.nil_subset, and_true, layout]
        exact ⟨Graph.mem_objects.mp typeMem, marked, holds isSubject, holds isObject,
          holds shows_.stamp, holds shows_.stampType, Graph.mem_objects.mp valueMem⟩
      have few : graph.triples.length ≤ layout.triples.length := Nat.le_of_eq shows_.size
      have all := (List.subperm_of_subset proper.nodup_triples subset).perm_of_length_le few
      exact ⟨layout, proper, all.symm⟩

end Layout

/-- A graph passes the check exactly if its triples are those of an assertion, in any order. -/
theorem checkShape_eq_ok_iff_perm {graph : Graph} :
    checkShape graph = .ok () ↔
      ∃ layout : Layout, layout.Proper ∧ graph.triples.Perm layout.triples := by
  rw [checkShape_eq_ok_iff_shows]
  constructor
  · rintro ⟨id, stampId, shows_⟩
    exact Layout.exists_perm_of_shows shows_
  · rintro ⟨layout, proper, perm⟩
    exact ⟨layout.id, layout.stampId, proper.shows_of_perm perm⟩

/-! ## Order -/

section Order

variable {graph other : Graph}

theorem onlyNode_congr (perm : graph.triples.Perm other.triples) :
    onlyNode graph = onlyNode other := by
  funext subject predicate
  have objects := Graph.objects_perm perm subject predicate
  unfold onlyNode
  split
  · next node found =>
      rw [found] at objects
      rw [← List.singleton_perm.mp objects]
  · next others =>
      split
      · next node found =>
          rw [found] at objects
          exact absurd (List.perm_singleton.mp objects) (others node)
      · rw [objects.length_eq]

theorem onlyAssertion_congr (perm : graph.triples.Perm other.triples) :
    onlyAssertion graph = onlyAssertion other := by
  have instances := Graph.instancesOf_perm perm Vocabulary.binaryAssertion
  unfold onlyAssertion
  split
  · next assertion found =>
      rw [found] at instances
      rw [← List.singleton_perm.mp instances]
  · next others =>
      split
      · next assertion found =>
          rw [found] at instances
          exact absurd (List.perm_singleton.mp instances) (others assertion)
      · rw [instances.length_eq]

/-- The verdict does not depend on the order of the triples, nor does the fault. -/
theorem checkShape_congr (perm : graph.triples.Perm other.triples) :
    checkShape graph = checkShape other := by
  have size : graph.size = other.size := perm.length_eq
  have types (id : Iri) : (graph.objects id Vocabulary.type).length =
      (other.objects id Vocabulary.type).length :=
    (Graph.objects_perm perm id Vocabulary.type).length_eq
  have values (id : Iri) :
      ((graph.objects id Vocabulary.hasValue).filterMap Term.integer?).length =
        ((other.objects id Vocabulary.hasValue).filterMap Term.integer?).length :=
    ((Graph.objects_perm perm id Vocabulary.hasValue).filterMap _).length_eq
  simp only [checkShape, size, onlyAssertion_congr perm, onlyNode_congr perm, types, values]

end Order

/-- A graph passes the check exactly if its triples are the seven of one assertion and its
annotation: the two nodes are different, and the type beside the marker, a node or an integer,
is not the marker. Only the set of the triples counts, whatever their order is and however
often each of them is inserted. -/
theorem checkShape_eq_ok_iff (graph : Graph) :
    (checkShape graph = .ok () ↔
      ∃ (id stampId subject object : Iri) (type : Term) (time : Int64),
        id ≠ stampId ∧ type ≠ .iri Vocabulary.binaryAssertion ∧
          ∀ triple, triple ∈ graph ↔ triple ∈
            ([⟨id, Vocabulary.type, type⟩,
              ⟨id, Vocabulary.type, .iri Vocabulary.binaryAssertion⟩,
              ⟨id, Vocabulary.assertionSubject, .iri subject⟩,
              ⟨id, Vocabulary.assertionObject, .iri object⟩,
              ⟨id, Vocabulary.annotatedBy, .iri stampId⟩,
              ⟨stampId, Vocabulary.type, .iri Vocabulary.timestampClass⟩,
              ⟨stampId, Vocabulary.hasValue, .integer time⟩] : List Triple)) ∧
      ∀ inserted : List Triple, (∀ triple, triple ∈ inserted ↔ triple ∈ graph) →
        checkShape (Graph.ofList inserted) = checkShape graph := by
  constructor
  · rw [checkShape_eq_ok_iff_perm]
    constructor
    · rintro ⟨layout, proper, perm⟩
      exact ⟨layout.id, layout.stampId, layout.subject, layout.object, layout.type, layout.time,
        proper.apart, proper.domain, (Graph.perm_iff proper.nodup_triples).mp perm⟩
    · rintro ⟨id, stampId, subject, object, type, time, apart, domain, same⟩
      have proper : Layout.Proper ⟨id, type, subject, object, stampId, time⟩ := ⟨apart, domain⟩
      exact ⟨_, proper, (Graph.perm_iff proper.nodup_triples).mpr same⟩
  · intro inserted same
    apply checkShape_congr
    rw [Graph.perm_iff graph.nodup]
    exact fun triple => Graph.mem_ofList.trans (same triple)

/-- An assertion about terms of the vocabulary, whose other type is an integer. -/
def oddLayout : Layout :=
  { id := Vocabulary.integer, type := .integer 5, subject := Vocabulary.type,
    object := Vocabulary.integer, stampId := Vocabulary.hasValue, time := -1 }

/-- Triples that are inserted from the last one to the first one, and then once more. -/
theorem checkShape_of_reversed :
    checkShape (Graph.ofList oddLayout.triples) = .ok () ∧
      checkShape (Graph.ofList (oddLayout.triples.reverse ++ oddLayout.triples)) = .ok () := by
  have apart : Vocabulary.integer ≠ Vocabulary.hasValue := by decide +kernel
  have shape := checkShape_eq_ok_iff (Graph.ofList oddLayout.triples)
  have passes : checkShape (Graph.ofList oddLayout.triples) = .ok () :=
    shape.1.mpr ⟨oddLayout.id, oddLayout.stampId, oddLayout.subject, oddLayout.object,
      oddLayout.type, oddLayout.time, apart, nofun, fun _ => Graph.mem_ofList⟩
  have again := shape.2 (oddLayout.triples.reverse ++ oddLayout.triples) fun triple => by
    rw [List.mem_append, List.mem_reverse, or_self]
    exact Graph.mem_ofList.symm
  exact ⟨passes, again.trans passes⟩

end Assertion

end ContextStream
