import ContextStream.Error
import ContextStream.Proofs.Assertion.Shape

/-!
# What becomes of every assertion

The parts of an assertion may coincide with one another and with terms of the vocabulary.
Only three coincidences matter. The marker as its type and the class of annotations as the
type of an assertion that annotates itself let two of the seven triples fall together, and
any other assertion that annotates itself has three types.
-/

namespace ContextStream

namespace Vocabulary

/-- No property of assertions and annotations is another one, whichever is named first. -/
theorem properties_apart :
    (type ≠ assertionSubject ∧ type ≠ assertionObject ∧ type ≠ annotatedBy ∧ type ≠ hasValue) ∧
      (assertionSubject ≠ type ∧ assertionSubject ≠ assertionObject ∧
        assertionSubject ≠ annotatedBy ∧ assertionSubject ≠ hasValue) ∧
      (assertionObject ≠ type ∧ assertionObject ≠ assertionSubject ∧
        assertionObject ≠ annotatedBy ∧ assertionObject ≠ hasValue) ∧
      (annotatedBy ≠ type ∧ annotatedBy ≠ assertionSubject ∧ annotatedBy ≠ assertionObject ∧
        annotatedBy ≠ hasValue) ∧
      (hasValue ≠ type ∧ hasValue ≠ assertionSubject ∧ hasValue ≠ assertionObject ∧
        hasValue ≠ annotatedBy) := by
  have forwards := nodup_properties
  have backwards := List.nodup_reverse.mpr nodup_properties
  simp only [properties, List.reverse_cons, List.reverse_nil, List.nil_append, List.cons_append,
    List.nodup_cons, List.mem_cons, not_or] at forwards backwards
  simp [forwards, backwards]

end Vocabulary

namespace Assertion

variable {a : Assertion} {graph : Graph}

/-! ## Too few triples -/

/-- Six different triples give a graph that is refused for their number. -/
theorem document_ofList_of_six {triples : List Triple} (nodup : triples.Nodup)
    (six : triples.length = 6) :
    document (Graph.ofList triples) = .error (.tripleCount 6) := by
  have size : (Graph.ofList triples).size = 6 := by
    rw [Graph.size, Graph.triples_ofList nodup, six]
  rw [document_of_size_ne (by simp [size]), size]

/-- An assertion of the marker type states this type twice. -/
theorem document_toGraph_of_marker_eq (marker : a.type = Vocabulary.binaryAssertion) :
    document a.toGraph = .error (.tripleCount 6) := by
  have classes := Vocabulary.timestampClass_ne_binaryAssertion
  rw [toGraph_of_marker marker]
  exact document_ofList_of_six (by simp [triples, Vocabulary.properties_apart, classes.symm]) rfl

/-- An annotation that annotates itself states its own type twice. -/
theorem document_toGraph_of_stampType (own : a.id = a.stamp.id)
    (stampType : a.type = Vocabulary.timestampClass) :
    document a.toGraph = .error (.tripleCount 6) := by
  have classes := Vocabulary.timestampClass_ne_binaryAssertion
  have once : a.toGraph = Graph.ofList (a.triples.take 5 ++ a.triples.drop 6) := by
    have known : ⟨a.id, Vocabulary.type, .iri Vocabulary.timestampClass⟩ ∈ a.triples.take 5 := by
      simp [triples, stampType]
    rw [← Graph.ofList_append_cons_of_mem known]
    simp [toGraph, triples, own]
  rw [once]
  exact document_ofList_of_six
    (by simp [triples, Vocabulary.properties_apart, classes, stampType]) rfl

/-! ## Too many types -/

/-- An assertion that annotates itself states seven different triples all the same. -/
theorem nodup_triples_of_own (own : a.id = a.stamp.id)
    (domain : a.type ≠ Vocabulary.binaryAssertion)
    (stampType : a.type ≠ Vocabulary.timestampClass) : a.triples.Nodup := by
  have classes := Vocabulary.timestampClass_ne_binaryAssertion
  simp [triples, Vocabulary.properties_apart, own, domain, stampType, classes.symm]

/-- An assertion that annotates itself has the type of annotations as its third one. -/
theorem document_toGraph_of_own (own : a.id = a.stamp.id)
    (domain : a.type ≠ Vocabulary.binaryAssertion)
    (stampType : a.type ≠ Vocabulary.timestampClass) :
    document a.toGraph = .error (.typeCount 3) := by
  have classes := Vocabulary.timestampClass_ne_binaryAssertion
  have holds : a.toGraph.triples = a.triples :=
    Graph.triples_ofList (nodup_triples_of_own own domain stampType)
  have size : a.toGraph.size = 7 := by simp [Graph.size, holds, triples]
  have instances : a.toGraph.instancesOf Vocabulary.binaryAssertion = [a.id] := by
    simp [Graph.instancesOf_text, holds, triples, Vocabulary.properties_apart, domain, classes]
  have types : (a.toGraph.objects a.id Vocabulary.type).length = 3 := by
    simp [Graph.objects_text, holds, triples, Vocabulary.properties_apart, own]
  simp [document, checkShape, onlyAssertion, require, size, instances, types, bind, Except.bind,
    Except.map]

/-! ## The verdict -/

/-- What keeps the graph of an assertion from having a document. -/
def misshape? (a : Assertion) : Option Misshape :=
  if a.type = Vocabulary.binaryAssertion then some (.tripleCount 6)
  else if a.id ≠ a.stamp.id then none
  else if a.type = Vocabulary.timestampClass then some (.tripleCount 6)
  else some (.typeCount 3)

theorem misshape?_eq_none_iff :
    a.misshape? = none ↔ a.id ≠ a.stamp.id ∧ a.type ≠ Vocabulary.binaryAssertion := by
  by_cases marker : a.type = Vocabulary.binaryAssertion
  · simp [misshape?, marker]
  · by_cases own : a.id = a.stamp.id
    · by_cases stampType : a.type = Vocabulary.timestampClass <;>
        simp [misshape?, marker, own, stampType]
    · simp [misshape?, marker, own]

/-- The graph of an assertion has a document, or the one fault that the parts tell. -/
theorem document_toGraph_eq (a : Assertion) :
    document a.toGraph =
      match a.misshape? with
      | none => .ok (Turtle.write a.toGraph)
      | some misshape => .error misshape := by
  by_cases marker : a.type = Vocabulary.binaryAssertion
  · simp [misshape?, marker, document_toGraph_of_marker_eq marker]
  · by_cases own : a.id = a.stamp.id
    · by_cases stampType : a.type = Vocabulary.timestampClass
      · simp [misshape?, own, stampType, document_toGraph_of_stampType own stampType]
      · simp [misshape?, marker, own, stampType, document_toGraph_of_own own marker stampType]
    · simp [misshape?, marker, own, document_toGraph own marker]

theorem exists_document_iff :
    (∃ text, document a.toGraph = .ok text) ↔
      a.id ≠ a.stamp.id ∧ a.type ≠ Vocabulary.binaryAssertion := by
  rw [document_toGraph_eq, ← misshape?_eq_none_iff]
  cases a.misshape? <;> simp

/-- Whatever IRIs an assertion is made of, and whatever its time is, its graph has a document
exactly if the assertion does not annotate itself and its type is not the marker. Otherwise the
graph is malformed: it has six triples if two of the seven are the same, and else the assertion
has three types. -/
theorem document_toGraph_ok_iff (a : Assertion) :
    ((∃ text, document a.toGraph = .ok text) ↔
        a.id ≠ a.stamp.id ∧ a.type ≠ Vocabulary.binaryAssertion) ∧
      (document a.toGraph).mapError Error.malformedGraph =
        (if a.type = Vocabulary.binaryAssertion then .error (.malformedGraph (.tripleCount 6))
        else if a.id ≠ a.stamp.id then .ok (Turtle.write a.toGraph)
        else if a.type = Vocabulary.timestampClass then .error (.malformedGraph (.tripleCount 6))
        else .error (.malformedGraph (.typeCount 3))) := by
  refine ⟨exists_document_iff, ?_⟩
  rw [document_toGraph_eq, misshape?]
  split_ifs <;> rfl

end Assertion

end ContextStream
