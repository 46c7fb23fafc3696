import ContextStream.Proofs.Assertion.Layout

/-!
# The documents of assertions

The graph of an assertion of a domain type, whose two nodes are apart, holds seven
triples and has a document. An assertion of the marker type has one triple less and
has none.
-/

namespace ContextStream

namespace Assertion

variable {a : Assertion}

/-- The parts of an assertion. -/
def layout (a : Assertion) : Layout :=
  ⟨a.id, .iri a.type, a.subject, a.object, a.stamp.id, a.stamp.time⟩

theorem proper_layout (apart : a.id ≠ a.stamp.id) (domain : a.type ≠ Vocabulary.binaryAssertion) :
    a.layout.Proper :=
  ⟨apart, by simpa [layout] using domain⟩

/-- An assertion of a domain type states seven different triples. -/
theorem nodup_triples (apart : a.id ≠ a.stamp.id) (domain : a.type ≠ Vocabulary.binaryAssertion) :
    a.triples.Nodup :=
  (proper_layout apart domain).nodup_triples

/-- An assertion of a domain type has a document. -/
theorem document_toGraph (apart : a.id ≠ a.stamp.id)
    (domain : a.type ≠ Vocabulary.binaryAssertion) :
    document a.toGraph = .ok (Turtle.write a.toGraph) := by
  have proper := proper_layout apart domain
  have holds : a.toGraph.triples = a.layout.triples := Graph.triples_ofList proper.nodup_triples
  rw [document, checkShape_eq_ok_iff_perm.mpr ⟨a.layout, proper, .of_eq holds⟩]
  rfl

theorem document_of_size_ne {graph : Graph} (size : graph.size ≠ 7) :
    document graph = .error (.tripleCount graph.size) := by
  simp [document, checkShape, require, size, bind, Except.bind, Except.map]

/-- An assertion of the marker type states this type twice. -/
theorem toGraph_of_marker (marker : a.type = Vocabulary.binaryAssertion) :
    a.toGraph = Graph.ofList a.triples.tail := by
  simp only [toGraph, triples, marker, List.tail_cons]
  exact Graph.ofList_append_cons_of_mem (List.mem_singleton_self _) _

/-- So it has too few triples. -/
theorem size_toGraph_lt (marker : a.type = Vocabulary.binaryAssertion) : a.toGraph.size < 7 := by
  have le := Graph.size_ofList_le a.triples.tail
  simp only [triples, List.tail_cons, List.length_cons, List.length_nil] at le
  rw [toGraph_of_marker marker]
  exact Nat.lt_succ_of_le le

theorem document_toGraph_of_marker (marker : a.type = Vocabulary.binaryAssertion) :
    document a.toGraph = .error (.tripleCount a.toGraph.size) :=
  document_of_size_ne (Nat.ne_of_lt (size_toGraph_lt marker))

end Assertion

/-- The document of a graph that has the shape of an assertion is its text. -/
theorem Turtle.eq_write_of_document {graph : Graph} {text : String}
    (written : Assertion.document graph = .ok text) : text = write graph := by
  unfold Assertion.document at written
  cases shaped : Assertion.checkShape graph with
  | error misshape => simp [shaped, Except.map] at written
  | ok _ =>
      simp only [shaped, Except.map, Except.ok.injEq] at written
      exact written.symm

end ContextStream
