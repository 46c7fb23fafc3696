import ContextStream.Vocabulary

/-!
# Graphs

A graph is a set of triples that remembers the order in which they were inserted.
All its views list what they show in that order.
-/

namespace ContextStream

/-- What a triple says of its subject: a node or an integer. -/
inductive Term where
  | iri (iri : Iri)
  | integer (value : Int64)
  deriving DecidableEq

namespace Term

/-- The IRI that a term is. -/
def iri? : Term → Option Iri
  | .iri node => some node
  | .integer _ => none

/-- The integer that a term is. -/
def integer? : Term → Option Int64
  | .iri _ => none
  | .integer n => some n

end Term

/-- A statement. -/
structure Triple where
  subject : Iri
  predicate : Iri
  object : Term
  deriving DecidableEq

/-- The elements of a list without repetitions, each at its first place. -/
def distinct {α : Type} [DecidableEq α] : List α → List α
  | [] => []
  | a :: rest => a :: (distinct rest).filter (· ≠ a)

/-- A set of triples in the order of insertion. -/
structure Graph where
  triples : List Triple
  nodup : triples.Nodup

namespace Graph

/-- The graph without triples. -/
def empty : Graph := ⟨[], List.nodup_nil⟩

instance : Inhabited Graph := ⟨empty⟩

instance : Membership Triple Graph := ⟨fun graph triple => triple ∈ graph.triples⟩

instance (triple : Triple) (graph : Graph) : Decidable (triple ∈ graph) :=
  inferInstanceAs (Decidable (triple ∈ graph.triples))

/-- A list stays without repetitions when a new element is put behind it. -/
theorem nodup_concat {triples : List Triple} {triple : Triple} (nodup : triples.Nodup)
    (new : triple ∉ triples) : (triples ++ [triple]).Nodup := by
  rw [List.nodup_append]
  refine ⟨nodup, by simp, ?_⟩
  intro a aMem b bMem same
  simp only [List.mem_singleton] at bMem
  exact new (bMem ▸ same ▸ aMem)

/-- Inserts a triple, and tells whether it is new. -/
def insert (graph : Graph) (triple : Triple) : Bool × Graph :=
  if new : triple ∈ graph.triples then (false, graph)
  else (true, ⟨graph.triples ++ [triple], nodup_concat graph.nodup new⟩)

/-- The graph of a list of triples. -/
def ofList (triples : List Triple) : Graph :=
  triples.foldl (fun graph triple => (graph.insert triple).2) empty

/-- The number of triples. -/
def size (graph : Graph) : Nat :=
  graph.triples.length

/-- The subjects. -/
def subjects (graph : Graph) : List Iri :=
  distinct (graph.triples.map (·.subject))

/-- The predicates of a subject. -/
def predicates (graph : Graph) (subject : Iri) : List Iri :=
  distinct ((graph.triples.filter (·.subject = subject)).map (·.predicate))

/-- The objects of a subject under the predicate with a text. -/
def objects (graph : Graph) (subject : Iri) (predicate : String) : List Term :=
  (graph.triples.filter fun t => t.subject = subject ∧ t.predicate.text = predicate).map
    (·.object)

/-- The subjects that the type with a text is stated of. -/
def instancesOf (graph : Graph) (type : String) : List Iri :=
  (graph.triples.filter fun t =>
    t.predicate = Vocabulary.type ∧ t.object.iri?.any (·.text = type)).map (·.subject)

/-- The predicate is the IRI with the text. -/
theorem objects_text (graph : Graph) (subject predicate : Iri) :
    graph.objects subject predicate =
      (graph.triples.filter fun t => t.subject = subject ∧ t.predicate = predicate).map
        (·.object) := by
  simp only [objects, Iri.text_inj]

/-- The type is the IRI with the text. -/
theorem instancesOf_text (graph : Graph) (type : Iri) :
    graph.instancesOf type =
      (graph.triples.filter fun t => t.predicate = Vocabulary.type ∧ t.object = .iri type).map
        (·.subject) := by
  have same (object : Term) :
      object.iri?.any (·.text = type.text) = decide (object = .iri type) := by
    cases object <;> simp [Term.iri?, Iri.text_inj]
  simp only [instancesOf, same, decide_eq_true_eq]

end Graph

end ContextStream
