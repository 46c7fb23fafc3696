import ContextStream.Proofs.Iri.Absolute
import ContextStream.Proofs.Turtle.RoundTrip

/-!
# References in documents

A reader of Turtle resolves relative references against a base, which may be the address
that a document was found at. No document of a graph gives it occasion to: all references,
those of the bindings among them, are texts of IRIs, and these are absolute.
-/

namespace ContextStream.Turtle

/-- What it means for a reference that no base matters to it. -/
structure StandsAlone (text : List Char) : Prop where
  scheme : ∃ scheme ∈ Iri.Grammar.scheme, (Iri.Reference.ofText text).scheme = some scheme
  resolve : ∀ base base', Iri.Reference.resolve base (Iri.Reference.ofText text) =
    Iri.Reference.resolve base' (Iri.Reference.ofText text)

theorem standsAlone_iri (iri : Iri) : StandsAlone iri.text.toList :=
  ⟨⟨_, iri.isAbsolute.scheme, iri.isAbsolute.reference⟩, iri.isAbsolute.resolve⟩

/-- Every accepted IRI is absolute, and so is every reference in the text of a graph,
whether it is checked for the shape of an assertion before it is written or not. -/
theorem absolute_references :
    (∀ iri : Iri, iri.IsAbsolute) ∧
      ∀ graph, ∃ tokens, Token.ofText? (write graph).toList = some tokens ∧
        (∀ text, .reference text ∈ tokens → StandsAlone text) ∧
        ∀ text, Assertion.document graph = .ok text → text = write graph := by
  refine ⟨Iri.isAbsolute, fun graph => ?_⟩
  obtain ⟨tokens, cut, named, -⟩ := exists_namingTokens_write graph
  refine ⟨tokens, cut, fun text member => ?_, fun text => eq_write_of_document⟩
  obtain ⟨iri, rfl⟩ := named text member
  exact standsAlone_iri iri

end ContextStream.Turtle
