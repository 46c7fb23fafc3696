import ContextStream.Iri

/-!
# The vocabulary of context assertions

The namespaces that are bound in every document, and the terms that assertions are
made of.
-/

namespace ContextStream.Vocabulary

/-- The namespace of types and properties. -/
def rdfSpace : String := "http://www.w3.org/1999/02/22-rdf-syntax-ns#"

/-- The namespace of datatypes. -/
def xsdSpace : String := "http://www.w3.org/2001/XMLSchema#"

/-- The namespace of example terms. -/
def exampleSpace : String := "http://example.org/"

/-- The namespace of context assertions. -/
def coreSpace : String := "http://pervasive.semanticweb.org/ont/2017/07/consert/core#"

/-- The namespace of annotations. -/
def annotationSpace : String :=
  "http://pervasive.semanticweb.org/ont/2017/07/consert/annotation#"

/-- The names that documents give to namespaces. -/
def bindings : List (String × String) :=
  [("ann", annotationSpace), ("consert", coreSpace), ("ex", exampleSpace), ("rdf", rdfSpace)]

/-- The property that tells the type of a node. -/
def type : Iri :=
  ⟨"http://www.w3.org/1999/02/22-rdf-syntax-ns#type", by decide +kernel⟩

/-- The datatype of integers. -/
def integer : Iri :=
  ⟨"http://www.w3.org/2001/XMLSchema#integer", by decide +kernel⟩

/-- The marker type of all assertions that relate two entities. -/
def binaryAssertion : Iri :=
  ⟨"http://pervasive.semanticweb.org/ont/2017/07/consert/core#BinaryContextAssertion",
    by decide +kernel⟩

/-- The property from an assertion to its first entity. -/
def assertionSubject : Iri :=
  ⟨"http://pervasive.semanticweb.org/ont/2017/07/consert/core#assertionSubject",
    by decide +kernel⟩

/-- The property from an assertion to its second entity. -/
def assertionObject : Iri :=
  ⟨"http://pervasive.semanticweb.org/ont/2017/07/consert/core#assertionObject",
    by decide +kernel⟩

/-- The property from an assertion to its annotation. -/
def annotatedBy : Iri :=
  ⟨"http://pervasive.semanticweb.org/ont/2017/07/consert/annotation#hasAnnotation",
    by decide +kernel⟩

/-- The type of annotations that hold a time. -/
def timestampClass : Iri :=
  ⟨"http://pervasive.semanticweb.org/ont/2017/07/consert/annotation#NumericTimestampAnnotation",
    by decide +kernel⟩

/-- The property from an annotation to its value. -/
def hasValue : Iri :=
  ⟨"http://pervasive.semanticweb.org/ont/2017/07/consert/annotation#hasValue",
    by decide +kernel⟩

end ContextStream.Vocabulary
