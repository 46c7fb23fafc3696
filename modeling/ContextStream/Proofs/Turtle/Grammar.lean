import ContextStream.Turtle.Reader

/-!
# The grammar of documents

A document is a sequence of bindings and statements about subjects. The grammar says
which sequences of tokens are documents and what they state; it knows nothing of the
way in which a reader goes through them. The reader accepts every document and states
its triples in their order.
-/

namespace ContextStream.Turtle

namespace Grammar

/-- The node that a token names. A reference is taken as it is. -/
inductive Names (bindings : List (List Char × List Char)) : Token → Iri → Prop
  | reference (iri : Iri) : Names bindings (.reference iri.text.toList) iri
  | name {label space rest : List Char} {iri : Iri} (bound : bindings.lookup label = some space)
      (spelled : iri.text.toList = space ++ rest) : Names bindings (.name label rest) iri

/-- The predicate that a token stands for. -/
inductive Verb (bindings : List (List Char × List Char)) : Token → Iri → Prop
  | type : Verb bindings .type Vocabulary.type
  | node {token : Token} {iri : Iri} (names : Names bindings token iri) : Verb bindings token iri

/-- The object that a token stands for. -/
inductive Object (bindings : List (List Char × List Char)) : Token → Term → Prop
  | node {token : Token} {iri : Iri} (names : Names bindings token iri) :
      Object bindings token (.iri iri)
  | integer (value : Int64) : Object bindings (.integer value.toInt) (.integer value)

/-- Objects of one subject and one predicate, with commas between them. -/
inductive ObjectList (bindings : List (List Char × List Char)) (subject predicate : Iri) :
    List Token → List Triple → Prop
  | last {token : Token} {object : Term} (is : Object bindings token object) :
      ObjectList bindings subject predicate [token] [⟨subject, predicate, object⟩]
  | more {token : Token} {object : Term} {tokens : List Token} {triples : List Triple}
      (is : Object bindings token object)
      (others : ObjectList bindings subject predicate tokens triples) :
      ObjectList bindings subject predicate (token :: .comma :: tokens)
        (⟨subject, predicate, object⟩ :: triples)

/-- What may follow the first predicate of a subject and its objects: semicolons, each
with or without another predicate and its objects. -/
inductive Continuation (bindings : List (List Char × List Char)) (subject : Iri) :
    List Token → List Triple → Prop
  | nothing : Continuation bindings subject [] []
  | semicolon {tokens : List Token} {triples : List Triple}
      (others : Continuation bindings subject tokens triples) :
      Continuation bindings subject (.semicolon :: tokens) triples
  | predicate {verb : Token} {predicate : Iri} {objects tokens : List Token}
      {stated triples : List Triple} (is : Verb bindings verb predicate)
      (first : ObjectList bindings subject predicate objects stated)
      (others : Continuation bindings subject tokens triples) :
      Continuation bindings subject (.semicolon :: verb :: (objects ++ tokens))
        (stated ++ triples)

/-- Documents under the bindings in front of them. -/
inductive Document : List (List Char × List Char) → List Token → List Triple → Prop
  | empty (bindings : List (List Char × List Char)) : Document bindings [] []
  | binding {bindings : List (List Char × List Char)} {label space : List Char}
      {tokens : List Token} {triples : List Triple}
      (others : Document ((label, space) :: bindings) tokens triples) :
      Document bindings
        (.directive :: .name label [] :: .reference space :: .stop :: tokens) triples
  | statement {bindings : List (List Char × List Char)} {node verb : Token}
      {subject predicate : Iri} {objects more tokens : List Token}
      {stated continued triples : List Triple} (names : Names bindings node subject)
      (is : Verb bindings verb predicate)
      (first : ObjectList bindings subject predicate objects stated)
      (next : Continuation bindings subject more continued)
      (others : Document bindings tokens triples) :
      Document bindings (node :: verb :: (objects ++ more ++ .stop :: tokens))
        (stated ++ continued ++ triples)

/-! ## References -/

/-- Every reference among the tokens is the text of an IRI. -/
def NamesIris (tokens : List Token) : Prop :=
  ∀ text, .reference text ∈ tokens → ∃ iri : Iri, text = iri.text.toList

section References

variable {bindings : List (List Char × List Char)} {subject predicate : Iri}

theorem namesIris_nil : NamesIris [] :=
  nofun

theorem NamesIris.append {front back : List Token} (first : NamesIris front)
    (second : NamesIris back) : NamesIris (front ++ back) := by
  intro text member
  rcases List.mem_append.mp member with inFront | inBack
  · exact first text inFront
  · exact second text inBack

theorem NamesIris.cons {token : Token} {tokens : List Token} (first : NamesIris [token])
    (others : NamesIris tokens) : NamesIris (token :: tokens) :=
  first.append others

theorem namesIris_of_noReference {token : Token} (other : ∀ text, token ≠ .reference text) :
    NamesIris [token] :=
  fun text member => absurd (List.mem_singleton.mp member).symm (other text)

theorem namesIris_of_names {token : Token} {iri : Iri} (names : Names bindings token iri) :
    NamesIris [token] := by
  cases names with
  | reference =>
      intro text member
      cases List.mem_singleton.mp member
      exact ⟨iri, rfl⟩
  | name => exact namesIris_of_noReference (by nofun)

theorem namesIris_of_verb {token : Token} (is : Verb bindings token predicate) :
    NamesIris [token] := by
  cases is with
  | type => exact namesIris_of_noReference (by nofun)
  | node names => exact namesIris_of_names names

theorem namesIris_of_object {token : Token} {object : Term}
    (is : Object bindings token object) : NamesIris [token] := by
  cases is with
  | node names => exact namesIris_of_names names
  | integer => exact namesIris_of_noReference (by nofun)

theorem namesIris_of_objectList {tokens : List Token} {triples : List Triple}
    (objects : ObjectList bindings subject predicate tokens triples) : NamesIris tokens := by
  induction objects with
  | last is => exact namesIris_of_object is
  | more is others ih =>
      exact (namesIris_of_object is).cons ((namesIris_of_noReference (by nofun)).cons ih)

theorem namesIris_of_continuation {tokens : List Token} {triples : List Triple}
    (next : Continuation bindings subject tokens triples) : NamesIris tokens := by
  induction next with
  | nothing => exact namesIris_nil
  | semicolon others ih => exact (namesIris_of_noReference (by nofun)).cons ih
  | predicate is first others ih =>
      exact (namesIris_of_noReference (by nofun)).cons
        ((namesIris_of_verb is).cons ((namesIris_of_objectList first).append ih))

end References

end Grammar

namespace Reader

open Grammar

variable {bindings : List (List Char × List Char)} {subject predicate : Iri}

/-! ## Tokens -/

@[simp]
theorem nodeOf?_text (iri : Iri) : nodeOf? iri.text.toList = some iri := by
  have parsed : Iri.parse iri.text = .ok iri := by
    unfold Iri.parse
    split
    · rfl
    · next fault found => simp [iri.faultless] at found
  simp [nodeOf?, parsed, Except.toOption]

/-- The reader finds the node that a token names. -/
theorem node?_of_names (reader : Reader) {token : Token} {iri : Iri}
    (names : Names reader.bindings token iri) : reader.node? token = some iri := by
  cases names with
  | reference => exact nodeOf?_text iri
  | name bound spelled => simp [node?, bound, ← spelled]

theorem predicate?_of_verb (reader : Reader) {token : Token}
    (is : Verb reader.bindings token predicate) : reader.predicate? token = some predicate := by
  cases is with
  | type => rfl
  | node names =>
      have found := reader.node?_of_names names
      cases names <;> simp [predicate?, found]

theorem object?_of_object (reader : Reader) {token : Token} {object : Term}
    (is : Object reader.bindings token object) : reader.object? token = some object := by
  cases is with
  | node names =>
      have found := reader.node?_of_names names
      cases names <;> simp [object?, found]
  | integer value => simp [object?]

/-! ## Steps -/

theorem step_sentence (earlier : List Triple) {token : Token}
    (names : Names bindings token subject) :
    step ⟨.sentence, bindings, earlier⟩ token =
      some ⟨.predicate subject, bindings, earlier⟩ := by
  have found := node?_of_names ⟨.sentence, bindings, earlier⟩ names
  cases names <;> simp [step, found, goTo]

theorem step_predicate (earlier : List Triple) {token : Token}
    (is : Verb bindings token predicate) :
    step ⟨.predicate subject, bindings, earlier⟩ token =
      some ⟨.object subject predicate, bindings, earlier⟩ := by
  have found := predicate?_of_verb ⟨.predicate subject, bindings, earlier⟩ is
  simp [step, found, goTo]

theorem step_object (earlier : List Triple) {token : Token} {object : Term}
    (is : Object bindings token object) :
    step ⟨.object subject predicate, bindings, earlier⟩ token =
      some ⟨.afterObject subject predicate, bindings, ⟨subject, predicate, object⟩ :: earlier⟩ := by
  have found := object?_of_object ⟨.object subject predicate, bindings, earlier⟩ is
  simp [step, found, state]

theorem step_afterSemicolon (earlier : List Triple) {token : Token}
    (is : Verb bindings token predicate) :
    step ⟨.afterSemicolon subject, bindings, earlier⟩ token =
      some ⟨.object subject predicate, bindings, earlier⟩ := by
  have found := predicate?_of_verb ⟨.afterSemicolon subject, bindings, earlier⟩ is
  cases is with
  | type => simp [step, found, goTo]
  | node names => cases names <;> simp [step, found, goTo]

/-- The places at which a statement about a subject may end. -/
inductive MayEnd (subject : Iri) : Place → Prop
  | afterObject (predicate : Iri) : MayEnd subject (.afterObject subject predicate)
  | afterSemicolon : MayEnd subject (.afterSemicolon subject)

theorem step_semicolon {place : Place} (ends : MayEnd subject place) (earlier : List Triple) :
    step ⟨place, bindings, earlier⟩ .semicolon =
      some ⟨.afterSemicolon subject, bindings, earlier⟩ := by
  cases ends <;> rfl

theorem step_stop {place : Place} (ends : MayEnd subject place) (earlier : List Triple) :
    step ⟨place, bindings, earlier⟩ .stop = some ⟨.sentence, bindings, earlier⟩ := by
  cases ends <;> rfl

/-! ## Runs -/

/-- Reading objects states one triple for each. -/
theorem foldlM_objectList {tokens : List Token} {triples : List Triple}
    (objects : ObjectList bindings subject predicate tokens triples) (earlier : List Triple) :
    tokens.foldlM step ⟨.object subject predicate, bindings, earlier⟩ =
      some ⟨.afterObject subject predicate, bindings, triples.reverse ++ earlier⟩ := by
  induction objects generalizing earlier with
  | last is => simp [step_object earlier is]
  | @more token object tokens triples is others ih =>
      have comma : step ⟨.afterObject subject predicate, bindings,
            ⟨subject, predicate, object⟩ :: earlier⟩ .comma =
          some ⟨.object subject predicate, bindings,
            ⟨subject, predicate, object⟩ :: earlier⟩ := rfl
      simp [step_object earlier is, comma, ih]

theorem foldlM_continuation {tokens : List Token} {triples : List Triple}
    (next : Continuation bindings subject tokens triples) {place : Place}
    (ends : MayEnd subject place) (earlier : List Triple) :
    ∃ after, MayEnd subject after ∧
      tokens.foldlM step ⟨place, bindings, earlier⟩ =
        some ⟨after, bindings, triples.reverse ++ earlier⟩ := by
  induction next generalizing place earlier with
  | nothing => exact ⟨place, ends, rfl⟩
  | semicolon others ih =>
      obtain ⟨after, endsAfter, read⟩ := ih .afterSemicolon earlier
      exact ⟨after, endsAfter, by simp [step_semicolon ends, read]⟩
  | @predicate verb predicate objects tokens stated triples is first others ih =>
      obtain ⟨after, endsAfter, read⟩ :=
        ih (.afterObject predicate) (stated.reverse ++ earlier)
      refine ⟨after, endsAfter, ?_⟩
      simp [step_semicolon ends, step_afterSemicolon earlier is, foldlM_objectList first, read]

/-- The reader accepts every document and states its triples in their order. -/
theorem foldlM_document {tokens : List Token} {triples : List Triple}
    (document : Document bindings tokens triples) (earlier : List Triple) :
    ∃ after, tokens.foldlM step ⟨.sentence, bindings, earlier⟩ =
      some ⟨.sentence, after, triples.reverse ++ earlier⟩ := by
  induction document generalizing earlier with
  | empty bindings => exact ⟨bindings, rfl⟩
  | binding others ih => exact ih earlier
  | @statement bindings node verb subject predicate objects more tokens stated continued triples
      names is first next others ih =>
      obtain ⟨place, ends, nextRead⟩ :=
        foldlM_continuation next (.afterObject predicate) (stated.reverse ++ earlier)
      obtain ⟨after, othersRead⟩ := ih (continued.reverse ++ (stated.reverse ++ earlier))
      refine ⟨after, ?_⟩
      simp [step_sentence earlier names, step_predicate earlier is, foldlM_objectList first,
        nextRead, step_stop ends, othersRead]

end Reader

/-- What the tokens of a document state is read from them. -/
theorem triplesOf?_of_document {tokens : List Token} {triples : List Triple}
    (document : Grammar.Document [] tokens triples) : triplesOf? tokens = some triples := by
  obtain ⟨bindings, read⟩ := Reader.foldlM_document document []
  simp [triplesOf?, Reader.start, read]

end ContextStream.Turtle
