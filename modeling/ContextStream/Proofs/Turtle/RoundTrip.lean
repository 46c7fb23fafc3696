import ContextStream.Proofs.Assertion.Shape
import ContextStream.Proofs.Turtle.Grammar
import ContextStream.Proofs.Turtle.Lexing

/-!
# What a written document states

The text of a graph is cut into tokens, the tokens are a document of the grammar, and
the document states every triple of the graph once, block by block.
-/

namespace ContextStream

open ContextStream.Text

namespace Iri

/-- An IRI in a namespace is the namespace and a rest. -/
theorem toList_of_stripNamespace {space rest : String} {iri : Iri}
    (stripped : iri.stripNamespace space = some rest) :
    iri.text.toList = space.toList ++ rest.toList := by
  unfold stripNamespace at stripped
  split at stripped
  · next isPrefix =>
      obtain ⟨behind, split⟩ := List.isPrefixOf_iff_prefix.mp isPrefix
      cases stripped
      simp [← split]
  · cases stripped

end Iri

namespace Turtle

open Token Grammar

/-! ## Nodes -/

/-- The characters of IRIs may stand in a reference. -/
theorem isReferenceChar_of_legal {c : Char} (legal : Iri.isIllegal c = false) :
    isReferenceChar c = true := by
  have visible := Iri.lt_toNat_of_legal legal
  simp only [Iri.isIllegal, Bool.or_eq_false_iff, decide_eq_false_iff_not] at legal
  obtain ⟨-, notMarked⟩ := legal
  simp only [isReferenceChar, notMarked, not_false_eq_true, decide_true, Bool.and_true,
    decide_eq_true_eq]
  exact visible

theorem readsAs_iri (iri : Iri) :
    ReadsAs Anything ('<' :: iri.text.toList ++ ['>']) [.reference iri.text.toList] := by
  apply readsAs_reference
  rw [List.all_eq_true]
  exact fun c cMem => isReferenceChar_of_legal (iri.isIllegal_eq_false cMem)

/-- The rest of a name is empty, or plain. -/
def IsBareOrPlain (rest : List Char) : Prop :=
  rest = [] ∨ isPlainLocal rest = true

theorem isLocalStart_iff {c : Char} :
    isLocalStart c = true ↔ c.isAlpha = true ∨ c.isDigit = true ∨ c = '_' := by
  simp [isLocalStart, Char.isAlphanum, or_assoc]

theorem isLetter_of_isAlpha {c : Char} (letter : c.isAlpha = true) : isLetter c = true := by
  simp [isLetter, letter]

theorem isNameChar_of_isLocalStart {c : Char} (start : isLocalStart c = true) :
    isNameChar c = true := by
  rcases isLocalStart_iff.mp start with letter | digit | rfl
  · simp [isNameChar, isLetter_of_isAlpha letter]
  · simp [isNameChar, digit]
  · rfl

/-- The characters of a plain rest. -/
theorem isNameChar_of_mem {rest : List Char} (plain : isPlainLocal rest = true) {c : Char}
    (cMem : c ∈ rest) : isNameChar c = true := by
  cases rest with
  | nil => cases cMem
  | cons first rest =>
    simp only [isPlainLocal, Bool.and_eq_true, List.all_eq_true, Bool.or_eq_true,
      beq_iff_eq] at plain
    rcases List.mem_cons.mp cMem with rfl | cMem
    · exact isNameChar_of_isLocalStart plain.1
    · rcases plain.2 c cMem with start | rfl
      · exact isNameChar_of_isLocalStart start
      · rfl

theorem ne_of_isNameChar {c d : Char} (nameChar : isNameChar c = true)
    (other : isNameChar d = false) :
    c ≠ d := by
  rintro rfl
  simp [nameChar] at other

theorem continuesRest_of_all {rest : List Char} (all : ∀ c ∈ rest, isNameChar c = true) :
    continuesRest rest = true := by
  induction rest with
  | nil => rfl
  | cons c rest ih =>
    have head := all c List.mem_cons_self
    have tail := ih fun d dMem => all d (List.mem_cons_of_mem c dMem)
    have noEscape : c ≠ '%' := ne_of_isNameChar head (by decide +kernel)
    unfold continuesRest
    split
    · rfl
    · simp_all
    · simp_all

theorem isRest_of_isPlainLocal {rest : List Char} (plain : isPlainLocal rest = true) :
    isRest rest = true := by
  have continues := continuesRest_of_all fun c => isNameChar_of_mem plain
  cases rest with
  | nil => rfl
  | cons first rest =>
    simp only [isPlainLocal, Bool.and_eq_true] at plain
    rcases isLocalStart_iff.mp plain.1 with letter | digit | rfl
    · simp [isRest, continues, isLetter_of_isAlpha letter]
    · simp [isRest, continues, digit]
    · simp [isRest, continues]

theorem readsAs_name {label rest : List Char} (nonempty : label ≠ [])
    (letters : ∀ c ∈ label, c.isAlpha = true) (plain : IsBareOrPlain rest) :
    ReadsAs Boundary (label ++ ':' :: rest) [.name label rest] := by
  have labelChars : ∀ c ∈ label, isNameChar c = true := by
    intro c cMem
    simp [isNameChar, isLetter_of_isAlpha (letters c cMem)]
  have restChars : ∀ c ∈ rest, isNameChar c = true := by
    rcases plain with rfl | plain
    · simp
    · exact fun c => isNameChar_of_mem plain
  have goodRest : isRest rest = true := by
    rcases plain with rfl | plain
    · rfl
    · exact isRest_of_isPlainLocal plain
  have cut : cutAt (· == ':') (label ++ ':' :: rest) = (label, ':' :: rest) := by
    refine cutAt_append_of_head (fun c cMem => ?_) (by simp)
    simpa using ne_of_isNameChar (labelChars c cMem) (by decide +kernel)
  have runChars : ∀ c ∈ label ++ ':' :: rest, c ≠ '.' ∧ isRunChar c = true := by
    intro c cMem
    have named : isNameChar c = true ∨ c = ':' := by
      rcases List.mem_append.mp cMem with cMem | cMem
      · exact Or.inl (labelChars c cMem)
      · rcases List.mem_cons.mp cMem with rfl | cMem
        · exact Or.inr rfl
        · exact Or.inl (restChars c cMem)
    rcases named with nameChar | rfl
    · exact ⟨ne_of_isNameChar nameChar (by decide +kernel), by simp [isRunChar, nameChar]⟩
    · decide +kernel
  obtain ⟨first, behind, rfl⟩ := List.exists_cons_of_ne_nil nonempty
  have goodLabel : isLabel (first :: behind) = true := by
    simp only [isLabel, Bool.and_eq_true, List.all_eq_true, Bool.or_eq_true]
    exact ⟨isLetter_of_isAlpha (letters first List.mem_cons_self),
      fun c cMem => Or.inl (labelChars c (List.mem_cons_of_mem first cMem))⟩
  rw [List.cons_append] at runChars cut ⊢
  refine readsAs_run (letters first List.mem_cons_self) (fun c cMem => (runChars c cMem).2) ?_ ?_
  · intro stopMem
    exact (runChars '.' stopMem).1 rfl
  · have noType : first :: (behind ++ ':' :: rest) ≠ ['a'] := by simp
    simp [ofRun?, noType, cut, goodLabel, goodRest]

/-- The bindings of every document, the last one first. -/
def documentBindings : List (List Char × List Char) :=
  (Vocabulary.bindings.map fun bound => (bound.1.toList, bound.2.toList)).reverse

/-- The labels of the namespaces are words, and each of them is bound once. -/
theorem label_of_mem {label space : String} (bound : (label, space) ∈ Vocabulary.bindings) :
    label.toList ≠ [] ∧ (∀ c ∈ label.toList, c.isAlpha = true) ∧
      documentBindings.lookup label.toList = some space.toList := by
  simp only [Vocabulary.bindings, List.mem_cons, Prod.mk.injEq, List.not_mem_nil,
    or_false] at bound
  rcases bound with ⟨rfl, rfl⟩ | ⟨rfl, rfl⟩ | ⟨rfl, rfl⟩ | ⟨rfl, rfl⟩ <;>
    exact ⟨by decide, List.all_eq_true.mp (by decide), by decide +kernel⟩

/-- A node is written as a token that names it. -/
theorem exists_names (iri : Iri) :
    ∃ token, ReadsAs Boundary (node iri) [token] ∧ Names documentBindings token iri := by
  cases found : Vocabulary.bindings.findSome? (nameIn? iri) with
  | none =>
      refine ⟨_, ?_, .reference iri⟩
      simpa [node, found] using (readsAs_iri iri).restrict Boundary
  | some text =>
      obtain ⟨⟨label, space⟩, bound, named⟩ := List.exists_of_findSome?_eq_some found
      obtain ⟨nonempty, letters, lookup⟩ := label_of_mem bound
      unfold nameIn? at named
      split at named
      · next rest stripped =>
          split at named
          · next plain =>
              cases named
              refine ⟨.name label.toList rest.toList, ?_, ?_⟩
              · simpa [node, found] using readsAs_name nonempty letters (Or.inr plain)
              · exact .name lookup (Iri.toList_of_stripNamespace stripped)
          · cases named
      · cases named

/-- A predicate is written as a token that stands for it. -/
theorem exists_verb (iri : Iri) :
    ∃ token, ReadsAs Boundary (predicate iri) [token] ∧ Verb documentBindings token iri := by
  by_cases isType : iri = Vocabulary.type
  · subst isType
    refine ⟨.type, ?_, .type⟩
    rw [predicate, if_pos rfl]
    exact readsAs_run (by decide) (List.all_eq_true.mp (by decide)) (by decide) rfl
  · obtain ⟨token, reads, names⟩ := exists_names iri
    refine ⟨token, ?_, .node names⟩
    rwa [predicate, if_neg isType]

/-- An object is written as a token that stands for it. -/
theorem exists_object (term : Term) :
    ∃ token, ReadsAs Boundary (object term) [token] ∧ Object documentBindings token term := by
  cases term with
  | iri iri =>
      obtain ⟨token, reads, names⟩ := exists_names iri
      exact ⟨token, reads, .node names⟩
  | integer value => exact ⟨_, readsAs_integer value.toInt, .integer value⟩

/-! ## Lists -/

/-- The triples of a statement about a subject. -/
def Statement.triples (subject : Iri) (s : Statement) : List Triple :=
  s.objects.map fun object => ⟨subject, s.predicate, object⟩

/-- The triples of a block. -/
def Block.triples (b : Block) : List Triple :=
  b.statements.flatMap (·.triples b.subject)

/-- Every statement of a block has an object, and there is one. -/
structure Block.IsComplete (b : Block) : Prop where
  stated : b.statements ≠ []
  objects : ∀ s ∈ b.statements, s.objects ≠ []

theorem joinWith_cons_cons (separator piece next : List Char) (others : List (List Char)) :
    joinWith separator (piece :: next :: others) =
      piece ++ (separator ++ joinWith separator (next :: others)) := by
  simp [joinWith]

theorem exists_objectList (subject predicate : Iri) {objects : List Term}
    (nonempty : objects ≠ []) :
    ∃ tokens, ReadsAs Boundary (joinWith [',', ' '] (objects.map object)) tokens ∧
      ObjectList documentBindings subject predicate tokens
        (objects.map fun object => ⟨subject, predicate, object⟩) := by
  induction objects with
  | nil => exact absurd rfl nonempty
  | cons first rest ih =>
      obtain ⟨token, reads, is⟩ := exists_object first
      cases rest with
      | nil => exact ⟨[token], by simpa [joinWith] using reads, .last is⟩
      | cons next rest =>
          obtain ⟨tokens, othersRead, others⟩ := ih (List.cons_ne_nil next rest)
          refine ⟨token :: .comma :: tokens, ?_, .more is others⟩
          have separated := readsAs_comma.before ((readsAs_blanks [' '] rfl).before othersRead)
          simp only [List.map_cons, joinWith_cons_cons]
          exact reads.append separated fun _ _ => boundary_cons (Or.inr rfl)

theorem exists_statement (subject : Iri) {s : Statement} (nonempty : s.objects ≠ []) :
    ∃ verb objects, ReadsAs Boundary (statement s) (verb :: objects) ∧
      Verb documentBindings verb s.predicate ∧
      ObjectList documentBindings subject s.predicate objects (s.triples subject) := by
  obtain ⟨verb, verbReads, is⟩ := exists_verb s.predicate
  obtain ⟨objects, objectsRead, list⟩ := exists_objectList subject s.predicate nonempty
  refine ⟨verb, objects, ?_, is, list⟩
  exact verbReads.append ((readsAs_blanks [' '] rfl).before objectsRead)
    fun _ _ => boundary_cons (Or.inl rfl)

theorem readsAs_betweenStatements : ReadsAs Anything betweenStatements [.semicolon] := by
  have front := readsAs_blanks [' '] rfl
  have back := readsAs_blanks ['\n', ' ', ' ', ' ', ' '] rfl
  exact front.before (readsAs_semicolon.before back)

/-- Statements behind the first one, each with what stands between two of them in
front of it. -/
theorem exists_continuation (subject : Iri) {others : List Statement}
    (nonempty : ∀ s ∈ others, s.objects ≠ []) :
    ∃ tokens, Boundary ((others.map statement).flatMap (betweenStatements ++ ·)) ∧
      ReadsAs Boundary ((others.map statement).flatMap (betweenStatements ++ ·)) tokens ∧
      Continuation documentBindings subject tokens (others.flatMap (·.triples subject)) := by
  induction others with
  | nil => exact ⟨[], by simp [Boundary], readsAs_nil Boundary, .nothing⟩
  | cons s others ih =>
      obtain ⟨verb, objects, reads, is, list⟩ :=
        exists_statement subject (nonempty s List.mem_cons_self)
      obtain ⟨tokens, bounded, othersRead, next⟩ :=
        ih fun s sMem => nonempty s (List.mem_cons_of_mem _ sMem)
      refine ⟨_, boundary_cons (Or.inl rfl), ?_, .predicate is list next⟩
      exact (readsAs_betweenStatements.before reads).append othersRead fun _ => bounded.append

/-- A block in front of a document makes it state the triples of the block first. -/
theorem exists_block {b : Block} (complete : b.IsComplete) :
    ∃ front, ReadsAs Anything (block b) front ∧ NamesIris front ∧
      ∀ tokens triples, Document documentBindings tokens triples →
        Document documentBindings (front ++ tokens) (b.triples ++ triples) := by
  obtain ⟨subject, statements⟩ := b
  obtain ⟨s, rest, rfl⟩ := List.exists_cons_of_ne_nil complete.stated
  obtain ⟨node, nodeReads, names⟩ := exists_names subject
  obtain ⟨verb, objects, reads, is, list⟩ :=
    exists_statement subject (complete.objects s List.mem_cons_self)
  obtain ⟨more, bounded, moreRead, next⟩ := exists_continuation subject
    fun s sMem => complete.objects s (List.mem_cons_of_mem _ sMem)
  have statements := (readsAs_blanks [' '] rfl).before
    (reads.append moreRead fun _ => bounded.append)
  have stop := (readsAs_blanks [' '] rfl).before
    (readsAs_stop.before (readsAs_blanks ['\n'] rfl))
  have subjectRead := (readsAs_blanks ['\n'] rfl).before nodeReads
  refine ⟨_, (subjectRead.append statements ?_).append stop ?_, ?_, ?_⟩
  · exact fun _ _ => boundary_cons (Or.inl rfl)
  · exact fun _ _ => boundary_cons (Or.inl rfl)
  · have stated := (namesIris_of_verb is).cons
      ((namesIris_of_objectList list).append (namesIris_of_continuation next))
    exact ((namesIris_of_names names).append stated).append (namesIris_of_noReference (by nofun))
  · intro tokens triples others
    simpa [Block.triples] using Document.statement names is list next others

/-- Blocks are written as a document that states their triples. -/
theorem exists_document {blocks : List Block} (complete : ∀ b ∈ blocks, b.IsComplete) :
    ∃ tokens, ReadsAs Anything (blocks.flatMap block) tokens ∧ NamesIris tokens ∧
      Document documentBindings tokens (blocks.flatMap Block.triples) := by
  induction blocks with
  | nil => exact ⟨[], readsAs_nil Anything, namesIris_nil, .empty documentBindings⟩
  | cons b blocks ih =>
      obtain ⟨tokens, othersRead, othersName, others⟩ :=
        ih fun b bMem => complete b (List.mem_cons_of_mem _ bMem)
      obtain ⟨front, reads, name, document⟩ := exists_block (complete b List.mem_cons_self)
      exact ⟨front ++ tokens, reads.before othersRead, name.append othersName,
        document tokens _ others⟩

/-! ## Documents -/

theorem readsAs_binding {label space : String}
    (bound : (label, space) ∈ Vocabulary.bindings) :
    ReadsAs Anything (binding label space)
      [.directive, .name label.toList [], .reference space.toList, .stop] := by
  obtain ⟨nonempty, letters, -⟩ := label_of_mem bound
  have allLegal : ∀ bound ∈ Vocabulary.bindings, bound.2.toList.all isReferenceChar = true := by
    decide +kernel
  have legal : space.toList.all isReferenceChar = true := allLegal (label, space) bound
  have name := readsAs_name nonempty letters (Or.inl rfl)
  have reference := (readsAs_blanks [' '] rfl).before (readsAs_reference legal)
  have stop := (readsAs_blanks [' '] rfl).before
    (readsAs_stop.before (readsAs_blanks ['\n'] rfl))
  have named := name.append (reference.before stop) fun _ _ => boundary_cons (Or.inl rfl)
  have parts : ∀ front back : List Char,
      front ++ back ++ [':', ' ', '<'] ++ space.toList ++ ['>', ' ', '.', '\n'] =
        front ++ (back ++ ':' :: [] ++
          ([' '] ++ ('<' :: space.toList ++ ['>']) ++ ([' '] ++ (['.'] ++ ['\n'])))) := by
    simp
  have written : binding label space = "@prefix ".toList ++ label.toList ++ [':', ' ', '<'] ++
      space.toList ++ ['>', ' ', '.', '\n'] := rfl
  rw [written, parts]
  exact readsAs_directive.before named

/-- The namespaces are IRIs themselves. -/
theorem namesIris_binding {label space : String} (bound : (label, space) ∈ Vocabulary.bindings) :
    NamesIris [.directive, .name label.toList [], .reference space.toList, .stop] := by
  have allFaultless : ∀ bound ∈ Vocabulary.bindings, Iri.fault? bound.2 = none := by
    decide +kernel
  intro text member
  simp only [List.mem_cons, reduceCtorEq, List.not_mem_nil, or_false, false_or,
    reference.injEq] at member
  exact ⟨⟨space, allFaultless (label, space) bound⟩, member⟩

/-- Bindings in front of a document are bound in it. -/
theorem exists_bindings {names : List (String × String)}
    (known : ∀ bound ∈ names, bound ∈ Vocabulary.bindings)
    (earlier : List (List Char × List Char)) {tokens : List Token} {triples : List Triple}
    (others : Document
      ((names.map fun bound => (bound.1.toList, bound.2.toList)).reverse ++ earlier)
      tokens triples) :
    ∃ front, ReadsAs Anything (names.flatMap fun (label, space) => binding label space) front ∧
      NamesIris front ∧ Document earlier (front ++ tokens) triples := by
  induction names generalizing earlier with
  | nil => exact ⟨[], readsAs_nil Anything, namesIris_nil, others⟩
  | cons bound names ih =>
      have first := readsAs_binding (known bound List.mem_cons_self)
      obtain ⟨front, reads, name, document⟩ :=
        ih (fun bound boundMem => known bound (List.mem_cons_of_mem _ boundMem))
          ((bound.1.toList, bound.2.toList) :: earlier) (by simpa using others)
      have named := namesIris_binding (known bound List.mem_cons_self)
      exact ⟨_, first.before reads, named.append name, .binding document⟩

/-- Every statement of a block of a graph has an object. -/
theorem isComplete_of_mem_blocks {graph : Graph} {b : Block} (bMem : b ∈ blocks graph) :
    b.IsComplete := by
  simp only [blocks, List.mem_map] at bMem
  obtain ⟨subject, subjectMem, rfl⟩ := bMem
  constructor
  · simp only [statementsOf, ne_eq, List.map_eq_nil_iff]
    exact Graph.predicates_ne_nil.mpr subjectMem
  · intro s sMem
    simp only [statementsOf, List.mem_map] at sMem
    obtain ⟨predicate, predicateMem, rfl⟩ := sMem
    exact Graph.objects_ne_nil.mpr predicateMem

/-- The triples of the blocks of a graph, one block after the other. -/
def blockTriples (graph : Graph) : List Triple :=
  (blocks graph).flatMap Block.triples

/-- The text of a graph is cut into tokens of a document; its references are IRIs. -/
theorem exists_namingTokens_write (graph : Graph) :
    ∃ tokens, Token.ofText? (write graph).toList = some tokens ∧ NamesIris tokens ∧
      Document [] tokens (blockTriples graph) := by
  obtain ⟨tokens, blocksRead, blocksName, document⟩ :=
    exists_document fun b (bMem : b ∈ blocks graph) => isComplete_of_mem_blocks bMem
  obtain ⟨front, bindingsRead, bindingsName, whole⟩ :=
    exists_bindings (fun bound boundMem => boundMem) [] (by rwa [List.append_nil])
  refine ⟨front ++ tokens, ?_, bindingsName.append blocksName, whole⟩
  have read := (bindingsRead.before blocksRead) [] [] trivial ofText?_nil
  simpa [write] using read

theorem exists_tokens_write (graph : Graph) :
    ∃ tokens, Token.ofText? (write graph).toList = some tokens ∧
      Document [] tokens (blockTriples graph) := by
  obtain ⟨tokens, cut, -, document⟩ := exists_namingTokens_write graph
  exact ⟨tokens, cut, document⟩

/-- The blocks of a graph say what its triples say. -/
theorem mem_blockTriples {graph : Graph} {triple : Triple} :
    triple ∈ blockTriples graph ↔ triple ∈ graph := by
  simp only [blockTriples, blocks, Block.triples, statementsOf, Statement.triples,
    List.mem_flatMap, List.mem_map, exists_exists_and_eq_and, Graph.mem_subjects,
    Graph.mem_predicates, Graph.mem_objects]
  constructor
  · rintro ⟨subject, -, predicate, -, object, stated, rfl⟩
    exact stated
  · intro stated
    exact ⟨triple, stated, triple.predicate, ⟨triple, stated, rfl, rfl⟩, triple.object, stated,
      rfl⟩

/-- Lists whose elements tell which list they belong to share none. -/
theorem nodup_flatMap_of_key {α β : Type} {elements : List α} {list : α → List β} (key : β → α)
    (nodup : elements.Nodup) (each : ∀ a ∈ elements, (list a).Nodup)
    (keyed : ∀ a ∈ elements, ∀ b ∈ list a, key b = a) : (elements.flatMap list).Nodup := by
  rw [List.nodup_flatMap]
  refine ⟨each, nodup.imp_of_mem ?_⟩
  intro a a' aMem aMem' different b bMem bMem'
  exact different ((keyed a aMem b bMem).symm.trans (keyed a' aMem' b bMem'))

/-- The blocks of a graph say nothing twice. -/
theorem nodup_blockTriples (graph : Graph) : (blockTriples graph).Nodup := by
  simp only [blockTriples, blocks, Block.triples, statementsOf, Statement.triples,
    List.flatMap_map]
  refine nodup_flatMap_of_key Triple.subject graph.nodup_subjects ?_ ?_
  · intro subject _
    refine nodup_flatMap_of_key Triple.predicate (graph.nodup_predicates subject) ?_ ?_
    · intro predicate _
      refine (graph.nodup_objects subject predicate).map ?_
      rintro object other ⟨⟩
      rfl
    · intro predicate _ triple tripleMem
      obtain ⟨object, -, rfl⟩ := List.mem_map.mp tripleMem
      rfl
  · intro subject _ triple tripleMem
    obtain ⟨predicate, -, objectMem⟩ := List.mem_flatMap.mp tripleMem
    obtain ⟨object, -, rfl⟩ := List.mem_map.mp objectMem
    rfl

theorem perm_blockTriples (graph : Graph) : (blockTriples graph).Perm graph.triples :=
  (List.perm_ext_iff_of_nodup (nodup_blockTriples graph) graph.nodup).mpr
    fun _ => mem_blockTriples

/-! ## The round trip -/

/-- What is read from the text of a graph are the triples of its blocks. -/
theorem read?_write (graph : Graph) : read? (write graph) = some (blockTriples graph) := by
  obtain ⟨tokens, cut, document⟩ := exists_tokens_write graph
  simp [read?, cut, triplesOf?_of_document document]

/-- The text of a graph is a document that states the triples of the graph, each of
them once, and nothing else, and they are read from it. The same holds of the documents
of graphs that have the shape of an assertion. -/
theorem document_of_graph (graph : Graph) :
    ∃ tokens triples, Token.ofText? (write graph).toList = some tokens ∧
      (∀ stated, Grammar.Document [] tokens stated ↔ stated = triples) ∧
      read? (write graph) = some triples ∧
      triples.Nodup ∧ (∀ triple, triple ∈ triples ↔ triple ∈ graph) ∧
      ∀ text, Assertion.document graph = .ok text → read? text = some triples := by
  obtain ⟨tokens, cut, document⟩ := exists_tokens_write graph
  have unambiguous : ∀ stated, Grammar.Document [] tokens stated ↔
      stated = blockTriples graph := by
    intro stated
    constructor
    · intro other
      have same := triplesOf?_of_document other
      rw [triplesOf?_of_document document] at same
      exact (Option.some.inj same).symm
    · rintro rfl
      exact document
  refine ⟨tokens, blockTriples graph, cut, unambiguous, read?_write graph,
    nodup_blockTriples graph, fun _ => mem_blockTriples, ?_⟩
  intro text written
  rw [eq_write_of_document written]
  exact read?_write graph

end Turtle

end ContextStream
