import ContextStream.Application
import ContextStream.Proofs.Assertion.Verdict
import ContextStream.Proofs.Delivery.Update
import ContextStream.Proofs.Iri.Identifiers
import ContextStream.Proofs.Scheduler.Dealings

/-!
# The identifiers of a run

Each cycle draws two identifiers, and the document that it delivers names them. If the
draws of a run differ, then so do all the names in its documents.
-/

namespace ContextStream

/-- The document of a payload holds one assertion and its annotation, under these names. -/
def Payload.Tells (payload : Payload) (id stampId : Iri) : Prop :=
  ∃ triples, Turtle.read? payload.update.document = some triples ∧
    (∀ node, ⟨node, Vocabulary.type, .iri Vocabulary.binaryAssertion⟩ ∈ triples ↔ node = id) ∧
    ∀ node object, ⟨node, Vocabulary.annotatedBy, object⟩ ∈ triples ↔
      node = id ∧ object = .iri stampId

namespace Assertion

variable {a : Assertion}

theorem mem_triples_marker_iff (domain : a.type ≠ Vocabulary.binaryAssertion) {node : Iri} :
    ⟨node, Vocabulary.type, .iri Vocabulary.binaryAssertion⟩ ∈ a.triples ↔ node = a.id := by
  have classes := Vocabulary.timestampClass_ne_binaryAssertion
  simp [triples, Vocabulary.properties_apart, domain.symm, classes.symm]

theorem mem_triples_annotatedBy_iff {node : Iri} {object : Term} :
    ⟨node, Vocabulary.annotatedBy, object⟩ ∈ a.triples ↔
      node = a.id ∧ object = .iri a.stamp.id := by
  simp [triples, Vocabulary.properties_apart]

end Assertion

namespace Scheduler

/-- The identifiers that a world draws are remembered. -/
structure World.Draws {σ : Type} (world : World σ) (drawn : σ → List Uuid) : Prop where
  tick : ∀ moment memory, drawn (world.tick moment memory) = drawn memory
  draw : ∀ memory, drawn (world.draw memory).2.2 =
    drawn memory ++ [(world.draw memory).1, (world.draw memory).2.1]
  deliver : ∀ memory payload, drawn (world.deliver memory payload).2 = drawn memory

namespace Machine

variable {σ : Type} {world : World σ} {config : Config} {machine middle next : Machine σ}
  {drawn : σ → List Uuid}

/-- The update of a cycle tells the identifiers that were drawn in it. -/
theorem tells_payload {document : String}
    (written : Assertion.document (machine.built world config).toGraph = .ok document) :
    (machine.payload world config).Tells (.ofUuid (machine.drawn world).1)
      (.ofUuid (machine.drawn world).2) := by
  obtain ⟨apart, domain⟩ := Assertion.exists_document_iff.mp ⟨_, written⟩
  have fresh : (machine.drawn world).1 ≠ (machine.drawn world).2 :=
    fun same => apart (congrArg Iri.ofUuid same)
  obtain ⟨text, triples, is, stated, perm, -⟩ := Config.exists_document domain fresh
    (machine.time world)
  obtain rfl := Turtle.eq_write_of_document is
  refine ⟨triples, stated, fun node => ?_, fun node object => ?_⟩
  · rw [perm.mem_iff]
    exact Assertion.mem_triples_marker_iff domain
  · rw [perm.mem_iff]
    exact Assertion.mem_triples_annotatedBy_iff

/-- The names in pairs, one pair after the other. -/
def listed (names : List (Iri × Iri)) : List Iri :=
  names.flatMap fun pair => [pair.1, pair.2]

theorem listed_concat (names : List (Iri × Iri)) (pair : Iri × Iri) :
    listed (names ++ [pair]) = listed names ++ [pair.1, pair.2] := by
  simp [listed]

theorem length_listed (names : List (Iri × Iri)) : (listed names).length = 2 * names.length := by
  induction names with
  | nil => rfl
  | cons pair names ih =>
      rw [listed, List.flatMap_cons, List.length_append, List.length_cons]
      rw [listed] at ih
      simp only [List.length_cons, List.length_nil, ih]
      omega

/-- What the updates of a run tell since some identifiers were drawn. -/
structure Named (config : Config) (machine : Machine σ) (drawn : List Uuid)
    (names : List (Iri × Iri)) : Prop where
  told : List.Forall₂ (fun payload pair => payload.Tells pair.1 pair.2) machine.payloads names
  listed : (listed names).Sublist (drawn.map .ofUuid)
  /-- Only a cycle that draws one identifier twice could fail. -/
  all : config.assertionType ≠ Vocabulary.binaryAssertion → drawn.Nodup →
    machine.payloads.length = machine.cycles ∧ Machine.listed names = drawn.map .ofUuid

theorem Named.of_deals {ids : List Uuid} {names : List (Iri × Iri)} {back : List Outcome}
    (named : Named config machine ids names) (deals : Deals machine [] back 0 next) :
    Named config next ids names where
  told := by
    rw [deals.payloads, List.append_nil]
    exact named.told
  listed := named.listed
  all := by
    rw [deals.payloads, List.append_nil, deals.cycles, Nat.add_zero]
    exact named.all

/-- A run makes an advance without drawing, or it draws for a cycle. -/
theorem Advance.idles_or_proceeds (advance : Advance world config machine next) :
    (∃ back, Deals machine [] back 0 next ∧ next.memory = machine.memory) ∨
      ∃ middle, Deals machine [] [] 0 middle ∧ middle.memory = machine.memory ∧
        Proceeds world config middle next := by
  cases advance with
  | @aside moment doing agenda event ahead early is =>
      have notes := notes_aside machine moment agenda event
      have deals := notes.deals
      rcases is with ⟨-, rfl⟩ | ⟨-, -, rfl⟩ <;> exact Or.inl ⟨_, deals, rfl⟩
  | @asked moment agenda ahead early late =>
      have notes := notes_asked machine moment agenda
      exact Or.inl ⟨_, notes.deals, rfl⟩
  | @cut moment due agenda ahead early waits =>
      have notes := notes_cut machine moment agenda
      exact Or.inl ⟨_, notes.deals, rfl⟩
  | @begun moment agenda _ ahead idle proceeds =>
      have notes := notes_begun machine moment agenda
      exact Or.inr ⟨_, notes.deals, rfl, proceeds⟩
  | @finished due reply time delivers first asked =>
      have counted := deals_counted { machine with moment := due } reply time
      have deals := counted.trans (notes_finish _).deals
      exact Or.inl ⟨_, ⟨deals.payloads, deals.outcomes, deals.cycles⟩, rfl⟩
  | @paused due reply time delivers first goesOn =>
      have counted := deals_counted { machine with moment := due } reply time
      exact Or.inl ⟨_, ⟨counted.payloads, counted.outcomes, counted.cycles⟩, rfl⟩
  | @resumed due _ waits first proceeds =>
      have notes := notes_resumed machine due
      exact Or.inr ⟨_, notes.deals, rfl, proceeds⟩

/-- The identifiers that a cycle draws. -/
def fresh (world : World σ) (machine : Machine σ) : List Uuid :=
  [(machine.drawn world).1, (machine.drawn world).2]

variable {ids : List Uuid} {names : List (Iri × Iri)}

/-- A cycle whose update has a document tells the identifiers that it draws. -/
theorem Named.of_published (named : Named config machine ids names) {document : String}
    (written : Assertion.document (machine.built world config).toGraph = .ok document)
    (publishes : Publishes world config machine next) :
    Named config next (ids ++ machine.fresh world)
      (names ++ [(.ofUuid (machine.drawn world).1,
        .ofUuid (machine.drawn world).2)]) := by
  have deals := Notes.deals publishes.trace
  have payloads : next.payloads = machine.payloads ++ [machine.payload world config] :=
    deals.payloads
  have cycles : next.cycles = machine.cycles + 1 := deals.cycles
  constructor
  · rw [payloads]
    exact List.rel_append named.told (.cons (tells_payload written) .nil)
  · rw [listed_concat, List.map_append]
    exact named.listed.append (List.Sublist.refl _)
  · intro domain nodup
    obtain ⟨counted, all⟩ := named.all domain (nodup.sublist (List.sublist_append_left ids _))
    rw [payloads, cycles, List.length_append, counted, listed_concat, all, List.map_append]
    exact ⟨rfl, rfl⟩

/-- A cycle of a domain type fails only if it draws one identifier twice. -/
theorem Named.of_failed (named : Named config machine ids names) {misshape : Assertion.Misshape}
    (refused : Assertion.document (machine.built world config).toGraph = .error misshape)
    (fails : Fails world machine next) : Named config next (ids ++ machine.fresh world) names := by
  obtain ⟨_, trace⟩ := fails.trace
  have payloads : next.payloads = machine.payloads :=
    (Notes.deals trace).payloads.trans (List.append_nil _)
  constructor
  · rw [payloads]
    exact named.told
  · rw [List.map_append]
    exact named.listed.trans (List.sublist_append_left _ _)
  · intro domain nodup
    have differ : (machine.drawn world).1 ≠ (machine.drawn world).2 := by
      have two := nodup.sublist (List.sublist_append_right ids (machine.fresh world))
      simpa [fresh] using two
    have written : ∃ text, Assertion.document (machine.built world config).toGraph = .ok text :=
      Assertion.exists_document_iff.mpr ⟨fun same => differ (Iri.ofUuid_inj same), domain⟩
    obtain ⟨text, written⟩ := written
    cases written.symm.trans refused

theorem Named.of_proceeds (named : Named config machine ids names) (draws : world.Draws drawn)
    (proceeds : Proceeds world config machine next) :
    ∃ more names', drawn next.memory = drawn machine.memory ++ more ∧
      Named config next (ids ++ more) names' := by
  cases proceeds with
  | finished asked =>
      refine ⟨[], names, (List.append_nil _).symm, ?_⟩
      rw [List.append_nil]
      exact named.of_deals (notes_finish machine).deals
  | published unasked written publishes =>
      refine ⟨machine.fresh world, _, ?_, named.of_published written publishes⟩
      rw [publishes.memory, answer, draws.deliver, World.prepared, draws.draw, draws.tick]
      rfl
  | failed unasked refused fails =>
      refine ⟨machine.fresh world, names, ?_, named.of_failed refused fails⟩
      rw [fails.memory, World.prepared, draws.draw, draws.tick]
      rfl

theorem Named.of_advance (named : Named config machine ids names) (draws : world.Draws drawn)
    (advance : Advance world config machine next) :
    ∃ more names', drawn next.memory = drawn machine.memory ++ more ∧
      Named config next (ids ++ more) names' := by
  rcases advance.idles_or_proceeds with ⟨back, deals, memory⟩ | ⟨middle, deals, memory, proceeds⟩
  · refine ⟨[], names, by rw [memory, List.append_nil], ?_⟩
    rw [List.append_nil]
    exact named.of_deals deals
  · rw [← memory]
    exact (named.of_deals deals).of_proceeds draws proceeds

/-- At any time of a run its updates have told what was drawn. -/
theorem exists_named (draws : world.Draws drawn) (config : Config) (memory : σ)
    (agenda : List (Nat × Call)) (limit : Nat) :
    ∃ ids names, drawn (({ memory, agenda } : Machine σ).run world config limit).memory =
        drawn memory ++ ids ∧
      Named config (({ memory, agenda } : Machine σ).run world config limit) ids names := by
  refine run_induction
    (fun machine => ∃ ids names, drawn machine.memory = drawn memory ++ ids ∧
      Named config machine ids names) ?_ ⟨[], [], (List.append_nil _).symm, ?_⟩ limit
  · rintro machine next ⟨ids, names, remembered, named⟩ advance
    obtain ⟨more, names', drawnMore, goesOn⟩ := named.of_advance draws advance
    exact ⟨ids ++ more, names', by rw [drawnMore, remembered, List.append_assoc], goesOn⟩
  · exact ⟨.nil, List.Sublist.refl [], fun _ _ => ⟨rfl, rfl⟩⟩

/-- Every identifier names a node: the name is `urn:uuid:` and the written form, from which
all bits are read back. The documents that a run delivers each tell the two identifiers of
their cycle, and if no identifier is drawn twice in the run, then no name occurs twice in its
documents. A run of a domain type delivers a document in each of its cycles, and so they tell
twice as many names. -/
theorem names_of_run (world : World σ) (config : Config) (memory : σ)
    (agenda : List (Nat × Call)) (limit : Nat) (final : Machine σ) (drawn : σ → List Uuid)
    (draws : world.Draws drawn)
    (ran : ({ memory, agenda } : Machine σ).run world config limit = final) :
    (∀ id, Iri.Names (.ofUuid id) id) ∧
      ∃ ids, drawn final.memory = drawn memory ++ ids ∧
        (ids.Nodup → ∃ names : List (Iri × Iri),
          List.Forall₂ (fun payload pair => payload.Tells pair.1 pair.2) final.payloads names ∧
          (listed names).Nodup ∧ (listed names).length = 2 * final.payloads.length ∧
          (config.assertionType ≠ Vocabulary.binaryAssertion →
            final.payloads.length = final.cycles ∧ listed names = ids.map .ofUuid)) := by
  obtain ⟨ids, names, remembered, named⟩ := exists_named draws config memory agenda limit
  rw [ran] at remembered named
  refine ⟨Iri.names_ofUuid, ids, remembered, fun nodup => ⟨names, named.told, ?_, ?_, ?_⟩⟩
  · have apart : (ids.map Iri.ofUuid).Nodup := nodup.map fun _ _ => Iri.ofUuid_inj
    exact apart.sublist named.listed
  · rw [length_listed, named.told.length_eq]
  · exact fun domain => named.all domain nodup

/-- The generator remembers how many identifiers it drew. -/
theorem draws_world (surroundings : Application.Surroundings) (config : Config) :
    (Application.world surroundings config).Draws fun memory =>
      (List.range memory.identifiers).map fun n => .ofRandom (surroundings.randomBits n) where
  tick _ _ := rfl
  draw memory := by simp [Application.world, List.range_succ]
  deliver _ _ := rfl

/-- Surroundings whose hub takes every update and whose random bits count up. -/
def countingSurroundings : Application.Surroundings where
  file _ := .absent
  network _ := .ok ⟨200, none, none, some []⟩
  time := 0
  randomBits := BitVec.ofNat 128

/-- A run in them, which is asked to end in the pause behind the third cycle. -/
def countingRun : Machine Application.Memory :=
  ({ memory := {}, agenda := [(0, .run), (11000, .cancel)] } : Machine Application.Memory).run
    (Application.world countingSurroundings Config.exampleConfig) Config.exampleConfig 9

/-- The three documents tell six different names. -/
theorem names_of_countingRun :
    countingRun.cycles = 3 ∧ ∃ names : List (Iri × Iri),
      List.Forall₂ (fun payload pair => payload.Tells pair.1 pair.2) countingRun.payloads names ∧
      (listed names).Nodup ∧ (listed names).length = 6 := by
  have three : countingRun.cycles = 3 := by decide +kernel
  have six : countingRun.memory.identifiers = 6 := by decide +kernel
  obtain ⟨-, ids, drawn, told⟩ :=
    names_of_run (Application.world countingSurroundings Config.exampleConfig)
      Config.exampleConfig {} _ 9 countingRun _ (draws_world countingSurroundings _) rfl
  have nodup : ids.Nodup := by
    have counted : ids = (List.range countingRun.memory.identifiers).map fun n =>
        .ofRandom (countingSurroundings.randomBits n) := drawn.symm
    rw [counted, six]
    decide +kernel
  obtain ⟨names, carried, apart, twice, all⟩ := told nodup
  obtain ⟨each, -⟩ := all (by decide +kernel)
  exact ⟨three, names, carried, apart, by rw [twice, each, three]⟩

end Machine

end Scheduler

end ContextStream
