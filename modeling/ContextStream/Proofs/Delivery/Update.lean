import ContextStream.Proofs.Assertion.Shape
import ContextStream.Proofs.Config
import ContextStream.Proofs.Delivery.Wire
import ContextStream.Proofs.Turtle.RoundTrip
import ContextStream.Proofs.Uuid

/-!
# Updates say what was configured

An accepted configuration gives an update at any time, and whoever reads the update
finds the configured texts, the time and the two nodes in it, each in its place, and
nothing else.
-/

namespace ContextStream

namespace Config

variable {config : Config} {id stampId : Uuid}

/-- The update of a domain type has a document, from which its seven triples are read,
each of them once. -/
theorem exists_document (domain : config.assertionType ≠ Vocabulary.binaryAssertion)
    (fresh : id ≠ stampId) (time : Int64) :
    ∃ document triples,
      Assertion.document (config.assertion id stampId time).toGraph = .ok document ∧
        Turtle.read? document = some triples ∧
        triples.Perm (config.assertion id stampId time).triples ∧ triples.Nodup := by
  have apart : (config.assertion id stampId time).id ≠
      (config.assertion id stampId time).stamp.id :=
    fun same => fresh (Iri.ofUuid_inj same)
  have nodup := Assertion.nodup_triples apart domain
  have perm := Turtle.perm_blockTriples (config.assertion id stampId time).toGraph
  rw [Assertion.toGraph, Graph.triples_ofList nodup] at perm
  exact ⟨_, _, Assertion.document_toGraph apart domain, Turtle.read?_write _, perm,
    perm.nodup_iff.mpr nodup⟩

/-- What a hub reads is what was configured. -/
theorem update_of_parse {text : String} (loaded : parse text = .ok config)
    (fresh : id ≠ stampId) (time : Int64) :
    ∃ members, Json.parse text = .ok (.object members) ∧
      ∃ (type subject object : Iri) (stream : String),
        Json.member? "assertionType" members = some (.string type.text) ∧
        Json.member? "assertionSubject" members = some (.string subject.text) ∧
        Json.member? "assertionObject" members = some (.string object.text) ∧
        Json.member? "streamURI" members = some (.string stream) ∧
        ∃ document,
          Assertion.document (config.assertion id stampId time).toGraph = .ok document ∧
          Json.parse (Payload.ofDocument config.stream document time).json = .ok (.object
            [("hub.mode", .string "update_stream"),
              ("hub.payload", .object
                [("graph_serialized", .string document),
                  ("timestamp_ms", .number (.ofInt64 time))]),
              ("hub.url", .string stream)]) ∧
          Payload.parse (Payload.ofDocument config.stream document time).json =
            .ok ⟨"update_stream", stream, ⟨document, time⟩⟩ ∧
          ∃ triples, Turtle.read? document = some triples ∧
            triples.Perm
              [⟨.ofUuid id, Vocabulary.type, .iri type⟩,
                ⟨.ofUuid id, Vocabulary.type, .iri Vocabulary.binaryAssertion⟩,
                ⟨.ofUuid id, Vocabulary.assertionSubject, .iri subject⟩,
                ⟨.ofUuid id, Vocabulary.assertionObject, .iri object⟩,
                ⟨.ofUuid id, Vocabulary.annotatedBy, .iri (.ofUuid stampId)⟩,
                ⟨.ofUuid stampId, Vocabulary.type, .iri Vocabulary.timestampClass⟩,
                ⟨.ofUuid stampId, Vocabulary.hasValue, .integer time⟩] ∧
            triples.Nodup := by
  obtain ⟨members, read, gives⟩ := exists_members_of_parse loaded
  obtain ⟨document, triples, written, stated, perm, nodup⟩ :=
    exists_document gives.domainType fresh time
  refine ⟨members, read, config.assertionType, config.assertionSubject, config.assertionObject,
    config.stream.text, member?_of_iriAt gives.assertionType,
    member?_of_iriAt gives.assertionSubject, member?_of_iriAt gives.assertionObject,
    member?_of_iriAt gives.stream, document, written, ?_, ?_, triples, stated, perm, nodup⟩
  · exact Payload.parse_value_json _
  · exact Payload.parse_json _

theorem update_of_exampleText :
    parse exampleText = .ok exampleConfig ∧ (⟨1⟩ : Uuid) ≠ ⟨2⟩ ∧
      ∃ document triples,
        Assertion.document (exampleConfig.assertion ⟨1⟩ ⟨2⟩ 1712345678901).toGraph =
          .ok document ∧
        Turtle.read? document = some triples ∧ triples.length = 7 := by
  have fresh : (⟨1⟩ : Uuid) ≠ ⟨2⟩ := by decide
  obtain ⟨_, _, _, _, _, _, _, _, _, _, document, written, _, _, triples, stated, perm, _⟩ :=
    update_of_parse parse_exampleText fresh 1712345678901
  exact ⟨parse_exampleText, fresh, document, triples, written, stated, perm.length_eq⟩

end Config

end ContextStream
