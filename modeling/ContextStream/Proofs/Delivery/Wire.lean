import ContextStream.Delivery.Payload
import ContextStream.Proofs.Json.Records

/-!
# Updates on the wire

The text of a payload is an object of three members, one of which is an object of two.
It is read back as the payload that it was written for, and as nothing more.
-/

namespace ContextStream

open Json Json.Lexer

namespace Update

/-- The lexemes of an update. -/
def lexemes (update : Update) : List Lexeme :=
  objectOf
    [("graph_serialized", [.string update.document]),
      ("timestamp_ms", [.number (Number.ofInt64 update.timestamp)])]

/-- An update as a value. -/
def value (update : Update) : Value :=
  .object
    [("graph_serialized", .string update.document),
      ("timestamp_ms", .number (Number.ofInt64 update.timestamp))]

theorem cuts_json (update : Update) : Cuts update.json update.lexemes :=
  cuts_writeMembers <|
    .cons (cuts_quote update.document).inFront (.cons (cuts_int64 update.timestamp) .nil)

theorem spells_lexemes (update : Update) : Spells 1 update.lexemes update.value := by
  have members : insertMembers
      [("graph_serialized", .string update.document),
        ("timestamp_ms", .number (Number.ofInt64 update.timestamp))] [] =
      [("graph_serialized", .string update.document),
        ("timestamp_ms", .number (Number.ofInt64 update.timestamp))] := by
    have below : ¬"timestamp_ms" < "graph_serialized" := by decide
    simp [insertMembers, insertMember, below]
  rw [value, ← members]
  exact spells_objectOf <|
    .cons (spells_string update.document) (.cons (spells_number (.ofInt64 update.timestamp)) .nil)

theorem reads_lexemes (update : Update) (room : Nat) :
    Reads (record.read (room + 1)) update.lexemes update := by
  have document := (reads_string update.document).map
    fun document => ({ record.blank with document := some document } : Draft)
  have timestamp := (reads_int64 update.timestamp).map
    fun timestamp => (⟨some update.document, some timestamp⟩ : Draft)
  exact Record.reads_objectOf
    (.member rfl rfl document (.member rfl rfl timestamp (.done _))) rfl

end Update

namespace Payload

/-- The lexemes of a payload. -/
def lexemes (payload : Payload) : List Lexeme :=
  objectOf
    [("hub.mode", [.string payload.mode]), ("hub.url", [.string payload.stream]),
      ("hub.payload", payload.update.lexemes)]

/-- A payload as a value. -/
def value (payload : Payload) : Value :=
  .object
    [("hub.mode", .string payload.mode), ("hub.payload", payload.update.value),
      ("hub.url", .string payload.stream)]

theorem cuts_json (payload : Payload) : Cuts payload.json.toList payload.lexemes := by
  rw [json, String.toList_ofList]
  exact cuts_writeMembers <|
    .cons (cuts_quote payload.mode).inFront <|
      .cons (cuts_quote payload.stream).inFront (.cons payload.update.cuts_json.inFront .nil)

theorem spells_lexemes (payload : Payload) : Spells 2 payload.lexemes payload.value := by
  have members : insertMembers
      [("hub.mode", .string payload.mode), ("hub.url", .string payload.stream),
        ("hub.payload", payload.update.value)] [] =
      [("hub.mode", .string payload.mode), ("hub.payload", payload.update.value),
        ("hub.url", .string payload.stream)] := by
    have urlBelow : ¬"hub.url" < "hub.mode" := by decide
    have payloadBelow : ¬"hub.payload" < "hub.mode" := by decide
    have payloadAbove : "hub.payload" < "hub.url" := by decide
    simp [insertMembers, insertMember, urlBelow, payloadBelow, payloadAbove]
  rw [value, ← members]
  exact spells_objectOf <|
    .cons ((spells_string payload.mode).mono (by decide)) <|
      .cons ((spells_string payload.stream).mono (by decide)) <|
        .cons payload.update.spells_lexemes .nil

/-- The text of a payload is an object of exactly these members. -/
theorem parse_value_json (payload : Payload) : Json.parse payload.json = .ok payload.value :=
  Json.parse_of_cuts payload.cuts_json payload.spells_lexemes (by decide)

/-- The text of a payload is read back. -/
theorem parse_json (payload : Payload) : parse payload.json = .ok payload := by
  have mode := (reads_string payload.mode).map
    fun mode => ({ record.blank with mode := some mode } : Draft)
  have stream := (reads_string payload.stream).map
    fun stream => (⟨some payload.mode, some stream, none⟩ : Draft)
  have update := (payload.update.reads_lexemes 125).map
    fun update => (⟨some payload.mode, some payload.stream, some update⟩ : Draft)
  exact Record.parse_of_cuts payload.cuts_json <| Record.reads_objectOf
    (.member rfl rfl mode (.member rfl rfl stream (.member rfl rfl update (.done _)))) rfl

end Payload

end ContextStream
