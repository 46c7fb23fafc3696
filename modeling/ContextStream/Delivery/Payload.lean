import ContextStream.Iri
import ContextStream.Json.Printer
import ContextStream.Json.Record

/-!
# Updates on the wire

An update names its stream and carries a document and its time. It travels as a JSON
object.
-/

namespace ContextStream

/-- A document and its time, in milliseconds since the beginning of 1970. -/
structure Update where
  document : String
  timestamp : Int64
  deriving DecidableEq, Repr

/-- An update for a stream. -/
structure Payload where
  mode : String
  stream : String
  update : Update
  deriving DecidableEq, Repr

namespace Update

/-- The JSON text of an update. -/
def json (update : Update) : List Char :=
  Json.writeMembers
    [("graph_serialized", Json.quote update.document),
      ("timestamp_ms", (toString update.timestamp.toInt).toList)]

/-- The fields of an update that were read. -/
structure Draft where
  document : Option String
  timestamp : Option Int64

/-- How an update is read. -/
def record : Json.Record Draft Update where
  title := "PayloadBody"
  fields :=
    [{ name := "graph_serialized"
       isSet := (·.document.isSome)
       read := fun _ draft size tokens => do
         let (document, rest) ← Json.readString size tokens
         return ({ draft with document := some document }, rest) },
      { name := "timestamp_ms"
        isSet := (·.timestamp.isSome)
        read := fun _ draft size tokens => do
          let (timestamp, rest) ← Json.readInt64 size tokens
          return ({ draft with timestamp := some timestamp }, rest) }]
  blank := ⟨none, none⟩
  complete := fun draft =>
    match draft with
    | ⟨some document, some timestamp⟩ => .ok ⟨document, timestamp⟩
    | ⟨none, _⟩ => .error "graph_serialized"
    | ⟨_, none⟩ => .error "timestamp_ms"

/-- The update that a JSON value is. -/
def ofValue? (value : Json.Value) : Option Update :=
  match value.fields? ["graph_serialized", "timestamp_ms"] with
  | some [.string document, .number (.integer timestamp)] =>
      timestamp.toInt64?.map fun timestamp => ⟨document, timestamp⟩
  | _ => none

end Update

namespace Payload

/-- The mode of all updates. -/
def updateMode : String := "update_stream"

/-- The update of a stream by a document. -/
def ofDocument (stream : Iri) (document : String) (timestamp : Int64) : Payload :=
  { mode := updateMode, stream := stream.text, update := { document, timestamp } }

/-- The JSON text of a payload. -/
def json (payload : Payload) : String :=
  String.ofList <| Json.writeMembers
    [("hub.mode", Json.quote payload.mode), ("hub.url", Json.quote payload.stream),
      ("hub.payload", payload.update.json)]

/-- The fields of a payload that were read. -/
structure Draft where
  mode : Option String
  stream : Option String
  update : Option Update

/-- How a payload is read. -/
def record : Json.Record Draft Payload where
  title := "DeliveryPayload"
  fields :=
    [{ name := "hub.mode"
       isSet := (·.mode.isSome)
       read := fun _ draft size tokens => do
         let (mode, rest) ← Json.readString size tokens
         return ({ draft with mode := some mode }, rest) },
      { name := "hub.url"
        isSet := (·.stream.isSome)
        read := fun _ draft size tokens => do
          let (stream, rest) ← Json.readString size tokens
          return ({ draft with stream := some stream }, rest) },
      { name := "hub.payload"
        isSet := (·.update.isSome)
        read := fun room draft size tokens => do
          let (update, rest) ← Update.record.read room size tokens
          return ({ draft with update := some update }, rest) }]
  blank := ⟨none, none, none⟩
  complete := fun draft =>
    match draft with
    | ⟨some mode, some stream, some update⟩ => .ok ⟨mode, stream, update⟩
    | ⟨none, _, _⟩ => .error "hub.mode"
    | ⟨_, none, _⟩ => .error "hub.url"
    | ⟨_, _, none⟩ => .error "hub.payload"

/-- The payload that a JSON text is. -/
def parse (text : String) : Except Json.ReadError Payload :=
  record.parse text

/-- The payload that a JSON value is. -/
def ofValue? (value : Json.Value) : Option Payload :=
  match value.fields? ["hub.mode", "hub.url", "hub.payload"] with
  | some [.string mode, .string stream, update] =>
      (Update.ofValue? update).map fun update => ⟨mode, stream, update⟩
  | _ => none

end Payload

end ContextStream
