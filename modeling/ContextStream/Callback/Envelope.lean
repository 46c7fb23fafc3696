import ContextStream.Json.Printer
import ContextStream.Json.Record

/-!
# Acknowledgements

A request is acknowledged by an envelope that gives its data back.
-/

namespace ContextStream.Callback

/-- An acknowledgement. -/
structure Envelope where
  status : String
  message : String
  data : Json.Value

namespace Envelope

/-- The acknowledgement of a request that was understood. -/
def success (message : String) (data : Json.Value) : Envelope :=
  { status := "success", message, data }

/-- The JSON text of an envelope. -/
def json (envelope : Envelope) : String :=
  String.ofList <| Json.writeMembers
    [("status", Json.quote envelope.status), ("message", Json.quote envelope.message),
      ("data", envelope.data.compact)]

/-- The fields of an envelope that were read. -/
structure Draft where
  status : Option String
  message : Option String
  data : Option Json.Value

/-- How an envelope is read. -/
def record : Json.Record Draft Envelope where
  title := "Envelope"
  fields :=
    [{ name := "status"
       isSet := (·.status.isSome)
       read := fun _ draft size tokens => do
         let (status, rest) ← Json.readString size tokens
         return ({ draft with status := some status }, rest) },
      { name := "message"
        isSet := (·.message.isSome)
        read := fun _ draft size tokens => do
          let (message, rest) ← Json.readString size tokens
          return ({ draft with message := some message }, rest) },
      { name := "data"
        isSet := (·.data.isSome)
        read := fun room draft size tokens => do
          let (data, rest) ← Json.readValue room size tokens
          return ({ draft with data := some data }, rest) }]
  blank := ⟨none, none, none⟩
  complete := fun draft =>
    match draft with
    | ⟨some status, some message, some data⟩ => .ok ⟨status, message, data⟩
    | ⟨none, _, _⟩ => .error "status"
    | ⟨_, none, _⟩ => .error "message"
    | ⟨_, _, none⟩ => .error "data"

/-- The envelope that a JSON text is. -/
def parse (text : String) : Except Json.ReadError Envelope :=
  record.parse text

end Envelope

end ContextStream.Callback
