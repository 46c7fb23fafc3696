import ContextStream.Callback.Envelope
import ContextStream.Log
import ContextStream.Text.Utf8

/-!
# Answering requests

Every request of the method `POST` is acknowledged, whatever its path and its body;
a body that is no JSON counts as a text. Bodies beyond a limit are not looked at,
and other methods are refused.
-/

namespace ContextStream.Callback

open ContextStream.Text

/-- A request. -/
structure Request where
  method : String
  /-- Path and query. -/
  target : String
  body : List UInt8

/-- An answer. -/
structure Response where
  status : UInt16
  contentType : Option String
  body : String
  deriving DecidableEq, Repr

/-- The largest body, in bytes. -/
def maxBody : Nat := 2097152

/-- The JSON value that a body is. -/
def readBody (body : List UInt8) : Option Json.Value :=
  (Utf8.decode? body).bind fun chars => (Json.parse (String.ofList chars)).toOption

/-- The acknowledgement of a body. -/
def acknowledge (body : List UInt8) : Envelope :=
  match readBody body with
  | some value => .success "Data received" value
  | none => .success "Raw data received" (.string (String.ofList (Utf8.decodeLossy body)))

/-- What is reported about a body. -/
def entry (target : String) (body : List UInt8) : Log.Entry :=
  let message :=
    match readBody body with
    | some value =>
        "Received POST " ++ target ++ " with data:\n" ++ String.ofList (value.pretty 0)
    | none =>
        "Received non-JSON POST " ++ target ++ " data:\n" ++
          String.ofList (Utf8.decodeLossy body)
  ⟨.info, "ctxgen_callback::server", message⟩

/-- Answers a request. -/
def respond (request : Request) : Response × List Log.Entry :=
  if maxBody < request.body.length then
    (⟨413, some "text/plain; charset=utf-8",
      "Failed to buffer the request body: length limit exceeded"⟩, [])
  else if request.method = "POST" then
    (⟨200, some "application/json", (acknowledge request.body).json⟩,
      [entry request.target request.body])
  else (⟨405, none, ""⟩, [])

end ContextStream.Callback
