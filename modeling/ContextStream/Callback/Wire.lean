import ContextStream.Callback.Responder
import ContextStream.Http.Frame

/-!
# The callback server on the wire
-/

namespace ContextStream.Callback

open ContextStream.Text

/-- The request that bytes begin, once all of it is there. Without any sign of its
length a request has no body. -/
def Request.ofBytes? (bytes : List UInt8) : Option Request :=
  (Http.Frame.read? bytes).bind fun frame =>
    match splitBy (· == ' ') frame.opening.toList with
    | method :: target :: _ =>
        let body :=
          if frame.isChunked ∨ frame.length?.isSome then frame.whole? else some []
        body.map fun body => ⟨String.ofList method, String.ofList target, body⟩
    | _ => none

/-- The words for the statuses of answers. -/
def reason (status : UInt16) : String :=
  if status = 200 then "OK"
  else if status = 405 then "Method Not Allowed"
  else if status = 413 then "Payload Too Large"
  else ""

/-- An answer as a message, after which the connection ends. -/
def Response.frame (response : Response) : Http.Frame where
  opening := "HTTP/1.1 " ++ toString response.status ++ " " ++ reason response.status
  fields :=
    (response.contentType.map (("content-type", ·))).toList ++ [("connection", "close")]
  body := Utf8.encode response.body.toList

end ContextStream.Callback
