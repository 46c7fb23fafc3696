import ContextStream.Http.Frame
import ContextStream.Http.Message

/-!
# Requests and answers on the wire
-/

namespace ContextStream.Http

open ContextStream.Text

/-- A request as a message, after which the connection ends. -/
def Request.frame (request : Request) : Frame where
  opening := request.method.name ++ " " ++ request.url.target ++ " HTTP/1.1"
  fields :=
    (request.contentType.map (("content-type", ·))).toList ++
      (request.credentials.map (("authorization", ·))).toList ++
      [("accept", "*/*"),
        ("host",
          (request.url.host.map Url.Host.text).getD "" ++
            ((request.url.authority.bind (·.port)).map (":" ++ toString ·)).getD ""),
        ("connection", "close")]
  body := (request.body.map fun body => Utf8.encode body.toList).getD []

/-- The status in the first line of an answer. -/
def statusOf? (opening : String) : Option UInt16 :=
  match splitBy (· == ' ') opening.toList with
  | _ :: status :: _ =>
      (String.ofList status).toNat?.bind fun n =>
        if 100 ≤ n ∧ n ≤ 999 then some (UInt16.ofNat n) else none
  | _ => none

/-- The answer that all bytes of a connection are. -/
def Response.ofBytes? (bytes : List UInt8) : Option Response :=
  (Frame.read? bytes).bind fun frame =>
    (statusOf? frame.opening).map fun status =>
      { status
        location := frame.field? "location"
        contentType := frame.field? "content-type"
        body := if status = 204 ∨ status = 304 then some [] else frame.ended? }

end ContextStream.Http
