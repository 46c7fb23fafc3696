import ContextStream.Delivery.Outcome
import ContextStream.Delivery.Payload
import ContextStream.Http.ContentType
import ContextStream.Http.Exchange
import ContextStream.Log
import ContextStream.Text.Charset
import ContextStream.Text.Percent
import ContextStream.Text.Utf8

/-!
# Delivering to a hub

An update is posted to the URL of a hub. User name and password in that URL become
credentials of the request.
-/

namespace ContextStream

open ContextStream.Text

/-! ## Base64

Three bytes become four digits of six bits; equals signs fill the last group. -/

namespace Text.Base64

/-- The digit of a number below sixty-four. -/
def digit (n : Nat) : Char :=
  if n < 26 then Char.ofNat (65 + n)
  else if n < 52 then Char.ofNat (71 + n)
  else if n < 62 then Char.ofNat (n - 4)
  else if n = 62 then '+'
  else '/'

/-- The text of a sequence of bytes. -/
def encode : List UInt8 → List Char
  | [] => []
  | [a] => [digit (a.toNat / 4), digit (a.toNat % 4 * 16), '=', '=']
  | [a, b] =>
      [digit (a.toNat / 4), digit (a.toNat % 4 * 16 + b.toNat / 16),
        digit (b.toNat % 16 * 4), '=']
  | a :: b :: c :: rest =>
      digit (a.toNat / 4) :: digit (a.toNat % 4 * 16 + b.toNat / 16) ::
        digit (b.toNat % 16 * 4 + c.toNat / 64) :: digit (c.toNat % 64) :: encode rest

end Text.Base64

/-! ## Requests and their answers -/

namespace Delivery

/-- The text behind escapes, if it is one. -/
def unescaped? (text : String) : Option String :=
  (Utf8.decode? (Percent.decode text.toList)).map String.ofList

/-- The credentials in a URL, and the URL without them. -/
def credentials (url : Url) : Option String × Url :=
  match url.authority with
  | none => (none, url)
  | some authority =>
      match unescaped? authority.username with
      | none => (none, url)
      | some username =>
          let password := authority.password.bind unescaped?
          if username.isEmpty ∧ password.isNone then (none, url)
          else
            let pair := username ++ ":" ++ password.getD ""
            (some ("Basic " ++ String.ofList (Base64.encode (Utf8.encode pair.toList))),
              url.withoutCredentials)

/-- The request that carries a payload to a hub. -/
def request (hub : Iri) (payload : Payload) : Http.Request :=
  let (credentials, url) := credentials hub.url
  { method := .post
    url
    contentType := some "application/json"
    credentials
    body := some payload.json }

/-- Posts a payload, after the earlier requests. -/
def post (network : Http.Network) (hub : Iri) (payload : Payload)
    (earlier : List Http.Request) : Http.Exchange :=
  let request := request hub payload
  if request.url.scheme ≠ "http" ∧ request.url.scheme ≠ "https" then
    ⟨.error (.schemeNotAllowed request.url), earlier⟩
  else if !Http.isSendable request.url then ⟨.error (.notSendable request.url), earlier⟩
  else Http.exchange network (Http.maxRequests - 1) earlier request

/-- How the body of an answer is read: as its content type says, if that names a charset that
a label stands for. -/
def charset (labels : Charset.Labels) (response : Http.Response) : Charset :=
  ((response.contentType.bind Http.ContentType.charset?).bind labels).getD (.unicode .utf8)

/-- The text of a body. A body that broke off is empty. -/
def bodyText (labels : Charset.Labels) (response : Http.Response) : String :=
  match response.body with
  | none => ""
  | some bytes => String.ofList ((charset labels response).decode bytes)

/-- What became of an exchange. -/
def outcome (labels : Charset.Labels) : Except Http.Failure Http.Response → Outcome
  | .error failure => .transportFailure failure.message
  | .ok response => .ofStatus response.status (bodyText labels response)

/-- An entry of the client. -/
def entry (level : Log.Level) (message : String) : Log.Entry :=
  ⟨level, "ctxgen_push::client", message⟩

/-- The entries about a delivery. -/
def entries (hub : Iri) (payload : Payload) (outcome : Outcome) : List Log.Entry :=
  [entry .debug ("POST " ++ hub.text ++ " for " ++ payload.stream ++ " (timestamp " ++
      toString payload.update.timestamp.toInt ++ ")"),
    match outcome with
    | .delivered status =>
        entry .info ("Update sent successfully. Status code: " ++ toString status)
    | .rejected status body =>
        entry .error ("Failed to send update. Status code: " ++ toString status ++
          ", Response: " ++ body)
    | .transportFailure cause =>
        entry .error ("Error sending update to " ++ hub.text ++ ": " ++ cause)]

/-- What a delivery gives. -/
structure Report where
  outcome : Outcome
  entries : List Log.Entry
  requests : List Http.Request

/-- Delivers a payload, after the earlier requests. The labels are those of the charsets in
which answers may come. -/
def deliver (network : Http.Network) (hub : Iri) (payload : Payload)
    (earlier : List Http.Request) (labels : Charset.Labels := Charset.unicode?) : Report :=
  let { result, requests } := post network hub payload earlier
  let outcome := outcome labels result
  { outcome, entries := entries hub payload outcome, requests }

end Delivery

end ContextStream
