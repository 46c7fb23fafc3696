import ContextStream.Http.Message
import ContextStream.Http.Uri
import ContextStream.Url.Parser

/-!
# Asking and following

A client sends a request and follows the answers that send it elsewhere. The other
side of the network is a function of all requests so far: it answers the last one of
them, or fails for a chain of causes.
-/

namespace ContextStream.Http

/-- The other side of the network. -/
abbrev Network := (requests : List Request) → Except (List String) Response

/-- What the client got, and all requests so far. -/
structure Exchange where
  result : Except Failure Response
  requests : List Request

/-- The most requests for one answer. -/
def maxRequests : Nat := 10

/-- Whether a URL can stand in a request. -/
def isSendable (url : Url) : Bool :=
  Uri.isUri url.text.toList

/-- Why the network is not asked for a URL, which only happens on the way. -/
def unasked? (url : Url) : Option (List String) :=
  if url.scheme = "http" ∨ url.scheme = "https" then none
  else if url.authority.isSome then
    some ["error trying to connect", "Unsupported scheme " ++ url.scheme]
  else some ["client requires absolute-form URIs"]

/-- Whether an answer may send the client elsewhere, and the method to go on with. -/
def redirectMethod? (status : UInt16) (method : Method) : Option Method :=
  if status = 301 ∨ status = 302 ∨ status = 303 then some .get
  else if status = 307 ∨ status = 308 then some method
  else none

/-- The URL that an answer sends the client to. -/
def destination? (url : Url) (response : Response) : Option Url :=
  response.location.bind fun location =>
    match Url.resolve url location.toList with
    | .ok next => if isSendable next then some next else none
    | .error _ => none

/-- The request that follows an answer. Going on by `GET` drops the body, and another
host gets no credentials. -/
def Request.next? (request : Request) (response : Response) : Option Request :=
  (redirectMethod? response.status request.method).bind fun method =>
    (destination? request.url response).map fun url =>
      let keepsBody := response.status = 307 ∨ response.status = 308
      let sameHost := url.host = request.url.host ∧ url.port = request.url.port
      { method
        url
        contentType := if keepsBody then request.contentType else none
        credentials := if sameHost then request.credentials else none
        body := if keepsBody then request.body else none }

/-- Sends a request and follows the answers, with at most `more` further requests. -/
def exchange (network : Network) : (more : Nat) → List Request → Request → Exchange
  | more, earlier, request =>
      match unasked? request.url with
      | some causes => ⟨.error (.notAnswered request.url causes), earlier⟩
      | none =>
          let requests := earlier ++ [request]
          match network requests with
          | .error causes => ⟨.error (.notAnswered request.url causes), requests⟩
          | .ok response =>
              match request.next? response, more with
              | none, _ => ⟨.ok response, requests⟩
              | some _, 0 => ⟨.error (.tooManyRedirects request.url), requests⟩
              | some next, more + 1 => exchange network more requests next

end ContextStream.Http
