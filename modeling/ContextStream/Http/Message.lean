import ContextStream.Url.Basic

/-!
# Requests and answers
-/

namespace ContextStream.Http

/-- What a request asks for. -/
inductive Method where
  | post
  | get
  deriving DecidableEq, Repr

/-- The name of a method. -/
def Method.name : Method → String
  | .post => "POST"
  | .get => "GET"

/-- A request. -/
structure Request where
  method : Method
  url : Url
  contentType : Option String
  credentials : Option String
  body : Option String
  deriving DecidableEq, Repr

/-- An answer. A body that breaks off is none. -/
structure Response where
  status : UInt16
  location : Option String
  contentType : Option String
  body : Option (List UInt8)
  deriving DecidableEq, Repr

/-- Why there is no answer. -/
inductive Failure where
  /-- The scheme of the URL is none of a network that can be asked. -/
  | schemeNotAllowed (url : Url)
  /-- The URL cannot stand in a request. -/
  | notSendable (url : Url)
  /-- The network did not answer, for a chain of causes. -/
  | notAnswered (url : Url) (causes : List String)
  /-- Answers sent the client on and on. -/
  | tooManyRedirects (url : Url)
  deriving DecidableEq, Repr

/-- The chain of causes of a failure, the outermost first. -/
def Failure.causes : Failure → List String
  | .schemeNotAllowed url =>
      ["builder error for url (" ++ url.text ++ ")", "URL scheme is not allowed"]
  | .notSendable url =>
      ["builder error for url (" ++ url.text ++ ")", "Parsed Url is not a valid Uri"]
  | .notAnswered url causes => ("error sending request for url (" ++ url.text ++ ")") :: causes
  | .tooManyRedirects url =>
      ["error following redirect for url (" ++ url.text ++ ")", "too many redirects"]

/-- A chain in which every cause is followed by those below it. -/
def unrolled : List String → List String
  | [] => []
  | cause :: causes => String.intercalate ": " (cause :: causes) :: unrolled causes

/-- The wording of a failure. -/
def Failure.message (failure : Failure) : String :=
  String.intercalate ": " (unrolled failure.causes)

end ContextStream.Http
