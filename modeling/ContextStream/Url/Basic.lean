import ContextStream.Url.Host
import ContextStream.Url.Path

/-!
# URLs

A URL in normal form, the form that reading gives it.
-/

namespace ContextStream

namespace Url

/-- Who serves a URL. The credentials are encoded; no port means the usual one of
the scheme. -/
structure Authority where
  username : String := ""
  password : Option String := none
  host : Option Host := none
  port : Option Nat := none
  deriving DecidableEq, Repr

namespace Authority

/-- Whether there is a user name or a password. -/
def hasCredentials (a : Authority) : Bool :=
  a.username ≠ "" || a.password.isSome

/-- The authority as it stands in a URL. -/
def text (a : Authority) : String :=
  (if a.hasCredentials then
    a.username ++ (a.password.map (":" ++ ·)).getD "" ++ "@"
  else "") ++
    (a.host.map Host.text).getD "" ++ (a.port.map fun port => ":" ++ toString port).getD ""

end Authority

end Url

/-- A URL in normal form. -/
structure Url where
  scheme : String
  authority : Option Url.Authority
  path : Url.Path
  query : Option String
  fragment : Option String
  deriving DecidableEq, Repr

namespace Url

/-! ## Schemes -/

/-- How URLs of a scheme are read. -/
inductive Kind where
  /-- Network schemes: an authority is required, and backslashes are slashes. -/
  | special
  | file
  | plain
  deriving DecidableEq, Repr

/-- The kind of a scheme in small letters. -/
def kindOf (scheme : String) : Kind :=
  if scheme ∈ ["http", "https", "ws", "wss", "ftp"] then .special
  else if scheme = "file" then .file
  else .plain

/-- The port that a scheme uses unless another one is given. -/
def defaultPort (scheme : String) : Option Nat :=
  if scheme = "http" ∨ scheme = "ws" then some 80
  else if scheme = "https" ∨ scheme = "wss" then some 443
  else if scheme = "ftp" then some 21
  else none

/-! ## Views -/

/-- The host of a URL, if it has one. -/
def host (url : Url) : Option Host :=
  url.authority.bind (·.host)

/-- The port of a URL, given or usual. -/
def port (url : Url) : Option Nat :=
  (url.authority.bind (·.port)).orElse fun _ => defaultPort url.scheme

/-- The path, and the query behind a question mark. -/
def target (url : Url) : String :=
  url.path.text ++ (url.query.map ("?" ++ ·)).getD ""

/-- What stands between the scheme and the path. A path that begins with two
slashes would look like an authority, so a dot segment is put before it. -/
def authorityText (url : Url) : String :=
  match url.authority, url.path with
  | some authority, _ => "//" ++ authority.text
  | none, .rooted ("" :: _ :: _) => "/."
  | none, _ => ""

/-- The URL as a text. -/
def text (url : Url) : String :=
  url.scheme ++ ":" ++ url.authorityText ++ url.target ++
    (url.fragment.map ("#" ++ ·)).getD ""

/-- The URL without user name and password. -/
def withoutCredentials (url : Url) : Url :=
  { url with authority := url.authority.map fun a => { a with username := "", password := none } }

end Url

end ContextStream
