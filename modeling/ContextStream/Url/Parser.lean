import ContextStream.Url.Basic

/-!
# Reading URLs

A URL is read leniently: missing slashes, repeated number signs and stray percent
signs are accepted, and the result is in normal form. `Url.parse` reads a text that
stands alone, `Url.resolve` one that stands in a page or an answer of another URL.
-/

namespace ContextStream.Url

open ContextStream.Text

/-! ## Scheme -/

/-- Characters of a scheme after its first letter. -/
def isSchemeChar (c : Char) : Bool :=
  c.isAlphanum || c == '+' || c == '-' || c == '.'

/-- The scheme in small letters and what follows its colon, if the text has one. -/
def splitScheme (text : List Char) : Option (String × List Char) :=
  match text with
  | first :: _ =>
      if first.isAlpha then
        match cutAt (!isSchemeChar ·) text with
        | (scheme, ':' :: rest) => some (String.ofList (scheme.map Char.toLower), rest)
        | _ => none
      else none
  | [] => none

/-! ## Authority -/

/-- Slashes; in URLs of a network scheme backslashes too. -/
def isSlash (kind : Kind) (c : Char) : Bool :=
  c == '/' || (c == '\\' && kind != .plain)

/-- Characters that end an authority. -/
def endsAuthority (kind : Kind) (c : Char) : Bool :=
  isSlash kind c || c == '?' || c == '#'

/-- The user information in front of the last at sign, and the rest. -/
def splitUser (text : List Char) : Option (List Char) × List Char :=
  match splitLast? '@' text with
  | some (userinfo, rest) => (some userinfo, rest)
  | none => (none, text)

/-- User name and password, encoded. An empty password is none. -/
def credentials (text : List Char) : String × Option String :=
  let encode := fun part => String.ofList (Percent.encode Percent.inUserinfo part)
  match cutAt (· == ':') text with
  | (username, _ :: password@(_ :: _)) => (encode username, some (encode password))
  | (username, _) => (encode username, none)

/-- Splits host and port at the first colon outside square brackets. -/
def splitHost (inside : Bool) : List Char → List Char × Option (List Char)
  | [] => ([], none)
  | c :: rest =>
      if c = ':' ∧ !inside then ([], some rest)
      else
        let (host, port) := splitHost (c = '[' || (inside && c != ']')) rest
        (c :: host, port)

/-- The port of a scheme that a text of digits gives; the usual port is none. -/
def parsePort (scheme : String) (digits : List Char) : Except ParseError (Option Nat) :=
  if digits.all (·.isDigit) then
    let port := digits.foldl (fun n c => 10 * n + (c.toNat - 48)) 0
    if 65535 < port then .error .invalidPort
    else if digits.isEmpty ∨ defaultPort scheme = some port then .ok none
    else .ok (some port)
  else .error .invalidPort

/-- Reads the host in the way of its scheme; a scheme without a way of its own
admits an empty host, which is none. -/
def parseHost (kind : Kind) (text : List Char) : Except ParseError (Option Host) :=
  match kind with
  | .plain => if text.isEmpty then .ok none else (Host.parseVerbatim text).map some
  | _ => if text.isEmpty then .error .emptyHost else (Host.parseSpecial text).map some

/-- Reads an authority. `bounded` tells whether something follows it. -/
def parseAuthority (scheme : String) (bounded : Bool) (text : List Char) :
    Except ParseError Authority := do
  let (userinfo, rest) := splitUser text
  if userinfo = some [] ∧ rest.isEmpty ∧ bounded then throw .emptyHost
  let (username, password) := credentials (userinfo.getD [])
  let (hostText, portText) := splitHost false rest
  let host ← parseHost (kindOf scheme) hostText
  if hostText.isEmpty ∧ portText.isSome then throw .emptyHost
  let port ←
    match portText with
    | some digits => parsePort scheme digits
    | none => pure none
  let authority : Authority := { username, password, host, port }
  if host.isNone ∧ authority.hasCredentials then throw .emptyHost
  return authority

/-! ## Path, query and fragment -/

/-- The segments of a path behind its first slash, after the kept segments
`walked`, the last one first. -/
def walkFrom (kind : Kind) (walked : List (List Char)) (text : List Char) :
    List (List Char) :=
  let encoded := (splitBy (isSlash kind) text).map (Percent.encode Percent.inPath)
  walkPath (if kind = .file then Segment.normalDrive else id) walked encoded

/-- The path whose text begins with a slash, which `text` does not hold. -/
def rootedPath (kind : Kind) (walked : List (List Char)) (text : List Char) : Path :=
  .rooted ((walkFrom kind walked text).map String.ofList)

/-- The path after an authority. Only a plain scheme leaves it empty. -/
def pathAfterAuthority (kind : Kind) (text : List Char) : Path :=
  match text with
  | [] => if kind = .plain then .rooted [] else rootedPath kind [] []
  | c :: rest => if isSlash kind c then rootedPath kind [] rest else rootedPath kind [] text

/-- What a text holds before its query, in its query, and in its fragment. -/
structure Parts where
  front : List Char
  query : Option (List Char)
  fragment : Option (List Char)

/-- Cuts a text at its first number sign and at the first question mark before
that. -/
def Parts.ofText (text : List Char) : Parts :=
  let (before, fragment) := cutAt (· == '#') text
  let (front, query) := cutAt (· == '?') before
  { front, query := query.tail?, fragment := fragment.tail? }

/-- The query as it stands in a URL. -/
def encodeQuery (kind : Kind) (query : List Char) : String :=
  String.ofList
    (Percent.encode (if kind = .plain then Percent.inQuery else Percent.inSpecialQuery) query)

/-- The fragment as it stands in a URL. -/
def encodeFragment (fragment : List Char) : String :=
  String.ofList (Percent.encode Percent.inFragment fragment)

/-- Completes a URL by the query and the fragment of a text. -/
def complete (scheme : String) (authority : Option Authority) (path : Path) (parts : Parts) : Url :=
  { scheme
    authority
    path
    query := parts.query.map (encodeQuery (kindOf scheme))
    fragment := parts.fragment.map encodeFragment }

/-! ## The three kinds of URLs -/

/-- Reads authority and path, which two slashes announce. -/
def parseAfterSlashes (scheme : String) (parts : Parts) (text : List Char) :
    Except ParseError Url := do
  let kind := kindOf scheme
  let (authorityText, pathText) := cutAt (endsAuthority kind) text
  let bounded := !pathText.isEmpty || parts.query.isSome || parts.fragment.isSome
  let authority ← parseAuthority scheme bounded authorityText
  return complete scheme (some authority) (pathAfterAuthority kind pathText) parts

/-- The segments of a file path: without empty ones in front. -/
def filePath (text : List Char) : Path :=
  match (walkFrom .file [] text).dropWhile List.isEmpty with
  | [] => .rooted [""]
  | segments => .rooted (segments.map String.ofList)

/-- Whether the path names a drive, which leaves no place for a host. -/
def namesDrive (text : List Char) : Bool :=
  (splitBy (isSlash .file) text).any Segment.isDriveLetter

/-- The host of a file; this machine is none. -/
def parseFileHost (text : List Char) : Except ParseError (Option Host) :=
  if text.isEmpty then .ok none
  else do
    let host ← Host.parseSpecial text
    return if host = .name "localhost" then none else some host

/-- Reads the URL of a file. A drive letter in the place of the host belongs to the
path. -/
def parseFile (parts : Parts) : Except ParseError Url := do
  let done := fun (host : Option Host) (text : List Char) =>
    complete "file" (some { host := if namesDrive text then none else host }) (filePath text) parts
  match parts.front with
  | first :: second :: rest =>
      if isSlash .file first ∧ isSlash .file second then
        let (hostText, pathText) := cutAt (isSlash .file) rest
        if Segment.isDriveLetter hostText then return done none rest
        return done (← parseFileHost hostText) pathText
      else return done none parts.front
  | text => return done none text

/-- Reads a URL whose scheme has no rules of its own. -/
def parsePlain (scheme : String) (parts : Parts) : Except ParseError Url :=
  match parts.front with
  | '/' :: '/' :: rest => parseAfterSlashes scheme parts rest
  | '/' :: rest => .ok (complete scheme none (rootedPath .plain [] rest) parts)
  | text =>
      .ok (complete scheme none
        (.bare (String.ofList (Percent.encode Percent.inControls text))) parts)

/-- Reads what follows a scheme and its colon. -/
def parseAfterScheme (scheme : String) (text : List Char) : Except ParseError Url :=
  let parts := Parts.ofText text
  match kindOf scheme with
  | .special => parseAfterSlashes scheme parts (parts.front.dropWhile (isSlash .special))
  | .file => parseFile parts
  | .plain => parsePlain scheme parts

/-- Reads a URL that stands alone. -/
def parse (text : List Char) : Except ParseError Url :=
  match splitScheme text with
  | some (scheme, rest) => parseAfterScheme scheme rest
  | none => .error .relativeWithoutBase

/-! ## References -/

/-- Reads a reference without a scheme of its own from within a page of a network
scheme. -/
def resolveRelative (base : Url) (text : List Char) : Except ParseError Url :=
  let parts := Parts.ofText text
  let finish := fun path => complete base.scheme base.authority path parts
  match parts.front with
  | [] =>
      match parts.query with
      | some _ => .ok (finish base.path)
      | none => .ok { base with fragment := parts.fragment.map encodeFragment }
  | '/' :: '/' :: rest => parseAfterSlashes base.scheme parts rest
  | first :: rest =>
      if isSlash .special first then
        if rest.head?.any (isSlash .special) then
          parseAfterSlashes base.scheme parts (rest.dropWhile (isSlash .special))
        else .ok (finish (rootedPath .special [] rest))
      else
        let kept := base.path.segments.dropLast.reverse.map String.toList
        .ok (finish (rootedPath .special kept parts.front))

/-- Removes blanks and control characters around a reference, and tabs and line
breaks within it. -/
def trimReference (text : List Char) : List Char :=
  let outer := fun (c : Char) => c.toNat ≤ 0x20
  ((text.dropWhile outer).reverse.dropWhile outer).reverse.filter fun c =>
    c != '\t' && c != '\n' && c != '\r'

/-- Reads a reference from within a page of a network scheme, which gives it what
it leaves out. -/
def resolve (base : Url) (reference : List Char) : Except ParseError Url :=
  let text := trimReference reference
  match splitScheme text with
  | some (scheme, rest) =>
      if scheme = base.scheme ∧ (rest.takeWhile (isSlash .special)).length < 2 then
        resolveRelative base rest
      else parseAfterScheme scheme rest
  | none => resolveRelative base text

end ContextStream.Url
