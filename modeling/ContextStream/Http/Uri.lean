import ContextStream.Text.Split

/-!
# Places in requests

A request names the place that it goes to in a way of its own: a scheme, an authority, a
path and a query, with other characters in each of them than a URL may have there. What has
no two slashes behind its scheme is read as an authority alone.
-/

namespace ContextStream.Http.Uri

open ContextStream.Text

/-- The most characters of a place. -/
def maxLength : Nat := 65534

/-- The most characters of a scheme. -/
def maxScheme : Nat := 64

/-! ## Characters -/

/-- The characters of schemes. -/
def isSchemeChar (c : Char) : Bool :=
  c.isAlphanum || c ∈ ['+', '-', '.']

/-- The characters of authorities that mean nothing by themselves. -/
def isAuthorityChar (c : Char) : Bool :=
  c.isAlphanum || c ∈ "!$&'()*+,-.;=_~".toList

/-- Characters that may stand in a path and in a query. -/
def isCommonChar (c : Char) : Bool :=
  c == '!' || ('$' ≤ c && c ≤ ';') || c == '='

/-- The characters of paths. -/
def isPathChar (c : Char) : Bool :=
  isCommonChar c || ('@' ≤ c && c ≤ '_') || ('a' ≤ c && c ≤ '~') || c == '"'

/-- The characters of queries. -/
def isQueryChar (c : Char) : Bool :=
  isCommonChar c || ('?' ≤ c && c ≤ '~')

/-- Where an authority ends. -/
def endsAuthority (c : Char) : Bool :=
  c ∈ ['/', '?', '#']

/-! ## Authorities -/

/-- What was seen of an authority. An at sign or a closing bracket lets colons and percent
signs be forgotten. -/
structure Scan where
  colons : Nat := 0
  opened : Bool := false
  closed : Bool := false
  percent : Bool := false
  /-- Whether the last character is an at sign. -/
  endsOpen : Bool := false

/-- The most colons before some of them are forgotten. -/
def maxColons : Nat := 8

/-- One character more. -/
def Scan.next? (scan : Scan) (c : Char) : Option Scan :=
  let scan := { scan with endsOpen := c == '@' }
  match c with
  | ':' => if scan.colons < maxColons then some { scan with colons := scan.colons + 1 } else none
  | '[' => if scan.percent || scan.opened then none else some { scan with opened := true }
  | ']' =>
      if !scan.opened || scan.closed then none
      else some { scan with closed := true, colons := 0, percent := false }
  | '@' => some { scan with colons := 0, percent := false }
  | '%' => some { scan with percent := true }
  | c => if isAuthorityChar c then some scan else none

/-- Whether a text is an authority. -/
def isAuthority (text : List Char) : Bool :=
  match text.foldlM Scan.next? {} with
  | some scan =>
      scan.opened == scan.closed && scan.colons ≤ 1 && !scan.percent && !scan.endsOpen
  | none => false

/-! ## Places -/

/-- What stands in front of a colon and two slashes, and behind them. -/
def scheme? (text : List Char) : Option (List Char × List Char) :=
  match cutAt (!isSchemeChar ·) text with
  | (scheme, ':' :: '/' :: '/' :: rest) => some (scheme, rest)
  | _ => none

/-- Whether a text names a place. The fragment behind it may be anything. -/
def isUri (text : List Char) : Bool :=
  text.length ≤ maxLength &&
    match scheme? text with
    | none => isAuthority text
    | some (scheme, rest) =>
        let (authority, rest) := cutAt endsAuthority rest
        let (path, rest) := cutAt (fun c => c == '?' || c == '#') rest
        let (query, _) := cutAt (· == '#') rest
        scheme.length ≤ maxScheme && !authority.isEmpty && isAuthority authority &&
          path.all isPathChar && query.all isQueryChar

example : ["http://h:80/a?b#c", "ftp://h", "mailto:a@b"].all (isUri ·.toList) = true := by
  decide +kernel

example : ["http://\x7bh/", "file:///x", "urn:a:b", "x:/y"].any (isUri ·.toList) = false := by
  decide +kernel

end ContextStream.Http.Uri
