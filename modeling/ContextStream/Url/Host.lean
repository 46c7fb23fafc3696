import ContextStream.Text.Percent
import ContextStream.Text.Utf8
import ContextStream.Url.Domain
import ContextStream.Url.Ipv4
import ContextStream.Url.Ipv6

/-!
# Hosts

The host of a URL with a special scheme is a domain name or an address. Other
schemes take the text as it is, control characters and characters beyond ASCII
encoded. An address in square brackets may stand under any scheme.
-/

namespace ContextStream.Url

open ContextStream.Text

/-- A host. -/
inductive Host where
  | name (text : String)
  | ipv4 (address : Nat)
  | ipv6 (pieces : List Nat)
  deriving DecidableEq, Repr

namespace Host

/-- The host as it stands in a URL. -/
def text : Host → String
  | .name text => text
  | .ipv4 address => Ipv4.text address
  | .ipv6 pieces => String.ofList ('[' :: Ipv6.text pieces ++ [']'])

/-- Reads an address between square brackets. -/
def parseBracketed (inner : List Char) : Except ParseError Host :=
  if inner.getLast? = some ']' then (Ipv6.parse inner.dropLast).map .ipv6
  else .error .invalidIpv6

/-- Reads a domain name or an IPv4 address. -/
def parseDomain (text : List Char) : Except ParseError Host := do
  let domain ← Domain.toAscii (Utf8.decodeLossy (Percent.decode text))
  if domain.isEmpty then throw .emptyHost
  if Ipv4.endsInNumber domain then return .ipv4 (← Ipv4.parse domain)
  return .name (String.ofList domain)

/-- Reads the host of a URL with a special scheme. -/
def parseSpecial (text : List Char) : Except ParseError Host :=
  match text with
  | '[' :: inner => parseBracketed inner
  | text => parseDomain text

/-- Characters that no host may hold as they are. -/
def isForbidden (c : Char) : Bool :=
  c == '\x00' || c == '\t' || c == '\n' || c == '\r' || c == ' ' || c == '#' || c == '/' ||
    c == ':' || c == '<' || c == '>' || c == '?' || c == '@' || c == '[' || c == '\\' ||
    c == ']' || c == '^' || c == '|'

/-- Reads the host of a URL with any other scheme. -/
def parseVerbatim (text : List Char) : Except ParseError Host :=
  match text with
  | '[' :: inner => parseBracketed inner
  | text =>
      if text.any isForbidden then .error .invalidDomainCharacter
      else .ok (.name (String.ofList (Percent.encode Percent.inControls text)))

end Host

end ContextStream.Url
