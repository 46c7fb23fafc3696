import Mathlib.Computability.Language

/-!
# The grammar of IRIs

The rules of RFC 3987 with those of RFC 3986 that they use, each as a language. Under the
names of the RFC an IRI with an optional fragment is `IRI`; its rules for references
without a scheme are left out.
-/

namespace ContextStream.Iri.Grammar

open scoped Computability

/-! ## Characters -/

/-- Hexadecimal digits, `HEXDIG`. -/
def isHexDigit (c : Char) : Bool :=
  c.isDigit || ('a' ≤ c && c ≤ 'f') || ('A' ≤ c && c ≤ 'F')

/-- Characters without a purpose of their own, `unreserved`. -/
def isUnreserved (c : Char) : Bool :=
  c.isAlphanum || c == '-' || c == '.' || c == '_' || c == '~'

/-- Characters that may divide a part of an IRI, `sub-delims`. -/
def isSubDelimiter (c : Char) : Bool :=
  c ∈ ['!', '$', '&', '\'', '(', ')', '*', '+', ',', ';', '=']

/-- The ranges of characters beyond ASCII that may stand in any part, `ucschar`. -/
def universalRanges : List (Nat × Nat) :=
  [(0xa0, 0xd7ff), (0xf900, 0xfdcf), (0xfdf0, 0xffef), (0x10000, 0x1fffd), (0x20000, 0x2fffd),
    (0x30000, 0x3fffd), (0x40000, 0x4fffd), (0x50000, 0x5fffd), (0x60000, 0x6fffd),
    (0x70000, 0x7fffd), (0x80000, 0x8fffd), (0x90000, 0x9fffd), (0xa0000, 0xafffd),
    (0xb0000, 0xbfffd), (0xc0000, 0xcfffd), (0xd0000, 0xdfffd), (0xe1000, 0xefffd)]

/-- The ranges of characters that may stand in a query only, `iprivate`. -/
def privateRanges : List (Nat × Nat) :=
  [(0xe000, 0xf8ff), (0xf0000, 0xffffd), (0x100000, 0x10fffd)]

/-- Whether some range holds the character. -/
def isInRanges (ranges : List (Nat × Nat)) (c : Char) : Bool :=
  ranges.any fun range => range.1 ≤ c.toNat && c.toNat ≤ range.2

@[inherit_doc universalRanges]
def isUniversal (c : Char) : Bool :=
  isInRanges universalRanges c

@[inherit_doc privateRanges]
def isPrivate (c : Char) : Bool :=
  isInRanges privateRanges c

/-- Characters of a registered name: `iunreserved` and `sub-delims`. -/
def isNameChar (c : Char) : Bool :=
  isUnreserved c || isUniversal c || isSubDelimiter c

/-- Characters of user information, without escapes. -/
def isUserChar (c : Char) : Bool :=
  isNameChar c || c == ':'

/-- Characters of a path segment, `ipchar` without escapes. -/
def isPathChar (c : Char) : Bool :=
  isNameChar c || c == ':' || c == '@'

/-- Characters of a fragment, without escapes. -/
def isFragmentChar (c : Char) : Bool :=
  isPathChar c || c == '/' || c == '?'

/-- Characters of a query, without escapes. -/
def isQueryChar (c : Char) : Bool :=
  isFragmentChar c || isPrivate c

/-- Characters of a scheme behind the first one. -/
def isSchemeChar (c : Char) : Bool :=
  c.isAlphanum || c == '+' || c == '-' || c == '.'

/-! ## Building rules -/

/-- One character of a class. -/
def one (admits : Char → Bool) : Language Char :=
  {word | ∃ c, admits c = true ∧ word = [c]}

/-- One certain character. -/
def sign (c : Char) : Language Char :=
  {[c]}

/-- A rule that may be left out. -/
def optional (rule : Language Char) : Language Char :=
  1 + rule

/-- A rule that is repeated up to so many times. -/
def atMost (count : Nat) (rule : Language Char) : Language Char :=
  optional rule ^ count

/-- The code of a byte, `pct-encoded`. -/
def escape : Language Char :=
  sign '%' * one isHexDigit * one isHexDigit

/-- Any number of characters of a class and escapes. -/
def text (admits : Char → Bool) : Language Char :=
  (one admits + escape)∗

/-! ## Hosts -/

/-- `dec-octet`, a number below 256. -/
def octet : Language Char :=
  one Char.isDigit +
    one (fun c => '1' ≤ c && c ≤ '9') * one Char.isDigit +
    sign '1' * one Char.isDigit * one Char.isDigit +
    sign '2' * one (fun c => '0' ≤ c && c ≤ '4') * one Char.isDigit +
    sign '2' * sign '5' * one (fun c => '0' ≤ c && c ≤ '5')

/-- `IPv4address`. -/
def ipv4Address : Language Char :=
  octet * sign '.' * octet * sign '.' * octet * sign '.' * octet

/-- `h16`, sixteen bits. -/
def group : Language Char :=
  one isHexDigit * atMost 3 (one isHexDigit)

/-- `ls32`, the last thirty-two bits. -/
def lastGroups : Language Char :=
  group * sign ':' * group + ipv4Address

/-- A group with its colon. -/
def groupColon : Language Char :=
  group * sign ':'

/-- What may stand in front of two colons: up to so many groups. -/
def frontGroups (count : Nat) : Language Char :=
  optional (atMost count groupColon * group)

/-- Two colons, which stand for groups of zeros. -/
def doubleColon : Language Char :=
  sign ':' * sign ':'

/-- `IPv6address`. -/
def ipv6Address : Language Char :=
  groupColon ^ 6 * lastGroups +
    doubleColon * groupColon ^ 5 * lastGroups +
    frontGroups 0 * doubleColon * groupColon ^ 4 * lastGroups +
    frontGroups 1 * doubleColon * groupColon ^ 3 * lastGroups +
    frontGroups 2 * doubleColon * groupColon ^ 2 * lastGroups +
    frontGroups 3 * doubleColon * groupColon * lastGroups +
    frontGroups 4 * doubleColon * lastGroups +
    frontGroups 5 * doubleColon * group +
    frontGroups 6 * doubleColon

/-- `IPvFuture`. -/
def futureAddress : Language Char :=
  one (fun c => c == 'v' || c == 'V') * one isHexDigit * (one isHexDigit)∗ * sign '.' *
    one (fun c => isUnreserved c || isSubDelimiter c || c == ':') *
    (one (fun c => isUnreserved c || isSubDelimiter c || c == ':'))∗

/-- `IP-literal`. -/
def ipLiteral : Language Char :=
  sign '[' * (ipv6Address + futureAddress) * sign ']'

/-- `ireg-name`. -/
def registeredName : Language Char :=
  text isNameChar

/-- `ihost`. -/
def host : Language Char :=
  ipLiteral + ipv4Address + registeredName

/-! ## Parts of an IRI -/

/-- `scheme`. -/
def scheme : Language Char :=
  one Char.isAlpha * (one isSchemeChar)∗

/-- `port`. -/
def port : Language Char :=
  (one Char.isDigit)∗

/-- `iuserinfo`. -/
def userinfo : Language Char :=
  text isUserChar

/-- `iauthority`. -/
def authority : Language Char :=
  optional (userinfo * sign '@') * host * optional (sign ':' * port)

/-- `isegment`. -/
def segment : Language Char :=
  text isPathChar

/-- `isegment-nz`. -/
def nonemptySegment : Language Char :=
  (one isPathChar + escape) * segment

/-- `ipath-abempty`. -/
def pathAbempty : Language Char :=
  (sign '/' * segment)∗

/-- `ipath-absolute`. -/
def pathAbsolute : Language Char :=
  sign '/' * optional (nonemptySegment * pathAbempty)

/-- `ipath-rootless`. -/
def pathRootless : Language Char :=
  nonemptySegment * pathAbempty

/-- `ihier-part`. -/
def hierarchy : Language Char :=
  sign '/' * sign '/' * authority * pathAbempty + pathAbsolute + pathRootless + 1

/-- `iquery`. -/
def query : Language Char :=
  text isQueryChar

/-- `ifragment`. -/
def fragment : Language Char :=
  text isFragmentChar

/-- `IRI`. -/
def iri : Language Char :=
  scheme * sign ':' * hierarchy * optional (sign '?' * query) * optional (sign '#' * fragment)

end ContextStream.Iri.Grammar
