import ContextStream.Text.Quoted
import ContextStream.Unicode.Printable
import ContextStream.Url.Parser

/-!
# Absolute IRIs

An IRI keeps the text it was given, character for character. A text is an IRI when
it holds no character that would end or break a reference in angle brackets and
when it can be read as a URL; the normal form of that URL serves only to find a
short name.
-/

namespace ContextStream

open ContextStream.Text

namespace Iri

/-- Why a text is no IRI. -/
inductive Fault where
  | empty
  | illegalCharacter (c : Char)
  | noUrl (error : Url.ParseError)
  deriving DecidableEq, Repr

/-- The wording of a fault. -/
def Fault.message : Fault → String
  | .empty => "empty"
  | .illegalCharacter c => "illegal character " ++ Quoted.char c
  | .noUrl error => error.message

/-- Characters that may not stand in a reference in angle brackets. -/
def isIllegal (c : Char) : Bool :=
  Unicode.isBlank c || Unicode.isControl c ||
    c ∈ ['<', '>', '"', '\x7b', '\x7d', '|', '^', '`', '\\']

/-- Legal characters are visible. -/
theorem lt_toNat_of_legal {c : Char} (legal : isIllegal c = false) : 0x20 < c.toNat := by
  simp only [isIllegal, Unicode.isBlank, Unicode.isControl, Bool.or_eq_false_iff,
    beq_eq_false_iff_ne, decide_eq_false_iff_not] at legal
  omega

/-- The fault of a text, if it has one. -/
def fault? (text : String) : Option Fault :=
  match text.toList with
  | [] => some .empty
  | chars =>
      match chars.find? isIllegal with
      | some c => some (.illegalCharacter c)
      | none =>
          match Url.parse chars with
          | .error error => some (.noUrl error)
          | .ok _ => none

end Iri

/-- An absolute IRI. -/
structure Iri where
  text : String
  faultless : Iri.fault? text = none
  deriving DecidableEq

/-- An IRI stands for its text. -/
instance : Coe Iri String := ⟨Iri.text⟩

/-- An IRI is known by its text. -/
theorem Iri.text_inj {iri other : Iri} : iri.text = other.text ↔ iri = other := by
  cases iri
  cases other
  simp

/-- A text that should have been an IRI, and its fault. -/
structure InvalidIri where
  value : String
  fault : Iri.Fault
  deriving DecidableEq, Repr

/-- The message about a text that is no IRI. -/
def InvalidIri.message (invalid : InvalidIri) : String :=
  "invalid uri " ++ Quoted.text invalid.value ++ ": " ++ invalid.fault.message

namespace Iri

/-- The IRI that a text is. -/
def parse (text : String) : Except InvalidIri Iri :=
  match found : fault? text with
  | none => .ok ⟨text, found⟩
  | some fault => .error ⟨text, fault⟩

theorem parse_of_faultless {text : String} (faultless : fault? text = none) :
    parse text = .ok ⟨text, faultless⟩ := by
  unfold parse
  split
  · rfl
  · next fault found => cases faultless.symm.trans found

/-- What stands before the first colon. -/
def scheme (iri : Iri) : String :=
  String.ofList (iri.text.toList.takeWhile (· != ':'))

/-- What follows a namespace, if the IRI lies in it. -/
def stripNamespace (space : String) (iri : Iri) : Option String :=
  if space.toList.isPrefixOf iri.text.toList then
    some (String.ofList (iri.text.toList.drop space.toList.length))
  else none

/-- The name of a URL: its last segment that is not empty, or else all of a path
without a slash in front, or else the host. -/
def nameOf (url : Url) : String :=
  match url.path.segments.reverse.find? (· ≠ "") with
  | some segment => segment
  | none =>
      match url.path with
      | .bare text => text
      | .rooted _ => (url.host.map Url.Host.text).getD "unnamed"

/-- No character of an IRI is illegal. -/
theorem isIllegal_eq_false (iri : Iri) {c : Char} (cMem : c ∈ iri.text.toList) :
    isIllegal c = false := by
  have faultless := iri.faultless
  unfold fault? at faultless
  split at faultless
  · cases faultless
  · split at faultless
    · cases faultless
    · next legal =>
        simpa using List.find?_eq_none.mp legal c cMem

/-- An IRI can be read as a URL. -/
theorem parse_ne_error (iri : Iri) (error : Url.ParseError) :
    Url.parse iri.text.toList ≠ .error error := by
  intro refused
  have faultless := iri.faultless
  unfold fault? at faultless
  split at faultless
  · cases faultless
  · split at faultless
    · cases faultless
    · rw [refused] at faultless
      cases faultless

/-- The IRI as a URL in normal form. -/
def url (iri : Iri) : Url :=
  match read : Url.parse iri.text.toList with
  | .ok url => url
  | .error error => absurd read (iri.parse_ne_error error)

/-- A short name of the IRI. -/
def localName (iri : Iri) : String :=
  nameOf iri.url

end Iri

end ContextStream
