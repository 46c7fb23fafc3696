/-!
# Readings that may fail

A reading made of others has a result only if each of these has one. The reading of a URL
fails in one of a few ways.
-/

namespace ContextStream

variable {ε ε' α β : Type}

theorem bind_eq_ok_iff {first : Except ε α} {next : α → Except ε β} {b : β} :
    first >>= next = .ok b ↔ ∃ a, first = .ok a ∧ next a = .ok b := by
  cases first <;> simp [bind, Except.bind]

theorem map_eq_ok_iff {first : Except ε α} {f : α → β} {b : β} :
    first.map f = .ok b ↔ ∃ a, first = .ok a ∧ f a = b := by
  cases first <;> simp [Except.map]

theorem mapError_eq_ok_iff {first : Except ε α} {f : ε → ε'} {a : α} :
    first.mapError f = .ok a ↔ first = .ok a := by
  cases first <;> constructor <;> rintro ⟨⟩ <;> rfl

namespace Url

/-- The ways in which reading a URL fails. -/
inductive ParseError where
  | relativeWithoutBase
  | emptyHost
  | invalidPort
  | invalidIpv4
  | invalidIpv6
  | invalidDomain
  | invalidDomainCharacter
  deriving DecidableEq, Repr

/-- The wording of each failure. -/
def ParseError.message : ParseError → String
  | .relativeWithoutBase => "relative URL without a base"
  | .emptyHost => "empty host"
  | .invalidPort => "invalid port number"
  | .invalidIpv4 => "invalid IPv4 address"
  | .invalidIpv6 => "invalid IPv6 address"
  | .invalidDomain => "invalid international domain name"
  | .invalidDomainCharacter => "invalid domain character"

end Url

end ContextStream
