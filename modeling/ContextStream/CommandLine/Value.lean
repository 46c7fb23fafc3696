import ContextStream.Url.Ipv6

/-!
# Values on the command line

A value is checked when it is read. Integers are signed and have sixty-four bits;
addresses are in dotted or in colon form.
-/

namespace ContextStream.CommandLine

open ContextStream.Url

/-- Why a text is no integer. -/
inductive IntegerFault where
  | empty
  | notDigit
  | tooLarge
  | tooSmall
  deriving DecidableEq, Repr

/-- Why a text is no value of a parameter. -/
inductive ValueFault where
  | nothing
  | integer (fault : IntegerFault)
  | outside (value : Int) (greatest : Nat)
  | address
  deriving DecidableEq, Repr

/-- The wording of a fault. -/
def IntegerFault.message : IntegerFault → String
  | .empty => "cannot parse integer from empty string"
  | .notDigit => "invalid digit found in string"
  | .tooLarge => "number too large to fit in target type"
  | .tooSmall => "number too small to fit in target type"

@[inherit_doc IntegerFault.message]
def ValueFault.message : ValueFault → String
  | .nothing => "empty"
  | .integer fault => fault.message
  | .outside value greatest =>
      toString value ++ " is not in 0..=" ++ toString greatest
  | .address => "invalid IP address syntax"

/-- The number that digits write, up to a greatest one. Digits beyond it are not
looked at. -/
def readDigits (greatest : Nat) (tooMuch : IntegerFault) :
    Nat → List Char → Except IntegerFault Nat
  | value, [] => .ok value
  | value, c :: rest =>
      if !c.isDigit then .error .notDigit
      else
        let next := 10 * value + (c.toNat - '0'.toNat)
        if greatest < next then .error tooMuch else readDigits greatest tooMuch next rest

/-- Reads a signed integer. -/
def readInteger (text : List Char) : Except IntegerFault Int :=
  match text with
  | [] => .error .empty
  | ['+'] | ['-'] => .error .notDigit
  | '-' :: digits => (readDigits 9223372036854775808 .tooSmall 0 digits).map fun n => -(n : Int)
  | '+' :: digits => (readDigits 9223372036854775807 .tooLarge 0 digits).map Int.ofNat
  | digits => (readDigits 9223372036854775807 .tooLarge 0 digits).map Int.ofNat

/-- Reads a port. -/
def readPort (text : String) : Except ValueFault UInt16 := do
  let value ← (readInteger text.toList).mapError .integer
  if 0 ≤ value ∧ value < UInt16.size then return UInt16.ofNat value.toNat
  else throw (.outside value (UInt16.size - 1))

/-- Whether a text is the address of a host. -/
def isAddress (text : String) : Bool :=
  (Ipv6.dotted? text.toList).isSome || (Ipv6.parse text.toList).toOption.isSome

/-- Reads the address of a host. -/
def readAddress (text : String) : Except ValueFault String :=
  if isAddress text then .ok text else .error .address

/-- Reads a path. -/
def readPath (text : String) : Except ValueFault String :=
  if text.isEmpty then .error .nothing else .ok text

end ContextStream.CommandLine
