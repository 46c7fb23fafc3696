import ContextStream.Decimal.Layout

/-!
# Numbers of JSON

A number is kept exactly when it is written without fraction and exponent and fits
sixty-four bits, signed or unsigned. Every other number is a floating point number.
-/

namespace ContextStream.Json

/-- An integer of sixty-four bits, signed or unsigned. -/
structure Integer where
  val : Int
  lower : -9223372036854775808 ≤ val
  upper : val < 18446744073709551616
  deriving DecidableEq

/-- The signed number of sixty-four bits that an integer is. -/
def Integer.toInt64? (n : Integer) : Option Int64 :=
  if n.val < 9223372036854775808 then some (Int64.ofInt n.val) else none

/-- A number. -/
inductive Number where
  | integer (n : Integer)
  | double (x : Float)

namespace Number

/-- Floating point numbers have a point or an exponent; a power of ten from the
sixteenth on, or below the fifth behind the point, takes an exponent. -/
def layout : Decimal.Layout where
  plainFrom := -5
  plainBelow := 16
  pointZero := true

/-- The text of a number. -/
def text : Number → String
  | .integer n => toString n.val
  | .double x => layout.float x

/-- A number without a sign that has no fraction. -/
def ofNat (n : Nat) (fits : n < UInt64.size) : Number :=
  .integer ⟨n, by omega, by unfold UInt64.size at fits; omega⟩

/-- A signed number of sixty-four bits. -/
def ofInt64 (n : Int64) : Number :=
  .integer ⟨n.toInt, by have := n.le_toInt; omega, by have := n.toInt_lt; omega⟩

/-- `significand * 10 ^ exponent`, or `none` when it is too large. Small numbers are
scaled in steps of `10 ^ 308`, of which three leave nothing. -/
def scaled? (significand : Nat) (exponent : Int) : Option Float :=
  let power := fun n => Float.ofScientific 1 false n
  let start := Float.ofNat significand
  if exponent < 0 then
    let places := exponent.natAbs
    let steps := (places - 1) / 308
    let coarse := Nat.repeat (· / power 308) (min steps 3) start
    some (coarse / power (places - 308 * steps))
  else if exponent ≤ 308 then
    let product := start * power exponent.toNat
    if product.isInf then none else some product
  else if significand = 0 then some 0
  else none

end Number

end ContextStream.Json
