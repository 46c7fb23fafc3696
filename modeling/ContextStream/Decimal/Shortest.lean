/-!
# The fewest digits that read back

A binary floating point number stands for an interval of reals: those that are
nearer to it than to its neighbours, with the two ends when its significand is
even. Of the decimals in that interval the shortest is wanted, and of the shortest
the one nearest to the number.
-/

namespace ContextStream.Decimal

/-- A positive binary number `significand * 2 ^ exponent`. -/
structure Binary where
  significand : Nat
  exponent : Int
  /-- The neighbour below is only half as far away as the neighbour above. -/
  narrowBelow : Bool
  deriving DecidableEq, Repr

/-- The leading bit of a significand, the fifty-third, which is not stored. -/
def Binary.leadingBit : Nat := 4503599627370496

/-- The magnitude of a finite floating point number. -/
def Binary.ofFloat (x : Float) : Binary :=
  let bits := x.toBits.toNat
  let biased : Nat := bits / Binary.leadingBit % 2048
  let fraction : Nat := bits % Binary.leadingBit
  if biased = 0 then ⟨fraction, -1074, false⟩
  else ⟨Binary.leadingBit + fraction, biased - 1075, fraction == 0 && 1 < biased⟩

/-- A decimal `digits * 10 ^ exponent`. -/
structure Scaled where
  digits : Nat
  exponent : Int
  deriving DecidableEq, Repr

/-- The interval of a binary number, all over one denominator: its ends, the number
itself, and whether the ends belong to it. -/
structure Interval where
  lower : Nat
  value : Nat
  upper : Nat
  denominator : Nat
  closed : Bool

/-- The reals that round to a binary number, scaled so that the grid of powers
`10 ^ scale` consists of the multiples of the denominator. -/
def Binary.interval (x : Binary) (scale : Int) : Interval :=
  let up := Nat.pow 2 x.exponent.toNat * Nat.pow 10 (-scale).toNat
  { lower := (4 * x.significand - if x.narrowBelow then 1 else 2) * up
    value := 4 * x.significand * up
    upper := (4 * x.significand + 2) * up
    denominator := 4 * Nat.pow 2 (-x.exponent).toNat * Nat.pow 10 scale.toNat
    closed := x.significand % 2 == 0 }

/-- Whether a multiple of the denominator lies in the interval. -/
def Interval.contains (interval : Interval) (count : Nat) : Bool :=
  let point := count * interval.denominator
  if interval.closed then interval.lower ≤ point && point ≤ interval.upper
  else interval.lower < point && point < interval.upper

/-- The multiple of the denominator in the interval that is nearest to the number,
an even one when two are as near. -/
def Interval.nearest? (interval : Interval) : Option Nat :=
  let below := interval.value / interval.denominator
  match interval.contains below, interval.contains (below + 1) with
  | true, true =>
      match compare (2 * interval.value) ((2 * below + 1) * interval.denominator) with
      | .lt => some below
      | .gt => some (below + 1)
      | .eq => some (below + below % 2)
  | true, false => some below
  | false, true => some (below + 1)
  | false, false => none

/-- A power of ten that is not below the number. -/
def Binary.scaleAbove (x : Binary) : Int :=
  ((x.significand.log2 + 1 : Int) + x.exponent) * 1233 / 4096 + 2

/-- The shortest decimal that reads back as the number: the grids are tried from
coarse to fine, and the exact value stands in should none of them meet the
interval. -/
def Binary.shortest (x : Binary) : Scaled :=
  let onGrid := fun step : Nat =>
    let scale := x.scaleAbove - step
    (x.interval scale).nearest?.map fun count => (⟨count, scale⟩ : Scaled)
  ((List.range 24).findSome? onGrid).getD
    ⟨x.significand * Nat.pow 2 x.exponent.toNat * Nat.pow 5 (-x.exponent).toNat,
      min x.exponent 0⟩

end ContextStream.Decimal
