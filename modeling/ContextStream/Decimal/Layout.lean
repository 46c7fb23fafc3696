import ContextStream.Decimal.Shortest

/-!
# Laying out a number

The digits of a number are written with a decimal point in its place as long as
the exponent of the leading digit is in a certain range, and with an exponent
beyond it.
-/

namespace ContextStream.Decimal

/-- How numbers are laid out. -/
structure Layout where
  /-- The least exponent of the leading digit that is written with a point. -/
  plainFrom : Int
  /-- The least exponent from there on that is written as an exponent. -/
  plainBelow : Int
  /-- Whole numbers have a zero behind the point. -/
  pointZero : Bool

/-- The digits with a decimal point, `exponent` being that of the leading digit. -/
def Layout.plain (layout : Layout) (digits : List Char) (exponent : Int) : List Char :=
  if exponent < 0 then
    ['0', '.'] ++ List.replicate (-exponent - 1).toNat '0' ++ digits
  else
    let whole := exponent.toNat + 1
    if digits.length ≤ whole then
      digits ++ List.replicate (whole - digits.length) '0' ++
        if layout.pointZero then ['.', '0'] else []
    else digits.take whole ++ '.' :: digits.drop whole

/-- The digits with an exponent. -/
def scientific (digits : List Char) (exponent : Int) : List Char :=
  let fraction := if digits.length ≤ 1 then [] else '.' :: digits.drop 1
  digits.take 1 ++ fraction ++ ['e', if exponent < 0 then '-' else '+'] ++
    Nat.toDigits 10 exponent.natAbs

/-- The text of a decimal. -/
def Layout.decimal (layout : Layout) (x : Scaled) : List Char :=
  let digits := Nat.toDigits 10 x.digits
  let exponent := x.exponent + digits.length - 1
  if layout.plainFrom ≤ exponent ∧ exponent < layout.plainBelow then
    layout.plain digits exponent
  else scientific digits exponent

/-- The text of a finite number in the fewest digits that read back. -/
def Layout.float (layout : Layout) (x : Float) : String :=
  let magnitude := Binary.ofFloat x
  let sign := if 9223372036854775808 ≤ x.toBits.toNat then ['-'] else []
  String.ofList <| sign ++
    if magnitude.significand = 0 then layout.plain ['0'] 0
    else layout.decimal magnitude.shortest

end ContextStream.Decimal
