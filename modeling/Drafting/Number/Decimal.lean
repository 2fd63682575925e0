import Drafting.Number.Binary

/-!
# Decimal digits of exact quotients

A positive quotient has a leading decimal position, a rounding to any count of significant digits,
and a rounding to any count of places. The shortest digits are those of the coarsest decimal grid
that has a point inside the interval of reals that round to the number: if any point of a grid
lies inside, one of the two grid points around the number does.
-/

namespace Drafting

/-- The decimal `digits · 10 ^ exponent`. -/
structure Decimal where
  digits : Nat
  exponent : Int
deriving Repr, DecidableEq

/-- The count of decimal digits of a natural number. -/
def decimalLength (n : Nat) : Nat := (Nat.toDigits 10 n).length

/-- The quotient `num / den · 10 ^ shift` as numerator and denominator. -/
def scaleByTen (num den : Nat) (shift : Int) : Nat × Nat :=
  (num * tenTo shift.toNat, den * tenTo (-shift).toNat)

/-- The position of the leading digit of a positive quotient: the greatest `k` with
`10 ^ k ≤ num / den`. -/
def leadingPosition (num den : Nat) : Int :=
  let guess : Int := (decimalLength num : Int) - decimalLength den
  let (n, d) := scaleByTen num den (-guess)
  if d ≤ n then guess else guess - 1

namespace Decimal

/-- A positive quotient rounded to `places + 1` significant digits. -/
def significant (num den places : Nat) : Decimal :=
  let leading := leadingPosition num den
  let (n, d) := scaleByTen num den (places - leading)
  let digits := roundHalfEven n d
  if digits = tenTo (places + 1) then ⟨tenTo places, leading + 1 - places⟩
  else ⟨digits, leading - places⟩

/-- A quotient rounded to `places` decimal places. -/
def atPlaces (num den places : Nat) : Decimal :=
  let (n, d) := scaleByTen num den places
  ⟨roundHalfEven n d, -places⟩

/-- The same decimal without trailing zeros among its digits. -/
def trimmed (fuel : Nat) (d : Decimal) : Decimal :=
  match fuel with
  | 0 => d
  | fuel + 1 =>
    if d.digits ≠ 0 ∧ d.digits % 10 = 0 then trimmed fuel ⟨d.digits / 10, d.exponent + 1⟩ else d

/-- The position of the leading digit. -/
def leading (d : Decimal) : Int := d.exponent + decimalLength d.digits - 1

end Decimal

/-- The reals that round to a finite number, as four times its significand and the two bounds in
quarters of its last place, and whether the bounds themselves round to it. -/
structure RoundingInterval where
  low : Nat
  middle : Nat
  high : Nat
  closed : Bool
  exponent : Int
deriving Repr, DecidableEq

/-- Below a power of two the next number is only half a place away. -/
def BinaryFloat.interval (x : BinaryFloat) : RoundingInterval :=
  let narrow := x.significand = twoTo 52 ∧ -1074 < x.exponent
  { low := 4 * x.significand - (if narrow then 1 else 2)
    middle := 4 * x.significand
    high := 4 * x.significand + 2
    closed := x.significand % 2 = 0
    exponent := x.exponent - 2 }

/-- Whether `candidate · 10 ^ grid` lies in the interval. -/
def RoundingInterval.contains (interval : RoundingInterval) (candidate : Nat) (grid : Int) : Bool :=
  let scaled := candidate * tenTo grid.toNat * twoTo (-interval.exponent).toNat
  let unit := tenTo (-grid).toNat * twoTo interval.exponent.toNat
  let low := interval.low * unit
  let high := interval.high * unit
  if interval.closed then low ≤ scaled && scaled ≤ high else low < scaled && scaled < high

/-- The point of one decimal grid that reads back as the number, the nearer one if two do. -/
def RoundingInterval.onGrid? (interval : RoundingInterval) (num den : Nat) (grid : Int) :
    Option Decimal :=
  let (n, d) := scaleByTen num den (-grid)
  let below := n / d
  let nearest := roundHalfEven n d
  let other := if nearest = below then below + 1 else below
  if interval.contains nearest grid then some ⟨nearest, grid⟩
  else if interval.contains other grid then some ⟨other, grid⟩
  else none

/-- The first hit on the grids from one significant digit on. Seventeen digits always suffice, and
their rounding is what remains if no grid is hit. -/
def shortestFrom (interval : RoundingInterval) (num den : Nat) (leading : Int) :
    Nat → Nat → Decimal
  | 0, _ => Decimal.significant num den 16
  | fuel + 1, places =>
    match interval.onGrid? num den (leading - places) with
    | some decimal => decimal
    | none => shortestFrom interval num den leading fuel (places + 1)

/-- The fewest digits that read back as a nonzero finite number, the nearest such to it. -/
def BinaryFloat.shortest (x : BinaryFloat) : Decimal :=
  let (num, den) := x.ratio
  (shortestFrom x.interval num den (leadingPosition num den) 17 0).trimmed 17

end Drafting
