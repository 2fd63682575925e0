import Drafting.Number.Power
import Drafting.Number.Rounding

/-!
# Floating-point numbers as exact integers

A finite number is a sign, an integer and a power of two. `BinaryFloat.ofFloat?` takes a number
apart, `floatOfRatio` rounds an exact quotient to the nearest number. Both work on the bits, so
that printing and reading never go through another approximation.
-/

namespace Drafting

/-- A finite number `± significand · 2 ^ exponent`. -/
structure BinaryFloat where
  negative : Bool
  significand : Nat
  exponent : Int
deriving Repr, DecidableEq

namespace BinaryFloat

/-- The parts of a finite number; a number that is infinite or not a number has none. -/
def ofFloat? (x : Float) : Option BinaryFloat :=
  let bits : Nat := x.toBits.toNat
  let negative := bits / twoTo 63 = 1
  let biased : Nat := bits / twoTo 52 % twoTo 11
  let fraction : Nat := bits % twoTo 52
  if biased = 2047 then none
  else if biased = 0 then some ⟨negative, fraction, -1074⟩
  else some ⟨negative, twoTo 52 + fraction, (biased : Int) - 1075⟩

/-- The magnitude as numerator and denominator. -/
def ratio (x : BinaryFloat) : Nat × Nat :=
  if 0 ≤ x.exponent then (x.significand * twoTo x.exponent.toNat, 1)
  else (x.significand, twoTo (-x.exponent).toNat)

end BinaryFloat

/-- The bits of the number with magnitude `significand · 2 ^ exponent`, where the significand has
at most 53 bits and has fewer only at the lowest exponent. -/
def magnitudeBits (significand : Nat) (exponent : Int) : Nat :=
  let carried := significand = twoTo 53
  let significand := if carried then twoTo 52 else significand
  let exponent := if carried then exponent + 1 else exponent
  if 971 < exponent then 2047 * twoTo 52
  else if significand < twoTo 52 then significand
  else (exponent + 1075).toNat * twoTo 52 + (significand - twoTo 52)

/-- The exponent at which the integer part of `num / den` has 53 bits, or the lowest one. -/
def ratioExponent (num den : Nat) : Int :=
  let guess : Int := (num.log2 : Int) - (den.log2 : Int) - 52
  let exponent :=
    if num * twoTo (-guess).toNat < den * twoTo guess.toNat * twoTo 52 then guess - 1 else guess
  max exponent (-1074)

/-- The number nearest to `± num / den`; of two equally near ones, the one with an even
significand, and infinity beyond the largest finite number. -/
def floatOfRatio (negative : Bool) (num den : Nat) : Float :=
  let magnitude :=
    if num = 0 then 0
    else
      let exponent := ratioExponent num den
      magnitudeBits
        (roundHalfEven (num * twoTo (-exponent).toNat) (den * twoTo exponent.toNat)) exponent
  Float.ofBits (UInt64.ofNat ((if negative then twoTo 63 else 0) + magnitude))

/-- The number nearest to an integer. -/
def floatOfInteger (n : Int) : Float :=
  floatOfRatio (n < 0) n.natAbs 1

end Drafting
