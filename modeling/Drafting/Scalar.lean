import Drafting.Fault

/-!
# Scalars of the residual formulas

The formulas of the constraints are written once, over any type of scalars. `Arithmetic` is what
measuring needs: the four operations, decimal constants and decidable comparisons. `Scalar` adds
the roots and the circular and hyperbolic functions of plane geometry, which may be refused outside
their domain or range. Floating-point numbers run; exact types serve for statements about the
formulas.
-/

namespace Drafting

/-- Numbers with the four operations, decimal constants and decided comparisons. -/
class Arithmetic (α : Type) extends Add α, Sub α, Mul α, Div α, Neg α, OfScientific α where
  /-- Whether the first number is below the second. -/
  less : α → α → Bool
  /-- Whether the first number is at most the second. -/
  atMost : α → α → Bool
  /-- The magnitude of a number. -/
  magnitude : α → α

export Arithmetic (less atMost magnitude)

/-- Numbers with the functions of plane geometry. -/
class Scalar (α : Type) extends Arithmetic α where
  /-- The square root. -/
  root : α → Except Fault α
  /-- The second power, refused where it has no value. -/
  square : α → Except Fault α
  /-- The sine of an angle. -/
  sine : α → Except Fault α
  /-- The cosine of an angle. -/
  cosine : α → Except Fault α
  /-- The hyperbolic sine. -/
  sineHyperbolic : α → Except Fault α
  /-- The hyperbolic cosine. -/
  cosineHyperbolic : α → Except Fault α
  /-- The angle of the direction with the given ordinate and abscissa. -/
  direction : (ordinate abscissa : α) → α

export Scalar (root square sine cosine sineHyperbolic cosineHyperbolic direction)

/-- The first number unless the second is above it. -/
def larger [Arithmetic α] (a b : α) : α := if less a b then b else a

/-- The first number unless the second is below it. -/
def smaller [Arithmetic α] (a b : α) : α := if less b a then b else a

/-- The value of a function that has one wherever its argument is a number and finite. -/
def onDomain (f : Float → Float) (x : Float) : Except Fault Float :=
  let y := f x
  if y.isNaN && !x.isNaN then .error (.arithmetic .domain) else .ok y

/-- The value of a function that grows beyond the largest number. -/
def withinRange (f : Float → Float) (x : Float) : Except Fault Float :=
  let y := f x
  if y.isInf && x.isFinite then .error (.arithmetic .range) else .ok y

instance : Scalar Float where
  less a b := a < b
  atMost a b := a ≤ b
  magnitude := Float.abs
  root := onDomain Float.sqrt
  square := withinRange fun x => Float.pow x 2.0
  sine := onDomain Float.sin
  cosine := onDomain Float.cos
  sineHyperbolic := withinRange Float.sinh
  cosineHyperbolic := withinRange Float.cosh
  direction := Float.atan2

end Drafting
