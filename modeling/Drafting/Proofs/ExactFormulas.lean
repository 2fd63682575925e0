import Mathlib.Analysis.SpecialFunctions.Complex.Arg
import Drafting.Proofs.Refusal
import Drafting.Relation.Formula

/-!
# Formulas over exact numbers

The residual formulas are written over any scalars, so they can be read over numbers that are not
rounded. Over an ordered field the four operations, the constants and the comparisons are its own.
Over the reals the functions of plane geometry are the real ones, and a root has a value exactly
where its argument is not negative. Of other fields, the rationals among them, any functions may be
taken for them.
-/

namespace Drafting

/-- The arithmetic of an ordered field. -/
@[reducible] def exactArithmetic (α : Type) [Field α] [LinearOrder α] : Arithmetic α where
  add := (· + ·)
  sub := (· - ·)
  mul := (· * ·)
  div := (· / ·)
  neg := (- ·)
  ofScientific := OfScientific.ofScientific
  less a b := decide (a < b)
  atMost a b := decide (a ≤ b)
  magnitude a := |a|

/-- What stands for the functions of plane geometry over some numbers. -/
structure PlaneFunctions (α : Type) where
  root : α → Except Fault α
  square : α → Except Fault α
  sine : α → Except Fault α
  cosine : α → Except Fault α
  sineHyperbolic : α → Except Fault α
  cosineHyperbolic : α → Except Fault α
  direction : (ordinate abscissa : α) → α

/-- The numbers of an ordered field with what stands for the functions of plane geometry. -/
@[reducible] def PlaneFunctions.scalar {α : Type} [Field α] [LinearOrder α]
    (functions : PlaneFunctions α) : Scalar α where
  toArithmetic := exactArithmetic α
  root := functions.root
  square := functions.square
  sine := functions.sine
  cosine := functions.cosine
  sineHyperbolic := functions.sineHyperbolic
  cosineHyperbolic := functions.cosineHyperbolic
  direction := functions.direction

/-- The functions of plane geometry over the reals. -/
noncomputable def realFunctions : PlaneFunctions ℝ where
  root x := if x < 0 then .error (.arithmetic .domain) else .ok √x
  square x := .ok (x ^ 2)
  sine x := .ok (Real.sin x)
  cosine x := .ok (Real.cos x)
  sineHyperbolic x := .ok (Real.sinh x)
  cosineHyperbolic x := .ok (Real.cosh x)
  direction ordinate abscissa := Complex.arg ⟨abscissa, ordinate⟩

namespace OverReals

/-- The reals, over which the formulas are exact. -/
noncomputable scoped instance : Scalar ℝ := realFunctions.scalar

end OverReals

open OverReals

/-- The decimal constants of the formulas are those of the reals. -/
@[simp] theorem ofScientific_real (mantissa : Nat) (negative : Bool) (exponent : Nat) :
    @OfScientific.ofScientific ℝ Arithmetic.toOfScientific mantissa negative exponent =
      @OfScientific.ofScientific ℝ NNRatCast.toOfScientific mantissa negative exponent := rfl

/-- The magnitude of a real. -/
@[simp] theorem magnitude_real (x : ℝ) : magnitude x = |x| := rfl

/-- The larger of two reals. -/
@[simp] theorem larger_real (x y : ℝ) : larger x y = max x y := by
  show (if decide (x < y) then y else x) = max x y
  rw [max_def_lt]
  simp only [decide_eq_true_eq]

/-- A real that is not negative has a root. -/
theorem root_real {x : ℝ} (nonneg : 0 ≤ x) : root x = .ok √x := if_neg (not_lt.mpr nonneg)

/-- Every real has a second power. -/
@[simp] theorem square_real (x : ℝ) : square x = .ok (x ^ 2) := rfl

/-- The length of a vector as a real. -/
noncomputable def PlaneVector.norm (v : PlaneVector ℝ) : ℝ := √(v.x ^ 2 + v.y ^ 2)

/-- Over the reals every vector has a length. -/
@[simp] theorem PlaneVector.length_real (v : PlaneVector ℝ) : v.length = .ok v.norm := by
  have same : larger (v.x * v.x + v.y * v.y) 0.0 = v.x ^ 2 + v.y ^ 2 := by
    rw [larger_real, ← sq, ← sq]
    norm_num
    positivity
  unfold length norm
  rw [same]
  exact root_real (by positivity)

/-- Over the reals every two points have a distance. -/
@[simp] theorem distance_real (p q : PlaneVector ℝ) : distance p q = .ok (q.minus p).norm :=
  PlaneVector.length_real _

end Drafting
