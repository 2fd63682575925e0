import Drafting.Proofs.Roots
import Drafting.Solve.Jacobian
import Mathlib.Algebra.Order.Ring.Int
import Mathlib.Data.Prod.Lex
import Mathlib.Order.Compare

/-!
# The order of floating-point numbers

What is not a number compares with nothing. Every other number has a place: first come the classes,
from minus to plus infinity, then the exponents and the mantissas, mirrored below zero. Comparing
numbers is comparing places, so numbers are ordered like places are, and the largest magnitude of
some numbers, if it is a number, is at least each of them.
-/

namespace Drafting

open Float.Model

/-- The place of an unpacked number. -/
def orderPlace : UnpackedFloat → Int ×ₗ Int ×ₗ Int
  | .infinity .negative => toLex (-2, toLex (0, 0))
  | .finite .negative mantissa exponent _ => toLex (-1, toLex (-exponent, -mantissa))
  | .zero _ | .notANumber => toLex (0, toLex (0, 0))
  | .finite .positive mantissa exponent _ => toLex (1, toLex (exponent, mantissa))
  | .infinity .positive => toLex (2, toLex (0, 0))

/-- Integers compare the other way round when they are negated. -/
theorem compare_neg (a b : Int) : compare (-a) (-b) = (compare a b).swap := by
  rcases lt_trichotomy a b with below | same | above
  · rw [compare_lt_iff_lt.mpr below, compare_gt_iff_gt.mpr (Int.neg_lt_neg below)]
    rfl
  · rw [same, compare_eq_iff_eq.mpr rfl, compare_eq_iff_eq.mpr rfl]
    rfl
  · rw [compare_gt_iff_gt.mpr above, compare_lt_iff_lt.mpr (Int.neg_lt_neg above)]
    rfl

/-- Natural numbers compare like integers. -/
theorem compare_natCast (a b : Nat) : compare (a : Int) (b : Int) = compare a b := by
  rcases lt_trichotomy a b with below | same | above
  · rw [compare_lt_iff_lt.mpr below, compare_lt_iff_lt.mpr (Int.ofNat_lt.mpr below)]
  · rw [same, compare_eq_iff_eq.mpr rfl, compare_eq_iff_eq.mpr rfl]
  · rw [compare_gt_iff_gt.mpr above, compare_gt_iff_gt.mpr (Int.ofNat_lt.mpr above)]

/-- Numbers compare like their places, and what is not a number compares with nothing. -/
theorem compare_eq_orderPlace (a b : UnpackedFloat) : a.compare b =
    if a.isNaN || b.isNaN then none else some (compare (orderPlace a) (orderPlace b)) := by
  -- Only numbers of one class and sign are compared by exponent and mantissa.
  rcases a with ⟨⟨⟩⟩ | _ | _ | ⟨⟨⟩, m, e, -⟩ <;> rcases b with ⟨⟨⟩⟩ | _ | _ | ⟨⟨⟩, n, f, -⟩
  all_goals first | rfl | skip
  all_goals
    refine Eq.trans ?_ (if_neg Bool.false_ne_true).symm
    unfold UnpackedFloat.compare orderPlace
    simp [Prod.Lex.compare_def, compareLex, compareOn, compare_neg, compare_natCast,
      Ordering.swap_then]

variable {a b c : Float}

/-- A number is at most another exactly if both are numbers and their places are in order. -/
theorem le_iff_orderPlace : a ≤ b ↔ (a.isNaN || b.isNaN) = false ∧
    orderPlace a.toModel.unpack ≤ orderPlace b.toModel.unpack := by
  have unfolded : a ≤ b ↔ a.toModel.unpack.le b.toModel.unpack := decide_eq_true_iff
  have undefined : (a.isNaN || b.isNaN) =
    (a.toModel.unpack.isNaN || b.toModel.unpack.isNaN) := rfl
  rw [unfolded, undefined, UnpackedFloat.le, compare_eq_orderPlace]
  cases a.toModel.unpack.isNaN || b.toModel.unpack.isNaN with
  | true => simp
  | false => simp [← compare_le_iff_le, Ordering.isLE_iff_ne_gt]

/-- A number is below another exactly if both are numbers and their places are strictly in
order. -/
theorem lt_iff_orderPlace : a < b ↔ (a.isNaN || b.isNaN) = false ∧
    orderPlace a.toModel.unpack < orderPlace b.toModel.unpack := by
  have unfolded : a < b ↔ a.toModel.unpack.lt b.toModel.unpack := decide_eq_true_iff
  have undefined : (a.isNaN || b.isNaN) =
    (a.toModel.unpack.isNaN || b.toModel.unpack.isNaN) := rfl
  rw [unfolded, undefined, UnpackedFloat.lt, compare_eq_orderPlace]
  cases a.toModel.unpack.isNaN || b.toModel.unpack.isNaN with
  | true => simp
  | false => simp [compare_lt_iff_lt]

/-- What compares is a number. -/
theorem isNaN_of_le (ordered : a ≤ b) : a.isNaN = false ∧ b.isNaN = false :=
  Bool.or_eq_false_iff.mp (le_iff_orderPlace.mp ordered).1

/-- The order of numbers is transitive. -/
theorem float_le_trans (first : a ≤ b) (second : b ≤ c) : a ≤ c := by
  have defined := Bool.or_eq_false_iff.mpr ⟨(isNaN_of_le first).1, (isNaN_of_le second).2⟩
  have places := (le_iff_orderPlace.mp first).2.trans (le_iff_orderPlace.mp second).2
  exact le_iff_orderPlace.mpr ⟨defined, places⟩

/-- A number is at most itself. -/
theorem float_le_refl (defined : a.isNaN = false) : a ≤ a :=
  le_iff_orderPlace.mpr ⟨Bool.or_eq_false_iff.mpr ⟨defined, defined⟩, le_refl _⟩

/-- What is below is at most. -/
theorem float_le_of_lt (below : a < b) : a ≤ b := by
  obtain ⟨defined, places⟩ := lt_iff_orderPlace.mp below
  exact le_iff_orderPlace.mpr ⟨defined, places.le⟩

/-- What is at most is not above. -/
theorem float_not_lt_of_le (ordered : a ≤ b) : ¬b < a := fun above =>
  not_lt_of_ge (le_iff_orderPlace.mp ordered).2 (lt_iff_orderPlace.mp above).2

/-- Of two numbers, one is below the other or at least as great. -/
theorem float_le_of_not_lt (left : a.isNaN = false) (right : b.isNaN = false) (above : ¬ a < b) :
    b ≤ a := by
  refine le_iff_orderPlace.mpr ⟨Bool.or_eq_false_iff.mpr ⟨right, left⟩, not_lt.mp fun places => ?_⟩
  exact above (lt_iff_orderPlace.mpr ⟨Bool.or_eq_false_iff.mpr ⟨left, right⟩, places⟩)

/-- The magnitude of a number is a number, and that of what is not one is not one. -/
theorem isNaN_abs (x : Float) : x.abs.isNaN = x.isNaN := by
  show (pack x.toModel.unpack.abs).isNaN = x.toModel.unpack.isNaN
  cases x.toModel.unpack with
  | notANumber => rfl
  | _ => exact isNaN_pack rfl

/-- The greater of a magnitude so far and one more. -/
private def withMagnitude (greatest x : Float) : Float :=
  if greatest < x.abs || x.isNaN then x.abs else greatest

/-- If a magnitude joined in leaves a number, both were numbers and are at most it. -/
private theorem le_withMagnitude {greatest x : Float}
    (defined : (withMagnitude greatest x).isNaN = false) :
    greatest ≤ withMagnitude greatest x ∧ x.abs ≤ withMagnitude greatest x := by
  unfold withMagnitude at defined ⊢
  by_cases joins : greatest < x.abs || x.isNaN
  · rw [if_pos joins] at defined ⊢
    rw [isNaN_abs] at defined
    rw [defined, Bool.or_false, decide_eq_true_eq] at joins
    exact ⟨float_le_of_lt joins, float_le_refl (isNaN_abs x ▸ defined)⟩
  · rw [if_neg joins] at defined ⊢
    simp only [Bool.or_eq_true, decide_eq_true_eq, not_or, Bool.not_eq_true] at joins
    exact ⟨float_le_refl defined,
      float_le_of_not_lt defined ((isNaN_abs x).trans joins.2) joins.1⟩

/-- The largest magnitude of some numbers, if it is a number, is at least each of them. -/
theorem abs_le_maxAbs {values : List Float} (defined : (maxAbs values).isNaN = false) {x : Float}
    (there : x ∈ values) : x.abs ≤ maxAbs values := by
  -- From whatever magnitude the search begins, it ends at one that is at least as great.
  have search (greatest : Float) (ends : (values.foldl withMagnitude greatest).isNaN = false) :
      greatest ≤ values.foldl withMagnitude greatest ∧
        ∀ x ∈ values, x.abs ≤ values.foldl withMagnitude greatest := by
    clear defined there
    induction values generalizing greatest with
    | nil => exact ⟨float_le_refl ends, List.forall_mem_nil _⟩
    | cons first rest ih =>
      obtain ⟨grows, others⟩ := ih _ ends
      obtain ⟨before, joined⟩ := le_withMagnitude (isNaN_of_le grows).1
      exact ⟨float_le_trans before grows,
        List.forall_mem_cons.mpr ⟨float_le_trans joined grows, others⟩⟩
  exact (search 0.0 defined).2 x there

end Drafting
