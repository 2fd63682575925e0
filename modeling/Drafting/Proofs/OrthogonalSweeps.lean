import Mathlib.Analysis.InnerProductSpace.GramMatrix
import Mathlib.LinearAlgebra.Matrix.Gershgorin
import Mathlib.Tactic.Linarith
import Mathlib.Tactic.Positivity

/-!
# Sweeps along nearly orthonormal directions

A sweep takes from a vector its components along some directions, one after the other, with an
error in each coefficient and in each difference. If the directions are nearly orthonormal, what is
left is nearly orthogonal to all of them; what a second sweep leaves is so even beside its own
length. Fewer directions than dimensions are nearly orthonormal.
-/

namespace Drafting

variable {E : Type} [NormedAddCommGroup E] [InnerProductSpace ℝ E]

/-- Some directions have nearly length one and are nearly orthogonal to one another. -/
structure NearlyOrthonormal (error : ℝ) (directions : List E) : Prop where
  unit : ∀ q ∈ directions, |‖q‖ ^ 2 - 1| ≤ error
  apart : directions.Pairwise fun p q => |inner ℝ p q| ≤ error

/-- A direction of nearly length one that is nearly orthogonal to others joins them. -/
theorem NearlyOrthonormal.concat {error : ℝ} {directions : List E} {q : E}
    (nearly : NearlyOrthonormal error directions) (unit : |‖q‖ ^ 2 - 1| ≤ error)
    (apart : ∀ p ∈ directions, |inner ℝ p q| ≤ error) :
    NearlyOrthonormal error (directions ++ [q]) := by
  refine ⟨List.forall_mem_append.mpr ⟨nearly.unit, List.forall_mem_singleton.mpr unit⟩, ?_⟩
  refine List.pairwise_append.mpr ⟨nearly.apart, List.pairwise_singleton _ q, ?_⟩
  intro p there other only
  exact List.mem_singleton.mp only ▸ apart p there

/-- All directions but the first are nearly orthonormal. -/
theorem NearlyOrthonormal.tail {error : ℝ} {q : E} {directions : List E}
    (nearly : NearlyOrthonormal error (q :: directions)) : NearlyOrthonormal error directions :=
  ⟨fun p there => nearly.unit p (List.mem_cons_of_mem q there),
    (List.pairwise_cons.mp nearly.apart).2⟩

/-- The first direction is nearly orthogonal to the others. -/
theorem NearlyOrthonormal.head {error : ℝ} {q : E} {directions : List E}
    (nearly : NearlyOrthonormal error (q :: directions)) :
    ∀ p ∈ directions, |inner ℝ q p| ≤ error := (List.pairwise_cons.mp nearly.apart).1

/-- There are no more nearly orthonormal directions than dimensions. -/
theorem NearlyOrthonormal.length_le [FiniteDimensional ℝ E] {error : ℝ} {directions : List E}
    (nearly : NearlyOrthonormal error directions) (small : directions.length * error < 1) :
    directions.length ≤ Module.finrank ℝ E := by
  have diagonal (i : Fin directions.length) : 1 - error ≤ ‖directions[i]‖ ^ 2 := by
    have unit : |‖directions[i]‖ ^ 2 - 1| ≤ error := nearly.unit _ (List.getElem_mem i.isLt)
    linarith [(abs_le.mp unit).1]
  have others (i j : Fin directions.length) (different : j ≠ i) :
      |inner ℝ directions[i] directions[j]| ≤ error := by
    rcases lt_or_gt_of_ne different with before | after
    · rw [real_inner_comm]
      exact List.pairwise_iff_getElem.mp nearly.apart j i j.isLt i.isLt before
    · exact List.pairwise_iff_getElem.mp nearly.apart i j i.isLt j.isLt after
  have independent : LinearIndependent ℝ fun i : Fin directions.length => directions[i] := by
    refine Matrix.linearIndependent_of_det_gram_ne_zero
      (det_ne_zero_of_sum_row_lt_diag fun i => ?_)
    have row : ∑ j ∈ Finset.univ.erase i, ‖Matrix.gram ℝ (fun i => directions[i]) i j‖ ≤
        (Finset.univ.erase i).card • error :=
      Finset.sum_le_card_nsmul _ _ _ fun j there => others i j (Finset.ne_of_mem_erase there)
    rw [Finset.card_erase_of_mem (Finset.mem_univ i), Finset.card_univ, Fintype.card_fin,
      nsmul_eq_mul, Nat.cast_pred (Fin.pos i), sub_mul, one_mul] at row
    refine row.trans_lt ?_
    rw [Matrix.gram_apply, real_inner_self_eq_norm_sq, Real.norm_of_nonneg (sq_nonneg _)]
    linarith [diagonal i]
  simpa using independent.fintype_card_le_finrank

/-- A sweep with its coefficients: each is up to an error the component along a direction, and up
to another error its multiple of the direction is taken away. -/
inductive Sweep (d e : ℝ) : List E → List ℝ → E → E → Prop
  | nil (w : E) : Sweep d e [] [] w w
  | cons {q : E} {directions : List E} {α : ℝ} {coefficients : List ℝ} {w next last : E}
    (component : |α - inner ℝ q w| ≤ d) (difference : ‖next - (w - α • q)‖ ≤ e)
    (rest : Sweep d e directions coefficients next last) :
    Sweep d e (q :: directions) (α :: coefficients) w last

section Step

variable {d e α : ℝ} {q w next : E}

/-- The length of a vector without a multiple of a direction. -/
theorem norm_sub_smul_sq (w q : E) (α : ℝ) :
    ‖w - α • q‖ ^ 2 = ‖w‖ ^ 2 - α ^ 2 * (2 - ‖q‖ ^ 2) + 2 * (α * (α - inner ℝ q w)) := by
  rw [norm_sub_sq_real, inner_smul_right, norm_smul, mul_pow, Real.norm_eq_abs, sq_abs,
    real_inner_comm]
  ring

omit [InnerProductSpace ℝ E] in
/-- A direction of nearly length one is not much longer. -/
theorem norm_le_of_unit {error : ℝ} (unit : |‖q‖ ^ 2 - 1| ≤ error) (small : error ≤ 1 / 16) :
    ‖q‖ ≤ 17 / 16 := by
  refine le_of_sq_le_sq ?_ (by norm_num)
  linarith [(abs_le.mp unit).2]

/-- A step makes a vector longer by its errors at most. -/
theorem norm_next_le (component : |α - inner ℝ q w| ≤ d) (difference : ‖next - (w - α • q)‖ ≤ e)
    (unit : ‖q‖ ≤ 17 / 16) : ‖next‖ ≤ ‖w‖ + (17 / 16 * d + e) := by
  have exact : ‖w - inner ℝ q w • q‖ ≤ ‖w‖ := by
    refine le_of_sq_le_sq ?_ (norm_nonneg w)
    have square : ‖q‖ ^ 2 ≤ 2 := by nlinarith [norm_nonneg q]
    rw [norm_sub_smul_sq, sub_self, mul_zero, mul_zero, add_zero]
    linarith [mul_nonneg (sq_nonneg (inner ℝ q w : ℝ)) (sub_nonneg.mpr square)]
  have moved : ‖(inner ℝ q w - α) • q‖ ≤ d * (17 / 16) := by
    rw [norm_smul, Real.norm_eq_abs, abs_sub_comm]
    exact mul_le_mul component unit (norm_nonneg q) ((abs_nonneg _).trans component)
  have split : next = (w - (inner ℝ q w : ℝ) • q) + ((inner ℝ q w : ℝ) - α) • q +
      (next - (w - α • q)) := by
    module
  calc ‖next‖ = _ := congrArg norm split
    _ ≤ _ := norm_add₃_le
    _ ≤ ‖w‖ + d * (17 / 16) + e := by gcongr
    _ = _ := by ring

/-- How a step changes the component along any direction. -/
theorem inner_next_near {p : E} {error : ℝ} (difference : ‖next - (w - α • q)‖ ≤ e)
    (apart : |inner ℝ p q| ≤ error) (unit : ‖p‖ ≤ 17 / 16) :
    |inner ℝ p next - inner ℝ p w| ≤ error * |α| + 17 / 16 * e := by
  have split : inner ℝ p next - inner ℝ p w =
      inner ℝ p (next - (w - α • q)) - α * inner ℝ p q := by
    rw [inner_sub_right, inner_sub_right, inner_smul_right]
    ring
  have rest : |inner ℝ p (next - (w - α • q))| ≤ 17 / 16 * e :=
    (abs_real_inner_le_norm _ _).trans
      (mul_le_mul unit difference (norm_nonneg _) (by norm_num))
  rw [split]
  calc _ ≤ |inner ℝ p (next - (w - α • q))| + |α * inner ℝ p q| := abs_sub _ _
    _ ≤ 17 / 16 * e + |α| * error := by
        rw [abs_mul]
        gcongr
    _ = _ := by ring

/-- After its own step a direction has hardly a component. -/
theorem inner_next_self {error : ℝ} (component : |α - inner ℝ q w| ≤ d)
    (difference : ‖next - (w - α • q)‖ ≤ e) (unit : |‖q‖ ^ 2 - 1| ≤ error)
    (small : error ≤ 1 / 16) : |inner ℝ q next| ≤ d + error * |α| + 17 / 16 * e := by
  have split : inner ℝ q next = inner ℝ q (next - (w - α • q)) - (α - inner ℝ q w) -
      α * (‖q‖ ^ 2 - 1) := by
    rw [inner_sub_right, inner_sub_right, inner_smul_right, real_inner_self_eq_norm_sq]
    ring
  have rest : |inner ℝ q (next - (w - α • q))| ≤ 17 / 16 * e :=
    (abs_real_inner_le_norm _ _).trans
      (mul_le_mul (norm_le_of_unit unit small) difference (norm_nonneg _) (by norm_num))
  rw [split]
  calc _ ≤ |inner ℝ q (next - (w - α • q)) - (α - inner ℝ q w)| + |α * (‖q‖ ^ 2 - 1)| :=
        abs_sub _ _
    _ ≤ |inner ℝ q (next - (w - α • q))| + |α - inner ℝ q w| + |α| * |‖q‖ ^ 2 - 1| := by
        rw [abs_mul]
        gcongr
        exact abs_sub _ _
    _ ≤ 17 / 16 * e + d + |α| * error := by gcongr
    _ = _ := by ring

/-- A coefficient takes its square, or nearly so, from the square of the length. -/
theorem sq_coefficient_le {error size : ℝ} (component : |α - inner ℝ q w| ≤ d)
    (difference : ‖next - (w - α • q)‖ ≤ e) (unit : |‖q‖ ^ 2 - 1| ≤ error)
    (small : error ≤ 1 / 16) (dSmall : d ≤ size / 64) (eSmall : e ≤ size / 64)
    (bounded : ‖w‖ ≤ 17 / 16 * size) :
    15 / 16 * α ^ 2 ≤ ‖w‖ ^ 2 - ‖next‖ ^ 2 + 3 * size * (d + e) := by
  have length := norm_le_of_unit unit small
  have dNonneg := (abs_nonneg _).trans component
  have eNonneg := (norm_nonneg _).trans difference
  have coefficient : |α| ≤ 5 / 4 * size := by
    have product : |inner ℝ q w| ≤ 17 / 16 * (17 / 16 * size) :=
      (abs_real_inner_le_norm q w).trans
        (mul_le_mul length bounded (norm_nonneg w) (by norm_num))
    linarith [abs_sub_abs_le_abs_sub α (inner ℝ q w)]
  have left : ‖w - α • q‖ ≤ 5 / 4 * size := by
    have exact : ‖w - α • q - (w - α • q)‖ ≤ 0 := by rw [sub_self, norm_zero]
    linarith [norm_next_le component exact length]
  have ends : ‖next‖ ^ 2 ≤ ‖w - α • q‖ ^ 2 + 2 * (e * ‖w - α • q‖) + e ^ 2 := by
    have split : next = (w - α • q) + (next - (w - α • q)) := by module
    have triangle : ‖next‖ ≤ ‖w - α • q‖ + e := by
      calc ‖next‖ = _ := congrArg norm split
        _ ≤ _ := norm_add_le _ _
        _ ≤ _ := by gcongr
    calc ‖next‖ ^ 2 ≤ (‖w - α • q‖ + e) ^ 2 := by gcongr
      _ = _ := by ring
  have cross : α * (α - inner ℝ q w) ≤ 5 / 4 * size * d := by
    calc α * (α - inner ℝ q w) ≤ |α * (α - inner ℝ q w)| := le_abs_self _
      _ = |α| * |α - inner ℝ q w| := abs_mul _ _
      _ ≤ _ := mul_le_mul coefficient component (abs_nonneg _) ((abs_nonneg α).trans coefficient)
  have taken : 15 / 16 * α ^ 2 ≤ α ^ 2 * (2 - ‖q‖ ^ 2) := by
    rw [mul_comm]
    gcongr
    linarith [(abs_le.mp unit).2]
  have square := norm_sub_smul_sq w q α
  have differences : e * ‖w - α • q‖ ≤ e * (5 / 4 * size) := by gcongr
  have errors : e ^ 2 ≤ e * (size / 64) := by
    rw [sq]
    gcongr
  have sizeE : 0 ≤ e * size := mul_nonneg eNonneg (by linarith)
  have sizeD : 0 ≤ d * size := mul_nonneg dNonneg (by linarith)
  linarith

end Step

section Run

variable {d e error : ℝ} {directions : List E} {coefficients : List ℝ} {w last : E}

/-- The magnitudes of coefficients, summed. -/
def totalMagnitude (coefficients : List ℝ) : ℝ := (coefficients.map abs).sum

omit [InnerProductSpace ℝ E] [NormedAddCommGroup E] in
@[simp]
theorem totalMagnitude_cons (α : ℝ) (coefficients : List ℝ) :
    totalMagnitude (α :: coefficients) = |α| + totalMagnitude coefficients := List.sum_cons

/-- A sweep makes a vector longer by its errors at most. -/
theorem Sweep.norm_le (sweep : Sweep d e directions coefficients w last)
    (unit : ∀ q ∈ directions, ‖q‖ ≤ 17 / 16) :
    ‖last‖ ≤ ‖w‖ + directions.length * (17 / 16 * d + e) := by
  induction sweep with
  | nil w => simp
  | @cons q directions α coefficients w next last component difference rest ih =>
    have later := ih fun q there => unit q (List.mem_cons_of_mem _ there)
    have first := norm_next_le component difference (unit q List.mem_cons_self)
    rw [List.length_cons, Nat.cast_succ]
    linarith

/-- A magnitude is at most half its weighted square and half the inverse of the weight. -/
theorem abs_le_weighted (x : ℝ) {weight : ℝ} (positive : 0 < weight) :
    |x| ≤ weight / 2 * x ^ 2 + 1 / (2 * weight) := by
  have square : 0 ≤ (weight * |x| - 1) ^ 2 / (2 * weight) := by positivity
  have expanded : (weight * |x| - 1) ^ 2 / (2 * weight) =
      weight / 2 * |x| ^ 2 + 1 / (2 * weight) - |x| := by
    field_simp
    ring
  rw [expanded, sq_abs] at square
  linarith

/-- The squares of the coefficients of a sweep sum to little more than the square of the length, so
the coefficients sum to little more than their root mean square allows. -/
theorem Sweep.weighted (sweep : Sweep d e directions coefficients w last)
    (nearly : NearlyOrthonormal error directions) (small : error ≤ 1 / 16) {size weight : ℝ}
    (dSmall : d ≤ size / 64) (eSmall : e ≤ size / 64)
    (bounded : ‖w‖ + directions.length * (17 / 16 * d + e) ≤ 17 / 16 * size)
    (positive : 0 < weight) :
    totalMagnitude coefficients ≤
      8 / 15 * weight * (‖w‖ ^ 2 - ‖last‖ ^ 2 + directions.length * (3 * size * (d + e))) +
        directions.length * (1 / (2 * weight)) := by
  induction sweep with
  | nil w => simp [totalMagnitude]
  | @cons q directions α coefficients w next last component difference rest ih =>
    have unit := nearly.unit q List.mem_cons_self
    have dNonneg := (abs_nonneg _).trans component
    have eNonneg := (norm_nonneg _).trans difference
    rw [List.length_cons, Nat.cast_succ] at bounded ⊢
    have margin : 0 ≤ (directions.length + 1) * (17 / 16 * d + e) := by positivity
    have energy := sq_coefficient_le component difference unit small dSmall eSmall (by linarith)
    have grown := norm_next_le component difference (norm_le_of_unit unit small)
    have later := ih nearly.tail (by linarith)
    have own := abs_le_weighted α positive
    have scaled : 8 / 15 * weight * (15 / 16 * α ^ 2) ≤
        8 / 15 * weight * (‖w‖ ^ 2 - ‖next‖ ^ 2 + 3 * size * (d + e)) := by gcongr
    rw [totalMagnitude_cons]
    linarith

/-- How a sweep changes the component along any direction. -/
theorem Sweep.drift (sweep : Sweep d e directions coefficients w last) {p : E}
    (apart : ∀ q ∈ directions, |inner ℝ p q| ≤ error) (unit : ‖p‖ ≤ 17 / 16) :
    |inner ℝ p last - inner ℝ p w| ≤
      error * totalMagnitude coefficients + directions.length * (17 / 16 * e) := by
  induction sweep with
  | nil w => simp [totalMagnitude]
  | @cons q directions α coefficients w next last component difference rest ih =>
    have later := ih fun q there => apart q (List.mem_cons_of_mem _ there)
    have first := inner_next_near difference (apart q List.mem_cons_self) unit
    rw [totalMagnitude_cons, List.length_cons, Nat.cast_succ]
    linarith [abs_sub_le (inner ℝ p last) (inner ℝ p next) (inner ℝ p w)]

/-- After a sweep all components along the directions are small. -/
theorem Sweep.settled (sweep : Sweep d e directions coefficients w last)
    (nearly : NearlyOrthonormal error directions) (small : error ≤ 1 / 16) (eNonneg : 0 ≤ e)
    {q : E} (there : q ∈ directions) :
    |inner ℝ q last| ≤
      d + error * totalMagnitude coefficients + directions.length * (17 / 16 * e) := by
  induction sweep with
  | nil w => cases there
  | @cons p directions α coefficients w next last component difference rest ih =>
    have unit := nearly.unit p List.mem_cons_self
    have errorNonneg := (abs_nonneg _).trans unit
    rw [totalMagnitude_cons, List.length_cons, Nat.cast_succ]
    rcases List.mem_cons.mp there with rfl | later
    · have settles := inner_next_self component difference unit small
      have drifts := rest.drift nearly.head (norm_le_of_unit unit small)
      linarith [abs_sub_abs_le_abs_sub (inner ℝ q last) (inner ℝ q next)]
    · have settles := ih nearly.tail later
      have grows : 0 ≤ error * |α| := by positivity
      linarith

/-- The sum of coefficients that are all small. -/
theorem Sweep.totalMagnitude_le {A : ℝ} (sweep : Sweep d e directions coefficients w last)
    (bound : ∀ α ∈ coefficients, |α| ≤ A) :
    totalMagnitude coefficients ≤ directions.length * A := by
  induction sweep with
  | nil w => simp [totalMagnitude]
  | @cons q directions α coefficients w next last component difference rest ih =>
    have parts := List.forall_mem_cons.mp bound
    rw [totalMagnitude_cons, List.length_cons, Nat.cast_succ]
    linarith [ih parts.2]

/-- How far a sweep moves a vector. -/
theorem Sweep.moved (sweep : Sweep d e directions coefficients w last)
    (unit : ∀ q ∈ directions, ‖q‖ ≤ 17 / 16) :
    ‖last - w‖ ≤ 17 / 16 * totalMagnitude coefficients + directions.length * e := by
  induction sweep with
  | nil w => simp [totalMagnitude]
  | @cons q directions α coefficients w next last component difference rest ih =>
    have later := ih fun q there => unit q (List.mem_cons_of_mem _ there)
    have taken : ‖α • q‖ ≤ |α| * (17 / 16) := by
      rw [norm_smul, Real.norm_eq_abs]
      gcongr
      exact unit q List.mem_cons_self
    have split : last - w = (last - next) + (next - (w - α • q)) + -(α • q) := by module
    have triangle : ‖last - w‖ ≤ ‖last - next‖ + ‖next - (w - α • q)‖ + ‖α • q‖ := by
      rw [split, ← norm_neg (α • q)]
      exact norm_add₃_le
    rw [totalMagnitude_cons, List.length_cons, Nat.cast_succ]
    linarith

/-- If all components are small at first, all coefficients of a sweep are. -/
theorem Sweep.coefficients_le (sweep : Sweep d e directions coefficients w last)
    (nearly : NearlyOrthonormal error directions) (small : error ≤ 1 / 16) (eNonneg : 0 ≤ e)
    {c A : ℝ} (nonneg : 0 ≤ A) (components : ∀ q ∈ directions, |inner ℝ q w| ≤ c)
    (room : c + d + directions.length * (error * A + 17 / 16 * e) ≤ A) :
    ∀ α ∈ coefficients, |α| ≤ A := by
  induction sweep generalizing c with
  | nil w => exact List.forall_mem_nil _
  | @cons p directions α coefficients w next last component difference rest ih =>
    have errorNonneg := (abs_nonneg _).trans (nearly.unit p List.mem_cons_self)
    have own : |α| ≤ c + d := by
      linarith [abs_sub_abs_le_abs_sub α (inner ℝ p w), components p List.mem_cons_self]
    rw [List.length_cons, Nat.cast_succ] at room
    have margin : 0 ≤ (directions.length + 1) * (error * A + 17 / 16 * e) := by positivity
    have bound : |α| ≤ A := by linarith
    refine List.forall_mem_cons.mpr ⟨bound, ?_⟩
    refine @ih nearly.tail (c + (error * A + 17 / 16 * e)) (fun q there => ?_) (by linarith)
    have unit := norm_le_of_unit (nearly.tail.unit q there) small
    have close : |inner ℝ q p| ≤ error := by
      rw [real_inner_comm]
      exact nearly.head q there
    have drifts := inner_next_near difference close unit
    have scaled : error * |α| ≤ error * A := by gcongr
    linarith [abs_sub_abs_le_abs_sub (inner ℝ q next) (inner ℝ q w),
      components q (List.mem_cons_of_mem p there)]

end Run

/-- The errors of a sweep along some directions beside the size of the vector: `unit` is the error
of one operation, and `root` is the square root of a number of operations. -/
structure SweepErrors (unit count root : ℝ) : Prop where
  pos : 0 < unit
  one_le : 1 ≤ root
  sq_root : root ^ 2 = count
  small : count ^ 2 * unit ≤ 1 / 1024

section Twice

variable {unit count root size : ℝ} {directions : List E} {coefficients : List ℝ} {w next last : E}

namespace SweepErrors

variable (errors : SweepErrors unit count root)
include errors

/-- There is at least one operation. -/
theorem one_le_count : 1 ≤ count := by
  rw [← errors.sq_root]
  exact one_le_pow₀ errors.one_le

/-- Their number is positive. -/
theorem count_pos : 0 < count := one_pos.trans_le errors.one_le_count

/-- So is its root. -/
theorem root_pos : 0 < root := one_pos.trans_le errors.one_le

/-- The errors of all operations are small together. -/
theorem count_mul_unit_le : count * unit ≤ 1 / 1024 := by
  refine le_trans ?_ errors.small
  have unit := errors.pos
  gcongr
  exact le_self_pow₀ errors.one_le_count two_ne_zero

/-- The error of one operation is among them. -/
theorem unit_le : unit ≤ count * unit :=
  le_mul_of_one_le_left errors.pos.le errors.one_le_count

/-- The errors of two sweeps are no smaller than the error of one operation. -/
theorem unit_le_product (one : 1 ≤ size) : unit ≤ root * (count ^ 2 * unit) * size := by
  have unitPos := errors.pos
  have countPos := errors.count_pos
  calc unit ≤ count ^ 2 * unit :=
        le_mul_of_one_le_left unitPos.le (one_le_pow₀ errors.one_le_count)
    _ ≤ root * (count ^ 2 * unit) := le_mul_of_one_le_left (by positivity) errors.one_le
    _ ≤ root * (count ^ 2 * unit) * size :=
        le_mul_of_one_le_right (mul_nonneg (by linarith [errors.one_le]) (by positivity)) one

/-- A sweep hardly makes a vector longer. -/
theorem growth_le {length : ℕ} (few : length ≤ count) (positive : 0 < size) :
    length * (17 / 16 * (3 / 2 * (count * unit) * size) + 5 * unit * size) ≤
      1 / 16 * size := by
  have unitPos := errors.pos
  have countPos := errors.count_pos
  have relative := mul_le_mul_of_nonneg_right errors.count_mul_unit_le positive.le
  have squared := mul_le_mul_of_nonneg_right errors.small positive.le
  have step : 0 ≤ 17 / 16 * (3 / 2 * (count * unit) * size) + 5 * unit * size := by positivity
  refine (mul_le_mul_of_nonneg_right few step).trans ?_
  have expanded : count * (17 / 16 * (3 / 2 * (count * unit) * size) + 5 * unit * size) =
      51 / 32 * (count ^ 2 * unit * size) + 5 * (count * unit * size) := by ring
  rw [expanded]
  linarith

/-- The coefficients of a sweep. -/
theorem totalMagnitude_le (few : directions.length ≤ count)
    (nearly : NearlyOrthonormal (16 * (count * unit)) directions)
    (sweep : Sweep (3 / 2 * (count * unit) * size) (5 * unit * size) directions coefficients w last)
    (positive : 0 < size) (bounded : ‖w‖ ≤ size) :
    totalMagnitude coefficients ≤ 16 / 15 * (root * size) := by
  have unitPos := errors.pos
  have countPos := errors.count_pos
  have rootPos := errors.root_pos
  have relative := mul_le_mul_of_nonneg_right errors.count_mul_unit_le positive.le
  have single := mul_le_mul_of_nonneg_right errors.unit_le positive.le
  have squared := mul_le_mul_of_nonneg_right errors.small positive.le
  have grows := errors.growth_le few positive
  have dSmall : 3 / 2 * (count * unit) * size ≤ size / 64 := by linarith
  have eSmall : 5 * unit * size ≤ size / 64 := by linarith
  have weighted := sweep.weighted nearly (by linarith [errors.count_mul_unit_le]) dSmall eSmall
    (by linarith) (div_pos rootPos positive)
  refine weighted.trans ?_
  have energy : directions.length * (3 * size * (3 / 2 * (count * unit) * size + 5 * unit * size)) ≤
      1 / 16 * size ^ 2 := by
    have nonneg : 0 ≤ 3 * size * (3 / 2 * (count * unit) * size + 5 * unit * size) := by positivity
    refine (mul_le_mul_of_nonneg_right few nonneg).trans ?_
    have expanded : count * (3 * size * (3 / 2 * (count * unit) * size + 5 * unit * size)) =
        (9 / 2 * (count ^ 2 * unit * size) + 15 * (count * unit * size)) * size := by ring
    have part : 9 / 2 * (count ^ 2 * unit * size) + 15 * (count * unit * size) ≤ 1 / 16 * size := by
      linarith
    rw [expanded]
    exact (mul_le_mul_of_nonneg_right part positive.le).trans_eq (by ring)
  have start : ‖w‖ ^ 2 - ‖last‖ ^ 2 ≤ size ^ 2 := by
    linarith [sq_nonneg ‖last‖, pow_le_pow_left₀ (norm_nonneg w) bounded 2]
  have part : directions.length * (1 / (2 * (root / size))) ≤ 1 / 2 * (root * size) := by
    calc directions.length * (1 / (2 * (root / size))) ≤ count * (1 / (2 * (root / size))) := by
          gcongr
      _ = 1 / 2 * (root * size) := by
          rw [← errors.sq_root]
          field_simp
  calc _ ≤ 8 / 15 * (root / size) * (size ^ 2 + 1 / 16 * size ^ 2) + 1 / 2 * (root * size) := by
        gcongr
    _ = 16 / 15 * (root * size) := by
        field_simp
        ring

/-- After one sweep, all components are small beside the size of the vector. -/
theorem settled_once (few : directions.length ≤ count)
    (nearly : NearlyOrthonormal (16 * (count * unit)) directions)
    (sweep : Sweep (3 / 2 * (count * unit) * size) (5 * unit * size) directions coefficients w last)
    (positive : 0 < size) (bounded : ‖w‖ ≤ size) {q : E} (there : q ∈ directions) :
    |inner ℝ q last| ≤ 24 * (root * (count * unit) * size) := by
  have unitPos := errors.pos
  have countPos := errors.count_pos
  have total := errors.totalMagnitude_le few nearly sweep positive bounded
  have small := errors.count_mul_unit_le
  have settled := sweep.settled nearly (by linarith) (by positivity) there
  have scaled : 16 * (count * unit) * totalMagnitude coefficients ≤
      16 * (count * unit) * (16 / 15 * (root * size)) := by gcongr
  have differences : directions.length * (17 / 16 * (5 * unit * size)) ≤
      count * (17 / 16 * (5 * unit * size)) := by gcongr
  have rooted : count * unit * size ≤ root * (count * unit * size) :=
    le_mul_of_one_le_left (by positivity) errors.one_le
  have nonneg : 0 ≤ count * unit * size := by positivity
  linarith

/-- The coefficients of a second sweep. -/
theorem coefficients_again {c : ℝ} (few : directions.length ≤ count)
    (nearly : NearlyOrthonormal (16 * (count * unit)) directions)
    (sweep : Sweep (3 / 2 * (count * unit) * size) (5 * unit * size) directions coefficients w last)
    (positive : 0 < size) (nonneg : 0 ≤ c) (components : ∀ q ∈ directions, |inner ℝ q w| ≤ c) :
    ∀ α ∈ coefficients, |α| ≤ 17 / 16 * (c + 7 * (count * unit * size)) := by
  have unitPos := errors.pos
  have countPos := errors.count_pos
  refine sweep.coefficients_le nearly (by linarith [errors.count_mul_unit_le]) (by positivity)
    (by positivity) components ?_
  have step : 0 ≤ 16 * (count * unit) * (17 / 16 * (c + 7 * (count * unit * size))) +
      17 / 16 * (5 * unit * size) := by positivity
  have steps := mul_le_mul_of_nonneg_right few step
  have expanded : count * (16 * (count * unit) * (17 / 16 * (c + 7 * (count * unit * size))) +
      17 / 16 * (5 * unit * size)) =
        17 * (count ^ 2 * unit) * (c + 7 * (count * unit * size)) +
          85 / 16 * (count * unit * size) := by ring
  have part : count ^ 2 * unit * (c + 7 * (count * unit * size)) ≤
      1 / 1024 * (c + 7 * (count * unit * size)) := by
    gcongr
    exact errors.small
  have some : 0 ≤ count * unit * size := by positivity
  linarith

/-- After a second sweep, all components are small beside the length of what is left, unless that
is small beside the length of the vector at first. -/
theorem settled_twice {others : List ℝ} {middle : E} (few : directions.length ≤ count)
    (nearly : NearlyOrthonormal (16 * (count * unit)) directions)
    (first : Sweep (3 / 2 * (count * unit) * size) (5 * unit * size) directions coefficients w
      middle)
    (second : Sweep (3 / 2 * (count * unit) * max ‖middle‖ ‖last‖)
      (5 * unit * max ‖middle‖ ‖last‖) directions others middle last)
    (positive : 0 < size) (bounded : ‖w‖ ≤ size)
    (enough : 100 * (root * (count ^ 2 * unit) * size) ≤ ‖last‖) {q : E} (there : q ∈ directions) :
    |inner ℝ q last| ≤ 27 / 2 * (count * unit) * ‖last‖ := by
  have unitPos := errors.pos
  have countPos := errors.count_pos
  have rootPos := errors.root_pos
  have lastPos : 0 < ‖last‖ := lt_of_lt_of_le (by positivity) enough
  obtain ⟨greater, named⟩ : ∃ greater, greater = max ‖middle‖ ‖last‖ := ⟨_, rfl⟩
  rw [← named] at second
  have greaterPos : 0 < greater := named ▸ lastPos.trans_le (le_max_right _ _)
  have small := errors.count_mul_unit_le
  have components (q : E) (there : q ∈ directions) :=
    errors.settled_once few nearly first positive bounded there
  have coefficient := errors.coefficients_again few nearly second greaterPos (by positivity)
    components
  have nonneg : 0 ≤ 17 / 16 *
      (24 * (root * (count * unit) * size) + 7 * (count * unit * greater)) := by positivity
  have squared := mul_le_mul_of_nonneg_right errors.small greaterPos.le
  have relative := mul_le_mul_of_nonneg_right small greaterPos.le
  have total : totalMagnitude others ≤ 51 / 200 * ‖last‖ + 1 / 128 * greater := by
    refine (second.totalMagnitude_le coefficient).trans
      ((mul_le_mul_of_nonneg_right few nonneg).trans ?_)
    have expanded : count * (17 / 16 * (24 * (root * (count * unit) * size) +
        7 * (count * unit * greater))) =
          51 / 200 * (100 * (root * (count ^ 2 * unit) * size)) +
            119 / 16 * (count ^ 2 * unit * greater) := by ring
    rw [expanded]
    linarith
  have differences : directions.length * (5 * unit * greater) ≤ count * (5 * unit * greater) := by
    gcongr
  -- The second sweep moves the vector by a part of the length of what is left.
  have near : greater ≤ 4 / 3 * ‖last‖ := by
    have moved := second.moved fun q there => norm_le_of_unit (nearly.unit q there) (by linarith)
    have start : ‖middle‖ ≤ ‖last‖ + ‖last - middle‖ := by
      rw [norm_sub_rev]
      exact norm_le_norm_add_norm_sub' middle last
    have bound : greater ≤ ‖last‖ + ‖last - middle‖ :=
      named.trans_le (max_le start (by linarith [norm_nonneg (last - middle)]))
    linarith
  have settled := second.settled nearly (by linarith) (by positivity) there
  have scaled : count * unit * totalMagnitude others ≤ count * unit * (27 / 100 * ‖last‖) := by
    gcongr
    linarith
  have sizes : count * unit * greater ≤ count * unit * (4 / 3 * ‖last‖) := by gcongr
  have rest : 0 ≤ count * unit * ‖last‖ := by positivity
  linarith

/-- What is left of a vector, divided by its length, has nearly length one, and its components
along other directions are small if those of what is left are. -/
theorem normalized {norm rest : ℝ} {divided : E} (positive : 0 < ‖last‖)
    (near : |norm - ‖last‖| ≤ 4 * (count * unit) * ‖last‖)
    (close : ‖divided - norm⁻¹ • last‖ ≤ unit * ‖norm⁻¹ • last‖ + rest)
    (small : rest ≤ count * unit / 16) :
    |‖divided‖ ^ 2 - 1| ≤ 16 * (count * unit) ∧
      ∀ p : E, ‖p‖ ≤ 17 / 16 → |inner ℝ p last| ≤ 27 / 2 * (count * unit) * ‖last‖ →
        |inner ℝ p divided| ≤ 16 * (count * unit) := by
  have unitPos := errors.pos
  have countPos := errors.count_pos
  obtain ⟨relative, named⟩ : ∃ relative, relative = count * unit := ⟨_, rfl⟩
  have relativeSmall : relative ≤ 1 / 1024 := named ▸ errors.count_mul_unit_le
  have unitLe : unit ≤ relative := named ▸ errors.unit_le
  have relativePos : 0 < relative := unitPos.trans_le unitLe
  rw [← named] at near small ⊢
  have part := mul_le_mul_of_nonneg_right relativeSmall positive.le
  have normPos : 0 < norm := by linarith [(abs_le.mp near).1]
  -- The exact quotient has nearly length one.
  obtain ⟨quotient, divides⟩ : ∃ quotient, quotient = ‖norm⁻¹ • last‖ := ⟨_, rfl⟩
  have product : quotient * norm = ‖last‖ := by
    rw [divides, norm_smul, norm_inv, Real.norm_of_nonneg normPos.le]
    field_simp
  have ratio : |quotient - 1| ≤ 4 * relative * quotient := by
    refine le_of_mul_le_mul_right ?_ normPos
    rw [← abs_of_pos normPos, ← abs_mul, sub_mul, one_mul, abs_of_pos normPos, product,
      abs_sub_comm, mul_assoc, product]
    exact near
  rw [← divides] at close
  have quotientNonneg : 0 ≤ quotient := divides ▸ norm_nonneg _
  have scaled := mul_le_mul_of_nonneg_right relativeSmall quotientNonneg
  have bound : quotient ≤ 256 / 255 := by linarith [(abs_le.mp ratio).2]
  have ratios := mul_le_mul_of_nonneg_left bound relativePos.le
  have error : ‖divided - norm⁻¹ • last‖ ≤ 27 / 25 * relative := by
    have units := mul_le_mul_of_nonneg_right unitLe quotientNonneg
    linarith
  constructor
  · have length : |‖divided‖ - 1| ≤ 26 / 5 * relative := by
      have lengths := (abs_norm_sub_norm_le divided (norm⁻¹ • last)).trans error
      rw [← divides] at lengths
      linarith [abs_sub_le ‖divided‖ quotient 1]
    have factors : ‖divided‖ ^ 2 - 1 = (‖divided‖ - 1) * (‖divided‖ + 1) := by ring
    have upper : ‖divided‖ + 1 ≤ 3 := by linarith [(abs_le.mp length).2]
    rw [factors, abs_mul, abs_of_pos (by linarith [norm_nonneg divided] : 0 < ‖divided‖ + 1)]
    calc |‖divided‖ - 1| * (‖divided‖ + 1) ≤ 26 / 5 * relative * 3 :=
          mul_le_mul length upper (by linarith [norm_nonneg divided]) (by positivity)
      _ ≤ 16 * relative := by linarith
  · intro p unitP components
    have split : inner ℝ p divided =
        norm⁻¹ * inner ℝ p last + inner ℝ p (divided - norm⁻¹ • last) := by
      rw [inner_sub_right, inner_smul_right]
      ring
    have main : |norm⁻¹ * inner ℝ p last| ≤ 27 / 2 * relative * quotient := by
      rw [abs_mul, abs_of_pos (inv_pos.mpr normPos), inv_mul_le_iff₀ normPos, mul_comm,
        mul_assoc, product]
      exact components
    have other : |inner ℝ p (divided - norm⁻¹ • last)| ≤ 17 / 16 * (27 / 25 * relative) :=
      (abs_real_inner_le_norm _ _).trans (mul_le_mul unitP error (norm_nonneg _) (by norm_num))
    rw [split]
    linarith [abs_add_le (norm⁻¹ * inner ℝ p last) (inner ℝ p (divided - norm⁻¹ • last))]

end SweepErrors

end Twice

end Drafting
