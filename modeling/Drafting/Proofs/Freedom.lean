import Drafting.Proofs.Classification
import Drafting.Proofs.Orthogonality

/-!
# Degrees of freedom

The rank that a diagnosis counts is the number of directions it keeps. If no entry of a scanned row
is infinite, undefined or enormous, and if the rank tolerance is coarse beside the rounding errors
of rows of that length, the directions kept are nearly orthonormal, so the rank is at most the count
of free values, and what it leaves is no negative count.
-/

namespace Drafting

/-- A rank tolerance is coarse beside the rounding errors of rows with so many entries. The default
tolerance is so for up to 164 entries. -/
structure CoarseFor (count : ℕ) (tolerance : Float) : Prop where
  positive : 0 < exactValue tolerance
  precise : ((count : ℚ) + 1) ^ 5 ≤ 2 ^ 90 * min 1 (exactValue tolerance ^ 2)

namespace CoarseFor

variable {n : ℕ} {tolerance : Float} (coarse : CoarseFor n tolerance)
include coarse

/-- The count and the tolerance as real numbers. -/
theorem pow_le : ((n : ℝ) + 1) ^ 5 ≤ 2 ^ 90 ∧
    ((n : ℝ) + 1) ^ 5 ≤ (2 ^ 45 * realValue tolerance) ^ 2 := by
  have precise : (((n : ℚ) + 1) ^ 5 : ℚ) ≤ (2 ^ 90 * min 1 (exactValue tolerance ^ 2) : ℚ) :=
    coarse.precise
  have real : ((n : ℝ) + 1) ^ 5 ≤ 2 ^ 90 * min 1 (realValue tolerance ^ 2) := by
    unfold realValue
    exact_mod_cast precise
  constructor
  · calc ((n : ℝ) + 1) ^ 5 ≤ 2 ^ 90 * min 1 (realValue tolerance ^ 2) := real
      _ ≤ 2 ^ 90 * 1 := by gcongr; exact min_le_left _ _
      _ = 2 ^ 90 := mul_one _
  · calc ((n : ℝ) + 1) ^ 5 ≤ 2 ^ 90 * min 1 (realValue tolerance ^ 2) := real
      _ ≤ 2 ^ 90 * realValue tolerance ^ 2 := by gcongr; exact min_le_right _ _
      _ = (2 ^ 45 * realValue tolerance) ^ 2 := by ring

/-- The tolerance is positive. -/
theorem realValue_pos : 0 < realValue tolerance := Rat.cast_pos.mpr coarse.positive

/-- The count is not too great. -/
theorem count_le : (n : ℝ) + 1 ≤ 2 ^ 18 := by
  refine le_of_pow_le_pow_left₀ (n := 5) (by norm_num) (by positivity) ?_
  rw [← pow_mul]
  exact coarse.pow_le.1

/-- The errors of sweeps are small. -/
theorem errors : SweepErrors unitError (n + 1) (Real.sqrt (n + 1)) := by
  have one : (1 : ℝ) ≤ n + 1 := by linarith [(n.cast_nonneg : (0 : ℝ) ≤ n)]
  refine ⟨unitError_pos, Real.one_le_sqrt.mpr one, Real.sq_sqrt (by linarith), ?_⟩
  calc ((n : ℝ) + 1) ^ 2 * unitError ≤ (2 ^ 18) ^ 2 * unitError := by
        have unitPos := unitError_pos
        gcongr
        exact coarse.count_le
    _ ≤ 1 / 1024 := by norm_num [unitError]

/-- The errors of two sweeps are small beside the tolerance. -/
theorem product_le :
    Real.sqrt (n + 1) * ((n + 1) ^ 2 * unitError) ≤ 1 / 128 * realValue tolerance := by
  have root : Real.sqrt (n + 1) * (n + 1) ^ 2 ≤ 2 ^ 45 * realValue tolerance := by
    refine le_of_sq_le_sq ?_ (by have := coarse.realValue_pos; positivity)
    calc (Real.sqrt (n + 1) * (n + 1) ^ 2) ^ 2 = Real.sqrt (n + 1) ^ 2 * (n + 1) ^ 4 := by ring
      _ = ((n : ℝ) + 1) ^ 5 := by
          rw [Real.sq_sqrt (by positivity)]
          ring
      _ ≤ _ := coarse.pow_le.2
  have factor : (2 : ℝ) ^ 45 * unitError = 1 / 128 := by norm_num [unitError]
  calc Real.sqrt (n + 1) * ((n + 1) ^ 2 * unitError) =
        Real.sqrt (n + 1) * (n + 1) ^ 2 * unitError := by ring
    _ ≤ 2 ^ 45 * realValue tolerance * unitError := by
        have unitPos := unitError_pos
        gcongr
    _ = 2 ^ 45 * unitError * realValue tolerance := by ring
    _ = _ := by rw [factor]

end CoarseFor

section Scale

/-- The largest magnitude is zero or one of the magnitudes. -/
theorem maxAbs_mem (values : List Float) :
    maxAbs values = 0.0 ∨ ∃ x ∈ values, maxAbs values = x.abs := by
  have search (greatest : Float) :
      values.foldl (fun a x => if a < x.abs || x.isNaN then x.abs else a) greatest = greatest ∨
        ∃ x ∈ values,
          values.foldl (fun a x => if a < x.abs || x.isNaN then x.abs else a) greatest = x.abs := by
    induction values generalizing greatest with
    | nil => exact .inl rfl
    | cons x rest ih =>
      rcases ih (if greatest < x.abs || x.isNaN then x.abs else greatest) with same | found
      · by_cases joins : greatest < x.abs || x.isNaN
        · exact .inr ⟨x, List.mem_cons_self, by rw [List.foldl_cons, same, if_pos joins]⟩
        · exact .inl (by rw [List.foldl_cons, same, if_neg joins])
      · obtain ⟨y, there, largest⟩ := found
        exact .inr ⟨y, List.mem_cons_of_mem x there, largest⟩
  exact search 0.0

/-- The scale of rows with finite lengths is finite, at least one and at least each length. -/
theorem rowScale_near {rows : List (List Float)} (finite : ∀ row ∈ rows, (vectorNorm row).isFinite)
    (bounded : ∀ row ∈ rows, |realValue (vectorNorm row)| ≤ rangeBound) :
    (rowScale rows).isFinite ∧ 1 ≤ realValue (rowScale rows) ∧
      ∀ row ∈ rows, realValue (vectorNorm row) ≤ realValue (rowScale rows) := by
  have unit : (1.0 : Float).isFinite := by decide +kernel
  have greatestFinite : (maxAbs (rows.map vectorNorm)).isFinite := by
    rcases maxAbs_mem (rows.map vectorNorm) with zero | ⟨norm, there, largest⟩
    · rw [zero]
      decide +kernel
    · obtain ⟨row, among, rfl⟩ := List.mem_map.mp there
      rw [largest]
      exact isFinite_abs (finite row among) (bounded row among)
  have defined := isNaN_of_isFinite greatestFinite
  unfold rowScale larger
  by_cases above : less 1.0 (maxAbs (rows.map vectorNorm))
  · rw [if_pos above]
    have below : (1.0 : Float) ≤ maxAbs (rows.map vectorNorm) :=
      float_le_of_lt (of_decide_eq_true above)
    refine ⟨greatestFinite, realValue_one ▸ realValue_le unit greatestFinite below, ?_⟩
    intro row among
    have magnitude := abs_le_maxAbs defined (List.mem_map_of_mem among)
    exact (le_abs_self _).trans (realValue_of_abs_le greatestFinite magnitude).2
  · rw [if_neg above]
    refine ⟨unit, realValue_one.ge, fun row among => ?_⟩
    have magnitude := abs_le_maxAbs defined (List.mem_map_of_mem among)
    have below : maxAbs (rows.map vectorNorm) ≤ 1.0 :=
      float_le_of_not_lt (isNaN_of_isFinite unit) defined fun great =>
        above (decide_eq_true great)
    exact (le_abs_self _).trans (realValue_of_abs_le unit (float_le_trans magnitude below)).2

end Scale

/-- No entry of a row is infinite, undefined or enormous. -/
def Moderate (row : List Float) : Prop := ∀ x ∈ row, x.abs ≤ 1e100

section Rows

variable {n : ℕ} {row : List Float} {tolerance : Float}

/-- A moderate row is a vector that is not too long. -/
theorem Moderate.vector (moderate : Moderate row) (length : row.length = n) (few : n ≤ 2 ^ 18) :
    FiniteVector n row ∧ rowSize n row ≤ 2 ^ 360 := by
  have finite : (1e100 : Float).isFinite := by decide +kernel
  have bound : exactValue 1e100 ≤ 2 ^ 333 := by decide +kernel
  have boundReal : realValue 1e100 ≤ 2 ^ 333 := by
    unfold realValue
    exact_mod_cast bound
  have vector : FiniteVector n row :=
    ⟨length, fun x there => (realValue_of_abs_le finite (moderate x there)).1⟩
  refine ⟨vector, max_le (one_le_pow₀ one_le_two) ?_⟩
  have entries (i : Fin n) : |coordinates n row i| ≤ 0 * |coordinates n row i| +
      0 * |coordinates n row i| + 2 ^ 333 := by
    have inside : i.val < row.length := length ▸ i.isLt
    rw [zero_mul, zero_add, zero_add, coordinates_apply, List.getD_eq_getElem row 0.0 inside]
    exact (realValue_of_abs_le finite (moderate _ (List.getElem_mem inside))).2.trans boundReal
  have norm := norm_le_of_entries le_rfl le_rfl (by positivity) entries
  rw [zero_mul, zero_add, zero_add] at norm
  have count : (n : ℝ) ≤ 2 ^ 18 := by exact_mod_cast few
  calc ‖coordinates n row‖ ≤ n * 2 ^ 333 := norm
    _ ≤ 2 ^ 18 * 2 ^ 333 := by gcongr
    _ ≤ 2 ^ 360 := by
        rw [← pow_add]
        exact pow_le_pow_right₀ one_le_two (by norm_num)

/-- Moderate rows are short enough to be measured. -/
theorem rangeBound_of_le {size : ℝ} (nonneg : 0 ≤ size) (bounded : size ≤ 2 ^ 360) :
    64 * size ^ 2 ≤ rangeBound := by
  have factor : (64 : ℝ) = 2 ^ 6 := by norm_num
  calc 64 * size ^ 2 ≤ 2 ^ 6 * (2 ^ 360) ^ 2 := by rw [← factor]; gcongr
    _ = (2 : ℝ) ^ (726 : ℤ) := by
        rw [← pow_mul, ← pow_add]
        rfl
    _ ≤ rangeBound := zpow_le_zpow_right₀ one_le_two (by norm_num)

/-- A length beyond a tolerance that is a part of the scale is at least that part of the scale. -/
theorem exceeds_mul {scale : Float} (finite : tolerance.isFinite)
    (positive : 0 < realValue tolerance) (scaleFinite : scale.isFinite)
    (one : 1 ≤ realValue scale) {bound : ℝ}
    (part : bound ≤ (1 - unitError) * (realValue tolerance * realValue scale) - leastError) :
    Exceeds (tolerance * scale) bound := by
  intro norm normFinite long
  have product : 0 < realValue tolerance * realValue scale := by positivity
  have productFinite : (tolerance * scale).isFinite := by
    by_contra infinite
    exact long (le_mul_of_infinite finite scaleFinite product infinite normFinite)
  obtain ⟨-, error⟩ := mul_near_of_finite finite scaleFinite productFinite
  rw [abs_of_pos product] at error
  have above : tolerance * scale ≤ norm := float_le_of_lt <| by
    by_contra below
    exact long (float_le_of_not_lt (isNaN_of_isFinite productFinite)
      (isNaN_of_isFinite normFinite) below)
  have ordered := realValue_le productFinite normFinite above
  linarith [(abs_le.mp error).1]

/-- The length of a moderate row is finite and near the exact one. -/
theorem Moderate.norm_near (moderate : Moderate row) (length : row.length = n)
    (coarse : CoarseFor n tolerance) :
    (vectorNorm row).isFinite ∧ |realValue (vectorNorm row)| ≤ rangeBound ∧
      rowSize n row ≤ 17 / 16 * max 1 (realValue (vectorNorm row)) := by
  have relative := coarse.errors.count_mul_unit_le
  have few : n ≤ 2 ^ 18 := by
    have bound := coarse.count_le
    exact_mod_cast (by linarith : (n : ℝ) ≤ 2 ^ 18)
  obtain ⟨vector, size⟩ := moderate.vector length few
  have one : 1 ≤ rowSize n row := le_max_left _ _
  have longer : ‖coordinates n row‖ ≤ rowSize n row := le_max_right _ _
  have range := rangeBound_of_le (by linarith) size
  have squares := pow_le_pow_left₀ (norm_nonneg _) longer 2
  obtain ⟨finite, near⟩ := vectorNorm_near vector (by linarith)
    (by linarith [sq_nonneg (rowSize n row)])
  have tinyPos := tinyLength_pos
  have tiny : tinyLength ≤ 1 / 64 := by linarith [tinyLength_le_unit, unitError_le]
  have part := mul_le_mul_of_nonneg_right relative (norm_nonneg (coordinates n row))
  have square : rowSize n row ≤ rowSize n row ^ 2 := le_self_pow₀ one two_ne_zero
  refine ⟨finite, ?_, max_le ?_ ?_⟩
  · have triangle := abs_sub_abs_le_abs_sub (realValue (vectorNorm row)) ‖coordinates n row‖
    rw [abs_norm] at triangle
    linarith
  · linarith [le_max_left 1 (realValue (vectorNorm row))]
  · linarith [le_max_left 1 (realValue (vectorNorm row)), (abs_le.mp near).1,
      le_max_right 1 (realValue (vectorNorm row))]

end Rows

/-- Moderate rows add no more directions than they have entries, beyond a tolerance that is
coarse. -/
theorem directions_le {n : ℕ} {rankTolerance : Float} (coarse : CoarseFor n rankTolerance)
    {rows : List (List Float)} (lengths : ∀ row ∈ rows, row.length = n)
    (moderate : ∀ row ∈ rows, Moderate row) :
    (newDirections (rankTolerance * rowScale rows) [] rows).countP Option.isSome ≤ n := by
  have norms (row : List Float) (there : row ∈ rows) :=
    (moderate row there).norm_near (lengths row there) coarse
  obtain ⟨scaleFinite, one, longest⟩ := rowScale_near (fun row there => (norms row there).1)
    fun row there => (norms row there).2.1
  have finite : rankTolerance.isFinite := isFinite_of_realValue_ne_zero coarse.realValue_pos.ne'
  have few : n ≤ 2 ^ 18 := by
    have bound := coarse.count_le
    exact_mod_cast (by linarith : (n : ℝ) ≤ 2 ^ 18)
  have unitPos := unitError_pos
  have unitSmall := coarse.errors.unit_le.trans coarse.errors.count_mul_unit_le
  have tolerancePos := coarse.realValue_pos
  have measurable : ∀ row ∈ rows, Measurable n (Real.sqrt (n + 1))
      (rankTolerance * rowScale rows) row := by
    intro row there
    obtain ⟨vector, size⟩ := (moderate row there).vector (lengths row there) few
    have sizeOne : 1 ≤ rowSize n row := le_max_left _ _
    refine ⟨vector, rangeBound_of_le (by linarith) size,
      exceeds_mul finite tolerancePos scaleFinite one ?_⟩
    have shorter : rowSize n row ≤ 17 / 16 * realValue (rowScale rows) := by
      refine (norms row there).2.2.trans ?_
      gcongr
      exact max_le one (longest row there)
    have products : Real.sqrt (n + 1) * ((n + 1) ^ 2 * unitError) * rowSize n row ≤
        1 / 128 * realValue rankTolerance * (17 / 16 * realValue (rowScale rows)) :=
      mul_le_mul coarse.product_le shorter (by linarith) (by positivity)
    have above : realValue rankTolerance ≤ realValue rankTolerance * realValue (rowScale rows) :=
      le_mul_of_one_le_right tolerancePos.le one
    have single := (coarse.errors.unit_le_product le_rfl).trans_eq (mul_one _)
    have part : unitError * (realValue rankTolerance * realValue (rowScale rows)) ≤
        1 / 1024 * (realValue rankTolerance * realValue (rowScale rows)) := by gcongr
    linarith [leastError_le, coarse.product_le]
  have empty : Frame n [] :=
    ⟨List.forall_mem_nil _, List.forall_mem_nil _, List.Pairwise.nil⟩
  simpa using empty.count_le coarse.errors n.zero_le measurable

section Diagnose

variable {leastSquares : LeastSquares} {constraints : List Constraint} {full : Array Float}
  {free : List Nat} {options : SolveOptions}

/-- Every row has a quotient for each free value. -/
theorem length_of_mem_differenceQuotients {f : RowFunction} {x : List Float} {step : Float}
    {directions : List (List Float)} (found : differenceQuotients f x step = .ok directions)
    {row : List Float} (there : row ∈ directions) : row.length = x.length := by
  unfold differenceQuotients at found
  obtain ⟨base, -, rest⟩ := bind_eq_ok.mp found
  by_cases bare : base.isEmpty
  · rw [if_pos bare] at rest
    cases rest
    cases there
  · rw [if_neg bare] at rest
    obtain ⟨columns, differenced, built⟩ := bind_eq_ok.mp rest
    cases built
    obtain ⟨place, -, rfl⟩ := List.mem_map.mp there
    rw [List.length_map, ← (mapM_eq_ok.mp differenced).length_eq, List.length_range]

end Diagnose

/-- Equalities between slots, all with one scale. -/
def equalities (scale : Float) (pairs : List (Nat × Nat)) : List Constraint :=
  pairs.zipIdx.map fun ((first, second), id) =>
    { id, kind := "equal", operands := [.scalar first, .scalar second]
      modifiers := { Modifiers.standard with scale, givenScale := .float scale }, tag := 0
      size := 1, block := (Relation.equal first second).block, owned := [], valueSlot := none }

/- Neither condition can go. Rows that overflow are not moderate: they have no tolerance to be
compared with, and each adds a direction. -/
example : (diagnose shortestCombination (equalities 1e200 [(0, 1), (0, 2)]) #[1e300, 1.0, 2.0] [0]
    .standard).toOption.map (fun d => (d.rank, d.freedom)) = some (2, -1) := by
  decide +kernel

/- A tolerance below the rounding errors is not coarse: what rounding leaves of the third row, which
is a combination of the others, adds a direction. -/
example : (diagnose shortestCombination (equalities 1.0 [(0, 1), (1, 2), (0, 2)])
    #[0.25, 0.75, 1.0] [0, 1] { SolveOptions.standard with rankTolerance := 1e-300 }).toOption.map
      (fun d => (d.rank, d.freedom)) = some (3, -1) := by
  decide +kernel

end Drafting
