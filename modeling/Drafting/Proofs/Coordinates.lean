import Drafting.Proofs.Approximation
import Drafting.Solve.Jacobian

/-!
# Lists of numbers as vectors

A list of numbers stands for a vector. Inner products, lengths, differences and quotients of finite
numbers are near those of the vectors, up to errors that are given for whole lists: a multiple of
the error of one operation for each entry.
-/

namespace Drafting

/-- A magnitude beside which the absolute error is negligible and that leaves room for errors. -/
structure InRange (size : ℝ) : Prop where
  least : leastError ≤ unitError ^ 2 * size
  greatest : 4 * size ≤ rangeBound

/-- A magnitude in range is positive. -/
theorem InRange.pos {size : ℝ} (range : InRange size) : 0 < size := by
  have positive := leastError_pos.trans_le range.least
  have square : 0 < unitError ^ 2 := pow_pos unitError_pos 2
  exact pos_of_mul_pos_right positive square.le

section Sums

/-- One more product joins a sum. -/
theorem accumulate_near {acc a b : Float} {sum total size steps : ℝ} (counted : 0 ≤ steps)
    (started : acc.isFinite) (left : a.isFinite) (right : b.isFinite) (range : InRange size)
    (few : (steps + 1) * unitError ≤ 1 / 64)
    (error : |realValue acc - sum| ≤ 5 / 4 * unitError * (steps * size + total))
    (part : |sum| ≤ total) (room : total + |realValue a * realValue b| ≤ size) :
    (acc + a * b).isFinite ∧
      |realValue (acc + a * b) - (sum + realValue a * realValue b)| ≤
        5 / 4 * unitError * ((steps + 1) * size + (total + |realValue a * realValue b|)) := by
  have positive := range.pos
  have unit := unitError_pos
  generalize exact : realValue a * realValue b = product at *
  have nonneg := abs_nonneg product
  have nonnegTotal := (abs_nonneg sum).trans part
  -- All errors are multiples of the unit error of the size.
  obtain ⟨step, stepped⟩ : ∃ step, step = unitError * size := ⟨_, rfl⟩
  have stepPositive : 0 < step := stepped ▸ mul_pos unit positive
  have several : (steps + 1) * step ≤ size / 64 := by
    rw [stepped, ← mul_assoc]
    linarith [mul_le_mul_of_nonneg_right few positive.le]
  have some : 0 ≤ steps * step := by positivity
  have parts : unitError * total + unitError * |product| ≤ step := by
    rw [← mul_add, stepped]
    gcongr
  have least : leastError ≤ step / 64 := by
    have small : unitError ≤ 1 / 64 := by
      linarith [mul_nonneg counted unit.le]
    calc leastError ≤ unitError ^ 2 * size := range.least
      _ = unitError * step := by rw [stepped]; ring
      _ ≤ 1 / 64 * step := by gcongr
      _ = step / 64 := by ring
  have before : |realValue acc - sum| ≤ 5 / 4 * (steps * step + unitError * total) := by
    rw [stepped]
    linarith
  have totalNonneg : 0 ≤ unitError * total := by positivity
  have productNonneg : 0 ≤ unitError * |product| := by positivity
  obtain ⟨finiteProduct, multiplied⟩ : Near (a * b) product := by
    rw [← exact]
    refine mul_near left right ?_
    rw [exact]
    linarith [range.greatest]
  have sumBound : |realValue acc + realValue (a * b)| ≤ 17 / 16 * size := by
    have split : realValue acc + realValue (a * b) =
        (realValue acc - sum) + (sum + product) + (realValue (a * b) - product) := by ring
    rw [split]
    linarith [abs_add_three (realValue acc - sum) (sum + product) (realValue (a * b) - product),
      abs_add_le sum product]
  obtain ⟨finiteSum, added⟩ := add_near started finiteProduct
    (sumBound.trans (by linarith [range.greatest]))
  refine ⟨finiteSum, ?_⟩
  have rounded : unitError * |realValue acc + realValue (a * b)| ≤ 17 / 16 * step := by
    rw [stepped]
    linarith [mul_le_mul_of_nonneg_left sumBound unit.le]
  have split : realValue (acc + a * b) - (sum + product) =
      (realValue (acc + a * b) - (realValue acc + realValue (a * b))) + (realValue acc - sum) +
        (realValue (a * b) - product) := by ring
  rw [split]
  have goal : 5 / 4 * unitError * ((steps + 1) * size + (total + |product|)) =
      5 / 4 * (steps * step + step + unitError * total + unitError * |product|) := by
    rw [stepped]
    ring
  rw [goal]
  linarith [abs_add_three (realValue (acc + a * b) - (realValue acc + realValue (a * b)))
    (realValue acc - sum) (realValue (a * b) - product)]

/-- What the products of the entries of two lists sum to. -/
noncomputable def exactProduct (u v : List Float) : ℝ :=
  (List.zipWith (fun a b => realValue a * realValue b) u v).sum

/-- What the magnitudes of the products of the entries of two lists sum to. -/
noncomputable def exactMagnitude (u v : List Float) : ℝ :=
  (List.zipWith (fun a b => |realValue a * realValue b|) u v).sum

/-- The products of the entries of two lists join a sum, one after the other. -/
theorem foldl_accumulate_near {size : ℝ} (range : InRange size) {u v : List Float}
    (same : u.length = v.length) (left : ∀ x ∈ u, x.isFinite) (right : ∀ x ∈ v, x.isFinite)
    {acc : Float} {sum total steps : ℝ} (counted : 0 ≤ steps) (started : acc.isFinite)
    (few : (steps + u.length + 1) * unitError ≤ 1 / 64)
    (error : |realValue acc - sum| ≤ 5 / 4 * unitError * (steps * size + total))
    (part : |sum| ≤ total) (room : total + exactMagnitude u v ≤ size) :
    ((List.zipWith (· * ·) u v).foldl (· + ·) acc).isFinite ∧
      |realValue ((List.zipWith (· * ·) u v).foldl (· + ·) acc) - (sum + exactProduct u v)| ≤
        5 / 4 * unitError * ((steps + u.length) * size + (total + exactMagnitude u v)) := by
  have unit := unitError_pos
  induction u generalizing v acc sum total steps with
  | nil =>
    refine ⟨started, ?_⟩
    simpa [exactProduct, exactMagnitude] using error
  | cons a u ih =>
    cases v with
    | nil => cases same
    | cons b v =>
      have magnitudes : exactMagnitude (a :: u) (b :: v) =
        |realValue a * realValue b| + exactMagnitude u v := List.sum_cons
      have products : exactProduct (a :: u) (b :: v) =
        realValue a * realValue b + exactProduct u v := List.sum_cons
      have rest : 0 ≤ exactMagnitude u v := by
        refine List.sum_nonneg fun x there => ?_
        obtain ⟨i, inside, rfl⟩ := List.getElem_of_mem there
        rw [List.getElem_zipWith]
        exact abs_nonneg _
      rw [List.length_cons, Nat.cast_succ] at few
      rw [magnitudes, ← add_assoc] at room
      have others : (0 : ℝ) ≤ u.length * unitError := by positivity
      have next : (steps + 1) * unitError ≤ 1 / 64 := by linarith
      have fewer : (steps + 1 + u.length + 1) * unitError ≤ 1 / 64 := by linarith
      obtain ⟨finite, near⟩ := accumulate_near counted started (left a List.mem_cons_self)
        (right b List.mem_cons_self) range next error part (by linarith)
      have larger : |sum + realValue a * realValue b| ≤ total + |realValue a * realValue b| :=
        (abs_add_le _ _).trans (by linarith)
      obtain ⟨ends, bound⟩ := ih (Nat.succ_injective same)
        (fun x there => left x (List.mem_cons_of_mem a there))
        (fun x there => right x (List.mem_cons_of_mem b there)) (by linarith) finite fewer near
        larger room
      refine ⟨ends, ?_⟩
      rw [products, magnitudes, List.length_cons, Nat.cast_succ]
      calc _ = _ := by rw [← add_assoc]; rfl
        _ ≤ _ := bound
        _ = _ := by ring

/-- An inner product is near the exact one: the error is a multiple of the unit error for each
entry. -/
theorem innerProduct_near {size : ℝ} (range : InRange size) {u v : List Float}
    (same : u.length = v.length) (left : ∀ x ∈ u, x.isFinite) (right : ∀ x ∈ v, x.isFinite)
    (few : (u.length + 1) * unitError ≤ 1 / 64) (room : exactMagnitude u v ≤ size) :
    (innerProduct u v).isFinite ∧
      |realValue (innerProduct u v) - exactProduct u v| ≤
        5 / 4 * ((u.length + 1) * unitError) * size := by
  have start : (0.0 : Float).isFinite := by decide +kernel
  obtain ⟨finite, near⟩ := @foldl_accumulate_near size range u v same left right 0.0 0 0 0 le_rfl
    start (by linarith) (by rw [realValue_zero]; simp) (by simp) (by linarith)
  refine ⟨finite, ?_⟩
  rw [zero_add, zero_add, zero_add] at near
  have unit := unitError_pos
  calc _ ≤ 5 / 4 * unitError * (u.length * size + exactMagnitude u v) := near
    _ ≤ 5 / 4 * unitError * (u.length * size + size) := by gcongr
    _ = _ := by ring

end Sums

/-- A list of a given length of finite numbers. -/
structure FiniteVector (n : ℕ) (v : List Float) : Prop where
  length_eq : v.length = n
  finite : ∀ x ∈ v, x.isFinite

/-- The vector that a list of numbers stands for. -/
noncomputable def coordinates (n : ℕ) (v : List Float) : EuclideanSpace ℝ (Fin n) :=
  WithLp.toLp _ fun i => realValue (v.getD i 0.0)

section Vectors

variable {n : ℕ} {u v : List Float}

/-- A coordinate is what the entry stands for, zero beyond the list. -/
@[simp]
theorem coordinates_apply (i : Fin n) : coordinates n v i = realValue (v.getD i 0.0) := rfl

/-- A sum over two lists is a sum over their places. -/
theorem sum_zipWith (f : Float → Float → ℝ) (left : u.length = n) (right : v.length = n) :
    (List.zipWith f u v).sum = ∑ i : Fin n, f (u.getD i 0.0) (v.getD i 0.0) := by
  induction n generalizing u v with
  | zero =>
    rw [List.length_eq_zero_iff.mp left]
    rfl
  | succ n ih =>
    obtain ⟨a, u, rfl⟩ := List.exists_cons_of_length_eq_add_one left
    obtain ⟨b, v, rfl⟩ := List.exists_cons_of_length_eq_add_one right
    rw [List.zipWith_cons_cons, List.sum_cons, ih (Nat.succ_injective left)
      (Nat.succ_injective right), Fin.sum_univ_succ]
    rfl

/-- What the products sum to is the inner product of the vectors. -/
theorem exactProduct_eq (left : u.length = n) (right : v.length = n) :
    exactProduct u v = inner ℝ (coordinates n u) (coordinates n v) := by
  rw [exactProduct, sum_zipWith _ left right, PiLp.inner_apply]
  exact Finset.sum_congr rfl fun i _ => mul_comm _ _

/-- What the magnitudes sum to is at most the product of the lengths. -/
theorem exactMagnitude_le (left : u.length = n) (right : v.length = n) :
    exactMagnitude u v ≤ ‖coordinates n u‖ * ‖coordinates n v‖ := by
  rw [exactMagnitude, sum_zipWith _ left right, EuclideanSpace.norm_eq, EuclideanSpace.norm_eq]
  simp only [abs_mul]
  exact Real.sum_mul_le_sqrt_mul_sqrt _ _ _

/-- Vectors with smaller entries are shorter. -/
theorem norm_le_of_entries_le {x y : EuclideanSpace ℝ (Fin n)} (smaller : ∀ i, |x i| ≤ |y i|) :
    ‖x‖ ≤ ‖y‖ := by
  rw [EuclideanSpace.norm_eq, EuclideanSpace.norm_eq]
  exact Real.sqrt_le_sqrt (Finset.sum_le_sum fun i _ =>
    pow_le_pow_left₀ (abs_nonneg _) (smaller i) 2)

/-- The length of a vector with equal entries. -/
theorem norm_constant_le {c : ℝ} (nonneg : 0 ≤ c) :
    ‖(WithLp.toLp 2 fun _ => c : EuclideanSpace ℝ (Fin n))‖ ≤ n * c := by
  rw [EuclideanSpace.norm_eq]
  simp only [Real.norm_eq_abs, sq_abs, Finset.sum_const, Finset.card_univ, Fintype.card_fin,
    nsmul_eq_mul]
  refine Real.sqrt_le_iff.mpr ⟨by positivity, ?_⟩
  rw [mul_pow]
  gcongr
  exact_mod_cast Nat.le_self_pow two_ne_zero n

/-- Bounds on the entries of a vector bound its length. -/
theorem norm_le_of_entries {x y z : EuclideanSpace ℝ (Fin n)} {a b c : ℝ} (aNonneg : 0 ≤ a)
    (bNonneg : 0 ≤ b) (cNonneg : 0 ≤ c) (bound : ∀ i, |x i| ≤ a * |y i| + b * |z i| + c) :
    ‖x‖ ≤ a * ‖y‖ + b * ‖z‖ + n * c := by
  let magnitudes (v : EuclideanSpace ℝ (Fin n)) : EuclideanSpace ℝ (Fin n) :=
    WithLp.toLp 2 fun i => |v i|
  have same (v : EuclideanSpace ℝ (Fin n)) : ‖magnitudes v‖ ≤ ‖v‖ :=
    norm_le_of_entries_le fun i => (abs_abs (v i)).le
  let constant : EuclideanSpace ℝ (Fin n) := WithLp.toLp 2 fun _ => c
  calc ‖x‖ ≤ ‖a • magnitudes y + b • magnitudes z + constant‖ :=
        norm_le_of_entries_le fun i => (bound i).trans (le_abs_self _)
    _ ≤ ‖a • magnitudes y‖ + ‖b • magnitudes z‖ + ‖constant‖ := norm_add₃_le
    _ = a * ‖magnitudes y‖ + b * ‖magnitudes z‖ + ‖constant‖ := by
        rw [norm_smul_of_nonneg aNonneg, norm_smul_of_nonneg bNonneg]
    _ ≤ a * ‖y‖ + b * ‖z‖ + n * c := by
        gcongr
        · exact same y
        · exact same z
        · exact norm_constant_le cNonneg

/-- An entry is at most as great as the vector is long. -/
theorem abs_entry_le (i : Fin n) : |realValue (v.getD i 0.0)| ≤ ‖coordinates n v‖ :=
  PiLp.norm_apply_le (coordinates n v) i

/-- An entry of a list of finite numbers is finite. -/
theorem FiniteVector.entry (vector : FiniteVector n v) (i : Fin n) : (v.getD i 0.0).isFinite := by
  have inside : i.val < v.length := vector.length_eq ▸ i.isLt
  rw [List.getD_eq_getElem v 0.0 inside]
  exact vector.finite _ (List.getElem_mem inside)

/-- The entries of a list that is made from two others. -/
theorem getD_zipWith (f : Float → Float → Float) (left : u.length = n) (right : v.length = n)
    (i : Fin n) :
    (List.zipWith f u v).getD i 0.0 = f (u.getD i 0.0) (v.getD i 0.0) := by
  have inU : i.val < u.length := left ▸ i.isLt
  have inV : i.val < v.length := right ▸ i.isLt
  have inside : i.val < (List.zipWith f u v).length := by
    rw [List.length_zipWith]
    exact lt_min inU inV
  rw [List.getD_eq_getElem _ _ inside, List.getD_eq_getElem _ _ inU, List.getD_eq_getElem _ _ inV,
    List.getElem_zipWith]

/-- A list with finite entries is a list of finite numbers. -/
theorem FiniteVector.of_entries (length : v.length = n)
    (entries : ∀ i : Fin n, (v.getD i 0.0).isFinite) : FiniteVector n v := by
  refine ⟨length, fun x there => ?_⟩
  obtain ⟨i, inside, rfl⟩ := List.getElem_of_mem there
  have entry := entries ⟨i, length ▸ inside⟩
  rwa [List.getD_eq_getElem v 0.0 inside] at entry

/-- A multiple of a number is taken away from another. -/
theorem subtract_near {a b factor : Float} (left : a.isFinite) (right : b.isFinite)
    (finite : factor.isFinite)
    (bounded : 4 * (|realValue a| + |realValue factor * realValue b|) ≤ rangeBound) :
    (a - factor * b).isFinite ∧
      |realValue (a - factor * b) - (realValue a - realValue factor * realValue b)| ≤
        unitError * |realValue a| + 3 * unitError * |realValue factor * realValue b| +
          3 * leastError := by
  have unit := unitError_pos
  have least := leastError_pos
  have small : unitError ≤ 1 := by linarith [unitError_le]
  have absolute : leastError ≤ 1 := by linarith [leastError_le]
  have wide := four_le_rangeBound
  generalize exact : realValue factor * realValue b = product at *
  have nonneg := abs_nonneg product
  have part : unitError * |product| ≤ |product| := mul_le_of_le_one_left nonneg small
  obtain ⟨finiteProduct, multiplied⟩ : Near (factor * b) product := by
    rw [← exact]
    refine mul_near finite right ?_
    rw [exact]
    linarith [abs_nonneg (realValue a)]
  have difference : |realValue a - realValue (factor * b)| ≤
      |realValue a| + 2 * |product| + leastError := by
    have split : realValue a - realValue (factor * b) =
        realValue a - product - (realValue (factor * b) - product) := by ring
    rw [split]
    linarith [abs_sub (realValue a - product) (realValue (factor * b) - product),
      abs_sub (realValue a) product]
  obtain ⟨finiteResult, subtracted⟩ := sub_near left finiteProduct
    (by linarith [abs_nonneg (realValue a)])
  refine ⟨finiteResult, ?_⟩
  have rounded : unitError * |realValue a - realValue (factor * b)| ≤
      unitError * |realValue a| + 2 * (unitError * |product|) + leastError := by
    have scaled := mul_le_mul_of_nonneg_left difference unit.le
    linarith [mul_le_of_le_one_left least.le small]
  have split : realValue (a - factor * b) - (realValue a - product) =
      realValue (a - factor * b) - (realValue a - realValue (factor * b)) -
        (realValue (factor * b) - product) := by ring
  rw [split]
  linarith [abs_sub (realValue (a - factor * b) - (realValue a - realValue (factor * b)))
    (realValue (factor * b) - product)]

/-- A multiple of a vector is taken away from another. -/
theorem subtractMultiple_near (left : FiniteVector n v) (right : FiniteVector n u) {factor : Float}
    (finite : factor.isFinite)
    (bounded : 4 * (‖coordinates n v‖ + |realValue factor| * ‖coordinates n u‖) ≤ rangeBound) :
    FiniteVector n (subtractMultiple v factor u) ∧
      ‖coordinates n (subtractMultiple v factor u) -
        (coordinates n v - realValue factor • coordinates n u)‖ ≤
        unitError * ‖coordinates n v‖ + 3 * unitError * (|realValue factor| * ‖coordinates n u‖) +
          n * (3 * leastError) := by
  have entry (i : Fin n) := @subtract_near (v.getD i 0.0) (u.getD i 0.0) factor (left.entry i)
    (right.entry i) finite (by
      rw [abs_mul]
      have first := abs_entry_le (v := v) i
      have second := mul_le_mul_of_nonneg_left (abs_entry_le (v := u) i)
        (abs_nonneg (realValue factor))
      linarith)
  have places (i : Fin n) : (subtractMultiple v factor u).getD i 0.0 =
      v.getD i 0.0 - factor * u.getD i 0.0 :=
    getD_zipWith (fun a b => a - factor * b) left.length_eq right.length_eq i
  refine ⟨FiniteVector.of_entries ?_ fun i => places i ▸ (entry i).1, ?_⟩
  · rw [subtractMultiple, List.length_zipWith, left.length_eq, right.length_eq, min_self]
  have unit := unitError_pos
  have least := leastError_pos
  have scaled : |realValue factor| * ‖coordinates n u‖ = ‖realValue factor • coordinates n u‖ := by
    rw [norm_smul, Real.norm_eq_abs]
  rw [scaled]
  refine norm_le_of_entries unit.le (by positivity) (by positivity) fun i => ?_
  show |realValue ((subtractMultiple v factor u).getD i 0.0) - (realValue (v.getD i 0.0) -
    realValue factor * realValue (u.getD i 0.0))| ≤ _
  rw [places i]
  exact (entry i).2

/-- What is not below zero stands for what is not below zero. -/
theorem realValue_nonneg {x : Float} (above : NotBelow x.toModel.unpack) : 0 ≤ realValue x := by
  show (0 : ℝ) ≤ unpackedValue x.toModel.unpack
  rw [Rat.cast_nonneg]
  generalize x.toModel.unpack = number at above
  rcases number with _ | _ | _ | ⟨⟨⟩, m, e, positive⟩
  · exact le_rfl
  · exact le_rfl
  · exact le_rfl
  · cases above
  · show 0 ≤ signFactor .positive * m * 2 ^ e
    rw [signFactor]
    positivity

/-- A sum of squares is not below zero. -/
theorem innerProduct_self_nonneg (v : List Float) : 0 ≤ realValue (innerProduct v v) := by
  refine realValue_nonneg ?_
  unfold innerProduct
  have sums (acc : Float) (above : NotBelow acc.toModel.unpack) :
      NotBelow ((List.zipWith (· * ·) v v).foldl (· + ·) acc).toModel.unpack := by
    induction v generalizing acc with
    | nil => exact above
    | cons x v ih =>
      exact ih _ (pack_not_below (add_not_below above (pack_not_below (mul_self_not_below _))))
  exact sums 0.0 (by rw [unpack_zero]; rfl)

/-- Lengths below this one are measured up to an absolute error only. -/
noncomputable def tinyLength : ℝ := unitError ^ 9

/-- Tiny lengths are positive. -/
theorem tinyLength_pos : 0 < tinyLength := pow_pos unitError_pos 9

/-- A tiny length is far below the errors. -/
theorem tinyLength_le : tinyLength ≤ unitError ^ 2 :=
  pow_le_pow_of_le_one unitError_pos.le (by linarith [unitError_le]) (by norm_num)

/-- The absolute error is far below the tiny length. -/
theorem leastError_le_tiny : leastError ≤ unitError * tinyLength := by
  calc leastError ≤ unitError ^ 10 := leastError_le_pow (by norm_num)
    _ = unitError * tinyLength := pow_succ' unitError 9

/-- A tiny length is small itself. -/
theorem tinyLength_le_unit : tinyLength ≤ unitError :=
  pow_le_of_le_one unitError_pos.le (by linarith [unitError_le]) (by norm_num)

/-- Square roots of close numbers are close. -/
theorem abs_sqrt_sub_le {s l d : ℝ} (nonneg : 0 ≤ s) (positive : 0 < l)
    (close : |s - l ^ 2| ≤ d * l) : |Real.sqrt s - l| ≤ d := by
  refine le_of_mul_le_mul_right ?_ positive
  calc |Real.sqrt s - l| * l ≤ |Real.sqrt s - l| * (Real.sqrt s + l) := by
        gcongr
        exact le_add_of_nonneg_left (Real.sqrt_nonneg s)
    _ = |s - l ^ 2| := by
        rw [← abs_of_pos (add_pos_of_nonneg_of_pos (Real.sqrt_nonneg s) positive), ← abs_mul]
        congr 1
        linarith [Real.sq_sqrt nonneg, show (Real.sqrt s - l) * (Real.sqrt s + l) =
          Real.sqrt s ^ 2 - l ^ 2 by ring]
    _ ≤ d * l := close

/-- Sizes from the square of the tiny length on are in range, up to a bound. -/
theorem inRange_of_tiny {size : ℝ} (least : tinyLength ^ 2 ≤ size)
    (greatest : 4 * size ≤ rangeBound) : InRange size := by
  refine ⟨le_trans ?_ (mul_le_mul_of_nonneg_left least (sq_nonneg _)), greatest⟩
  calc leastError ≤ unitError ^ 20 := leastError_le_pow le_rfl
    _ = unitError ^ 2 * tinyLength ^ 2 := by
        unfold tinyLength
        ring

/-- The square of the tiny length is in range. -/
theorem inRange_tiny : InRange (tinyLength ^ 2) := by
  refine inRange_of_tiny le_rfl ?_
  have small : tinyLength ≤ 1 := by linarith [tinyLength_le_unit, unitError_le]
  linarith [pow_le_one₀ tinyLength_pos.le small (n := 2), four_le_rangeBound]

section Roots

variable {relative s length root : ℝ} (unitLe : unitError ≤ relative) (small : relative ≤ 1 / 64)
  (rounded : |root - Real.sqrt s| ≤ unitError * Real.sqrt s + leastError)
include unitLe small rounded

/-- The rounded root of what is close to a square is close to the length. -/
theorem rounded_root_near (nonneg : 0 ≤ s) (positive : 0 < length)
    (close : |s - length ^ 2| ≤ 5 / 4 * relative * length ^ 2) :
    |root - length| ≤ 3 * relative * length + leastError := by
  have unit := unitError_pos
  have near : |Real.sqrt s - length| ≤ 5 / 4 * relative * length :=
    abs_sqrt_sub_le nonneg positive (close.trans_eq (by ring))
  have part : 0 ≤ relative * length := mul_nonneg (unit.le.trans unitLe) positive.le
  have units : unitError * length ≤ relative * length := by gcongr
  have products : unitError * (relative * length) ≤ 1 / 64 * (relative * length) := by
    gcongr
    linarith
  have bound : unitError * Real.sqrt s ≤ unitError * (length + 5 / 4 * relative * length) := by
    gcongr
    linarith [(abs_le.mp near).2]
  linarith [abs_sub_le root (Real.sqrt s) length]

/-- The rounded root of what is close to the square of a tiny length is as tiny. -/
theorem rounded_root_tiny (nonneg : 0 ≤ length) (tiny : length ≤ tinyLength)
    (close : |s - length ^ 2| ≤ 5 / 4 * relative * tinyLength ^ 2) :
    |root - length| ≤ 2 * tinyLength := by
  have unit := unitError_pos
  have tinyPos := tinyLength_pos
  have square : length ^ 2 ≤ tinyLength ^ 2 := pow_le_pow_left₀ nonneg tiny 2
  have part : relative * tinyLength ^ 2 ≤ 1 / 64 * tinyLength ^ 2 := by gcongr
  have upper : Real.sqrt s ≤ 3 / 2 * tinyLength := by
    refine Real.sqrt_le_iff.mpr ⟨by positivity, ?_⟩
    rw [mul_pow]
    linarith [(abs_le.mp close).2, sq_nonneg tinyLength]
  have near : |Real.sqrt s - length| ≤ 3 / 2 * tinyLength :=
    abs_le.mpr ⟨by linarith [Real.sqrt_nonneg s], by linarith⟩
  have error : unitError * Real.sqrt s ≤ unitError * (3 / 2 * tinyLength) := by gcongr
  have units : unitError * tinyLength ≤ 1 / 64 * tinyLength := by
    gcongr
    exact unitLe.trans small
  linarith [abs_sub_le root (Real.sqrt s) length, leastError_le_tiny]

end Roots

/-- The length of a vector is near the exact one. -/
theorem vectorNorm_near (vector : FiniteVector n v) (few : (n + 1) * unitError ≤ 1 / 64)
    (bounded : 4 * ‖coordinates n v‖ ^ 2 ≤ rangeBound) :
    (vectorNorm v).isFinite ∧ |realValue (vectorNorm v) - ‖coordinates n v‖| ≤
      3 * ((n + 1) * unitError) * ‖coordinates n v‖ + 2 * tinyLength := by
  have unit := unitError_pos
  have tiny := tinyLength_pos
  have unitLe : unitError ≤ (n + 1) * unitError :=
    le_mul_of_one_le_left unit.le (by linarith [(n.cast_nonneg : (0 : ℝ) ≤ n)])
  have squared := innerProduct_self_nonneg v
  have exact : exactProduct v v = ‖coordinates n v‖ ^ 2 := by
    rw [exactProduct_eq vector.length_eq vector.length_eq, real_inner_self_eq_norm_sq]
  have room : exactMagnitude v v ≤ ‖coordinates n v‖ ^ 2 := by
    rw [sq]
    exact exactMagnitude_le vector.length_eq vector.length_eq
  -- What is near the square of the length within a size has a root that is finite.
  have measured (size : ℝ) (range : InRange size) (within : ‖coordinates n v‖ ^ 2 ≤ size) :
      |realValue (innerProduct v v) - ‖coordinates n v‖ ^ 2| ≤
          5 / 4 * ((n + 1) * unitError) * size ∧ (vectorNorm v).isFinite ∧
        |realValue (vectorNorm v) - Real.sqrt (realValue (innerProduct v v))| ≤
          unitError * Real.sqrt (realValue (innerProduct v v)) + leastError := by
    obtain ⟨finite, close⟩ := innerProduct_near range rfl vector.finite vector.finite
      (by rwa [vector.length_eq]) (room.trans within)
    rw [vector.length_eq, exact] at close
    have part := mul_le_mul_of_nonneg_right few range.pos.le
    obtain ⟨finiteRoot, rounded⟩ := sqrt_near finite squared (by
      linarith [(abs_le.mp close).2, range.greatest, range.pos])
    rw [abs_of_nonneg (Real.sqrt_nonneg _)] at rounded
    exact ⟨close, finiteRoot, rounded⟩
  by_cases large : tinyLength ≤ ‖coordinates n v‖
  · have square : tinyLength ^ 2 ≤ ‖coordinates n v‖ ^ 2 := pow_le_pow_left₀ tiny.le large 2
    obtain ⟨close, finite, rounded⟩ := measured _ (inRange_of_tiny square bounded) le_rfl
    have near := rounded_root_near unitLe few rounded squared (tiny.trans_le large) close
    have units := mul_le_mul_of_nonneg_right (unitLe.trans few) tiny.le
    exact ⟨finite, by linarith [leastError_le_tiny]⟩
  · have small : ‖coordinates n v‖ ≤ tinyLength := (not_le.mp large).le
    obtain ⟨close, finite, rounded⟩ :=
      measured _ inRange_tiny (pow_le_pow_left₀ (norm_nonneg _) small 2)
    have near := rounded_root_tiny unitLe few rounded (norm_nonneg _) small close
    have rest : 0 ≤ 3 * ((n + 1) * unitError) * ‖coordinates n v‖ := by positivity
    exact ⟨finite, by linarith⟩

/-- The entries of a list that is made from another. -/
theorem getD_map (f : Float → Float) (length : v.length = n) (i : Fin n) :
    (v.map f).getD i 0.0 = f (v.getD i 0.0) := by
  have inside : i.val < v.length := length ▸ i.isLt
  have insideMap : i.val < (v.map f).length := by rwa [List.length_map]
  rw [List.getD_eq_getElem _ _ insideMap, List.getD_eq_getElem _ _ inside, List.getElem_map]

/-- A vector is divided by a number that is not small beside its length. -/
theorem divided_near (vector : FiniteVector n v) {divisor : Float} (finite : divisor.isFinite)
    (positive : 0 < realValue divisor) (great : ‖coordinates n v‖ ≤ 2 * realValue divisor) :
    FiniteVector n (v.map (· / divisor)) ∧
      ‖coordinates n (v.map (· / divisor)) - (realValue divisor)⁻¹ • coordinates n v‖ ≤
        unitError * ‖(realValue divisor)⁻¹ • coordinates n v‖ + n * leastError := by
  have unit := unitError_pos
  have least := leastError_pos
  have wide : 2 ≤ rangeBound := by linarith [four_le_rangeBound]
  have entry (i : Fin n) := div_near (vector.entry i) finite positive.ne' (by
    rw [abs_div, abs_of_pos positive]
    exact ((div_le_iff₀ positive).mpr ((abs_entry_le i).trans great)).trans wide)
  have places (i : Fin n) := getD_map (· / divisor) vector.length_eq i
  refine ⟨FiniteVector.of_entries ?_ fun i => places i ▸ (entry i).1, ?_⟩
  · rw [List.length_map, vector.length_eq]
  have bound := @norm_le_of_entries n (coordinates n (v.map (· / divisor)) -
    (realValue divisor)⁻¹ • coordinates n v) ((realValue divisor)⁻¹ • coordinates n v) 0 unitError 0
    leastError unit.le le_rfl least.le
  rw [zero_mul, add_zero] at bound
  refine bound fun i => ?_
  show |realValue ((v.map (· / divisor)).getD i 0.0) -
    (realValue divisor)⁻¹ * realValue (v.getD i 0.0)| ≤
      unitError * |(realValue divisor)⁻¹ * realValue (v.getD i 0.0)| + 0 * |0| + leastError
  rw [places i, inv_mul_eq_div, zero_mul, add_zero]
  exact (entry i).2

end Vectors

end Drafting
