import Drafting.Proofs.Coordinates
import Drafting.Proofs.OrthogonalSweeps
import Drafting.Solve.Orthogonal

/-!
# Directions that are kept are nearly orthonormal

Taking the orthogonal part of a row is a sweep along the directions kept so far, with errors that
are small beside the size of the row. A row adds a direction only if what two sweeps leave is longer
than the tolerance. If the tolerance is coarse beside the errors, the direction that is added is
nearly orthogonal to the others, and so there are never more directions than entries.
-/

namespace Drafting

section Sweeps

variable {n : ℕ} {root size : ℝ} (errors : SweepErrors unitError (n + 1) root)
  (least : tinyLength ^ 2 ≤ size) (greatest : 16 * size ≤ rangeBound)
include errors least greatest

/-- One direction is taken from a vector. -/
theorem subtractComponent_near {q w : List Float} (direction : FiniteVector n q)
    (vector : FiniteVector n w) (unit : ‖coordinates n q‖ ≤ 17 / 16)
    (bounded : ‖coordinates n w‖ ≤ 17 / 16 * size) :
    FiniteVector n (subtractMultiple w (innerProduct q w) q) ∧
      |realValue (innerProduct q w) - inner ℝ (coordinates n q) (coordinates n w)| ≤
        3 / 2 * ((n + 1) * unitError) * size ∧
      ‖coordinates n (subtractMultiple w (innerProduct q w) q) -
        (coordinates n w - realValue (innerProduct q w) • coordinates n q)‖ ≤
        5 * unitError * size := by
  have positive : 0 < size := (pow_pos tinyLength_pos 2).trans_le least
  have relative := errors.count_mul_unit_le
  have unitPos := unitError_pos
  have product : ‖coordinates n q‖ * ‖coordinates n w‖ ≤ 17 / 16 * (17 / 16 * size) :=
    mul_le_mul unit bounded (norm_nonneg _) (by norm_num)
  have range : InRange (6 / 5 * size) := inRange_of_tiny (by linarith) (by linarith)
  obtain ⟨finite, component⟩ := innerProduct_near range
    (direction.length_eq.trans vector.length_eq.symm) direction.finite vector.finite
    (by rw [direction.length_eq]; linarith)
    ((exactMagnitude_le direction.length_eq vector.length_eq).trans (by linarith))
  rw [direction.length_eq, exactProduct_eq direction.length_eq vector.length_eq] at component
  have scaled := mul_le_mul_of_nonneg_right relative positive.le
  have coefficient : |realValue (innerProduct q w)| ≤ 1131 / 1000 * size := by
    have exact := abs_real_inner_le_norm (coordinates n q) (coordinates n w)
    linarith [abs_sub_abs_le_abs_sub (realValue (innerProduct q w))
      (inner ℝ (coordinates n q) (coordinates n w))]
  have multiple : |realValue (innerProduct q w)| * ‖coordinates n q‖ ≤ 121 / 100 * size := by
    have bound := mul_le_mul coefficient unit (norm_nonneg _) (by positivity)
    linarith
  obtain ⟨left, difference⟩ := subtractMultiple_near vector direction finite (by linarith)
  refine ⟨left, component.trans_eq (by ring), difference.trans ?_⟩
  have absolute : n * (3 * leastError) ≤ 3 / 1024 * (unitError * size) := by
    have few : n * unitError ≤ 1 / 1024 := by linarith
    have tiny := mul_le_mul_of_nonneg_left (inRange_of_tiny least (by linarith)).least
      (n.cast_nonneg : (0 : ℝ) ≤ n)
    have expanded : n * (unitError ^ 2 * size) = n * unitError * (unitError * size) := by ring
    have bound : n * unitError * (unitError * size) ≤ 1 / 1024 * (unitError * size) := by gcongr
    linarith
  have first := mul_le_mul_of_nonneg_left bounded unitPos.le
  have second := mul_le_mul_of_nonneg_left multiple unitPos.le
  have rest : 0 ≤ unitError * size := by positivity
  linarith

/-- What is left of a direction beside some others is what a sweep along them leaves. -/
theorem orthogonalPart_sweep {basis : List (List Float)} {w : List Float}
    (directions : ∀ q ∈ basis, FiniteVector n q ∧ ‖coordinates n q‖ ≤ 17 / 16)
    (vector : FiniteVector n w)
    (bounded : ‖coordinates n w‖ + basis.length *
      (17 / 16 * (3 / 2 * ((n + 1) * unitError) * size) + 5 * unitError * size) ≤
        17 / 16 * size) :
    FiniteVector n (orthogonalPart basis w) ∧ ∃ coefficients,
      Sweep (3 / 2 * ((n + 1) * unitError) * size) (5 * unitError * size)
        (basis.map (coordinates n)) coefficients (coordinates n w)
        (coordinates n (orthogonalPart basis w)) := by
  have positive : 0 < size := (pow_pos tinyLength_pos 2).trans_le least
  have unitPos := unitError_pos
  induction basis generalizing w with
  | nil => exact ⟨vector, [], .nil _⟩
  | cons q basis ih =>
    obtain ⟨⟨direction, unit⟩, others⟩ := List.forall_mem_cons.mp directions
    rw [List.length_cons, Nat.cast_succ] at bounded
    have margin : 0 ≤ (basis.length + 1) *
        (17 / 16 * (3 / 2 * ((n + 1) * unitError) * size) + 5 * unitError * size) := by positivity
    obtain ⟨left, component, difference⟩ := subtractComponent_near errors least greatest direction
      vector unit (by linarith)
    have grown := norm_next_le component difference unit
    obtain ⟨ends, coefficients, sweep⟩ := ih others left (by linarith)
    exact ⟨ends, _ :: coefficients, .cons component difference sweep⟩

end Sweeps

/-- The directions kept so far are nearly orthonormal. -/
structure Frame (n : ℕ) (basis : List (List Float)) : Prop where
  vectors : ∀ q ∈ basis, FiniteVector n q
  nearly : NearlyOrthonormal (16 * ((n + 1) * unitError)) (basis.map (coordinates n))

/-- A length that is not within the tolerance is at least a bound. -/
def Exceeds (tolerance : Float) (bound : ℝ) : Prop :=
  ∀ norm : Float, norm.isFinite → ¬norm ≤ tolerance → bound ≤ realValue norm

/-- A direction that is kept is that of what two sweeps leave, which is longer than the
tolerance. -/
theorem newDirection_eq_some {tolerance : Float} {basis : List (List Float)} {row unit : List Float}
    (kept : newDirection tolerance basis row = some unit) :
    ∃ rest, orthogonalPart basis (orthogonalPart basis row) = rest ∧
      ¬vectorNorm rest ≤ tolerance ∧ unit = rest.map (· / vectorNorm rest) := by
  refine ⟨_, rfl, ?_⟩
  unfold newDirection at kept
  dsimp only at kept
  by_cases short : vectorNorm (orthogonalPart basis (orthogonalPart basis row)) ≤ tolerance
  · rw [if_pos short] at kept
    cases kept
  · rw [if_neg short] at kept
    exact ⟨short, (Option.some.inj kept).symm⟩

section Frames

variable {n : ℕ} {root : ℝ} (errors : SweepErrors unitError (n + 1) root)
include errors

/-- A frame has no more directions than entries. -/
theorem Frame.length_le {basis : List (List Float)} (frame : Frame n basis)
    (few : basis.length ≤ n + 1) : basis.length ≤ n := by
  have relative := errors.small
  have unitPos := unitError_pos
  have squared : ((n : ℝ) + 1) * (16 * ((n + 1) * unitError)) < 1 := by
    have expanded : ((n : ℝ) + 1) * (16 * ((n + 1) * unitError)) =
      16 * ((n + 1) ^ 2 * unitError) := by ring
    linarith
  have small : (basis.map (coordinates n)).length * (16 * ((n + 1) * unitError)) < 1 := by
    refine lt_of_le_of_lt ?_ squared
    rw [List.length_map]
    gcongr
    exact_mod_cast few
  have bound := frame.nearly.length_le small
  rwa [List.length_map, finrank_euclideanSpace_fin] at bound

/-- What is left of a vector beside a frame is what a sweep leaves, and is hardly longer. -/
theorem Frame.sweep {basis : List (List Float)} (frame : Frame n basis)
    (few : basis.length ≤ n) {v : List Float} {size : ℝ} (vector : FiniteVector n v)
    (bounded : ‖coordinates n v‖ ≤ size) (least : tinyLength ^ 2 ≤ size)
    (greatest : 16 * size ≤ rangeBound) :
    FiniteVector n (orthogonalPart basis v) ∧
      ‖coordinates n (orthogonalPart basis v)‖ ≤ 17 / 16 * size ∧ ∃ coefficients,
        Sweep (3 / 2 * ((n + 1) * unitError) * size) (5 * unitError * size)
          (basis.map (coordinates n)) coefficients (coordinates n v)
          (coordinates n (orthogonalPart basis v)) := by
  have relative := errors.count_mul_unit_le
  have directions : ∀ q ∈ basis, FiniteVector n q ∧ ‖coordinates n q‖ ≤ 17 / 16 := fun q there =>
    ⟨frame.vectors q there, norm_le_of_unit (frame.nearly.unit _ (List.mem_map_of_mem there))
      (by linarith)⟩
  have count : (basis.length : ℝ) ≤ n + 1 := by exact_mod_cast few.trans (Nat.le_succ n)
  have grows := errors.growth_le count ((pow_pos tinyLength_pos 2).trans_le least)
  obtain ⟨left, coefficients, sweep⟩ :=
    orthogonalPart_sweep errors least greatest directions vector (by linarith)
  have grown := sweep.norm_le fun q there => by
    obtain ⟨p, among, rfl⟩ := List.mem_map.mp there
    exact (directions p among).2
  rw [List.length_map] at grown
  exact ⟨left, by linarith, coefficients, sweep⟩

/-- What two sweeps leave of a row is orthogonal to a frame, up to errors beside its own length,
unless it is short beside the row. -/
theorem Frame.settled {basis : List (List Float)} (frame : Frame n basis)
    (few : basis.length ≤ n) {row rest : List Float} {size : ℝ} (vector : FiniteVector n row)
    (bounded : ‖coordinates n row‖ ≤ size) (one : 1 ≤ size) (greatest : 64 * size ≤ rangeBound)
    (left : orthogonalPart basis (orthogonalPart basis row) = rest) :
    FiniteVector n rest ∧ ‖coordinates n rest‖ ≤ 5 / 4 * size ∧
      (100 * (root * ((n + 1) ^ 2 * unitError) * size) ≤ ‖coordinates n rest‖ →
        ∀ q ∈ basis, |inner ℝ (coordinates n q) (coordinates n rest)| ≤
          27 / 2 * ((n + 1) * unitError) * ‖coordinates n rest‖) := by
  have unitPos := unitError_pos
  have tinyPos := tinyLength_pos
  have unitSmall := unitError_le
  have tinyUnit := tinyLength_le_unit
  have tiny : tinyLength ^ 2 ≤ unitError :=
    (pow_le_of_le_one tinyPos.le (by linarith) two_ne_zero).trans tinyUnit
  obtain ⟨middleVector, middleBound, _, first⟩ :=
    frame.sweep errors few vector bounded (by linarith) (by linarith)
  obtain ⟨restVector, restBound, -⟩ :=
    frame.sweep errors few middleVector middleBound (by linarith) (by linarith)
  rw [left] at restVector restBound
  refine ⟨restVector, by linarith, fun enough q there => ?_⟩
  have count : ((basis.map (coordinates n)).length : ℝ) ≤ n + 1 := by
    rw [List.length_map]
    exact_mod_cast few.trans (Nat.le_succ n)
  -- The second sweep is as precise as the longer of the vectors before and after it allows.
  have least : tinyLength ^ 2 ≤ max ‖coordinates n (orthogonalPart basis row)‖
      ‖coordinates n rest‖ := by
    have product := errors.unit_le_product one
    exact le_trans (by linarith) (le_max_right _ _)
  have both : max ‖coordinates n (orthogonalPart basis row)‖ ‖coordinates n rest‖ ≤
      5 / 4 * size := max_le (by linarith) (by linarith)
  obtain ⟨-, -, _, second⟩ :=
    frame.sweep errors few middleVector (le_max_left _ _) least (by linarith)
  rw [left] at second
  exact errors.settled_twice count frame.nearly first second (by linarith) bounded enough
    (List.mem_map_of_mem there)

/-- A measured length that is beyond the errors of two sweeps is relatively close to the exact one,
which is beyond them too. -/
theorem measured_near {norm length size : ℝ} (nonneg : 0 ≤ length) (one : 1 ≤ size)
    (near : |norm - length| ≤ 3 * ((n + 1) * unitError) * length + 2 * tinyLength)
    (exceeded : 101 * (root * ((n + 1) ^ 2 * unitError) * size) ≤ norm) :
    100 * (root * ((n + 1) ^ 2 * unitError) * size) ≤ length ∧
      |norm - length| ≤ 4 * ((n + 1) * unitError) * length := by
  have unitPos := unitError_pos
  have relative := errors.count_mul_unit_le
  have product := errors.unit_le_product one
  have unitSmall := unitError_le
  have part := mul_le_mul_of_nonneg_right errors.unit_le nonneg
  have tinyUnit : tinyLength ≤ 1 / 1024 * unitError := by
    refine tinyLength_le.trans ?_
    rw [sq]
    gcongr
  have lower : norm ≤ length + 3 * ((n + 1) * unitError * length) + 2 * tinyLength := by
    linarith [(abs_le.mp near).2]
  have small : (n + 1) * unitError * length ≤ 1 / 1024 * length := by gcongr
  have enough : 100 * (root * ((n + 1) ^ 2 * unitError) * size) ≤ length := by
    linarith
  have least : 2 * tinyLength ≤ unitError * length := by
    calc 2 * tinyLength ≤ 2 * unitError ^ 2 := by gcongr; exact tinyLength_le
      _ = unitError * (2 * unitError) := by ring
      _ ≤ unitError * length := by gcongr; linarith
  exact ⟨enough, by linarith⟩

/-- A direction that is kept extends a frame. -/
theorem Frame.extend {basis : List (List Float)} (frame : Frame n basis)
    (few : basis.length ≤ n) {row unit : List Float} {tolerance : Float} {size : ℝ}
    (vector : FiniteVector n row) (bounded : ‖coordinates n row‖ ≤ size) (one : 1 ≤ size)
    (greatest : 64 * size ^ 2 ≤ rangeBound)
    (exceeds : Exceeds tolerance (101 * (root * ((n + 1) ^ 2 * unitError) * size)))
    (kept : newDirection tolerance basis row = some unit) : Frame n (basis ++ [unit]) := by
  have unitPos := unitError_pos
  have square : size ≤ size ^ 2 := le_self_pow₀ one two_ne_zero
  have relative := errors.count_mul_unit_le
  have product := errors.unit_le_product one
  obtain ⟨rest, left, long, rfl⟩ := newDirection_eq_some kept
  obtain ⟨restVector, restBound, orthogonal⟩ :=
    frame.settled errors few vector bounded one (by linarith) left
  have lengths : 4 * ‖coordinates n rest‖ ^ 2 ≤ rangeBound := by
    have squares := pow_le_pow_left₀ (norm_nonneg _) restBound 2
    rw [mul_pow] at squares
    linarith
  obtain ⟨finite, near⟩ := vectorNorm_near restVector (by linarith) lengths
  obtain ⟨enough, closer⟩ :=
    measured_near errors (norm_nonneg _) one near (exceeds _ finite long)
  have positive : 0 < ‖coordinates n rest‖ := by linarith
  have part := mul_le_mul_of_nonneg_right relative positive.le
  have divisor : 0 < realValue (vectorNorm rest) := by linarith [(abs_le.mp closer).1]
  obtain ⟨unitVector, divided⟩ := divided_near restVector finite divisor
    (by linarith [(abs_le.mp closer).1])
  have absolute : n * leastError ≤ (n + 1) * unitError / 16 := by
    have some : 0 ≤ n * unitError := by positivity
    linarith [mul_le_mul_of_nonneg_left leastError_le (n.cast_nonneg : (0 : ℝ) ≤ n)]
  obtain ⟨unit, components⟩ := errors.normalized positive closer divided absolute
  refine ⟨List.forall_mem_append.mpr ⟨frame.vectors, List.forall_mem_singleton.mpr unitVector⟩, ?_⟩
  rw [List.map_append]
  refine frame.nearly.concat unit fun p there => ?_
  obtain ⟨q, among, rfl⟩ := List.mem_map.mp there
  exact components _ (norm_le_of_unit (frame.nearly.unit _ there) (by linarith))
    (orthogonal enough q among)

/-- The size of a row that is not too short. -/
noncomputable def rowSize (n : ℕ) (row : List Float) : ℝ := max 1 ‖coordinates n row‖

/-- Rows whose lengths can be measured, and beside which a tolerance is coarse. -/
structure Measurable (n : ℕ) (root : ℝ) (tolerance : Float) (row : List Float) : Prop where
  vector : FiniteVector n row
  greatest : 64 * rowSize n row ^ 2 ≤ rangeBound
  exceeds : Exceeds tolerance (101 * (root * ((n + 1) ^ 2 * unitError) * rowSize n row))

/-- Rows never add more directions than they have entries. -/
theorem Frame.count_le {basis : List (List Float)} (frame : Frame n basis)
    (few : basis.length ≤ n) {tolerance : Float} {rows : List (List Float)}
    (measurable : ∀ row ∈ rows, Measurable n root tolerance row) :
    basis.length + (newDirections tolerance basis rows).countP Option.isSome ≤ n := by
  induction rows generalizing basis with
  | nil => simpa [newDirections] using few
  | cons row rest ih =>
    obtain ⟨first, others⟩ := List.forall_mem_cons.mp measurable
    rw [newDirections]
    cases kept : newDirection tolerance basis row with
    | none => simpa using ih frame few others
    | some unit =>
      have extended := frame.extend errors few first.vector (le_max_right _ _) (le_max_left _ _)
        first.greatest first.exceeds kept
      have still := extended.length_le errors (by simpa using few)
      have count := ih extended still others
      rw [List.length_append, List.length_singleton] at count
      simpa [add_assoc, add_comm, add_left_comm] using count

end Frames

end Drafting
