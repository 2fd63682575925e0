import Drafting.Proofs.Classification
import Drafting.Proofs.Ordering

/-!
# Earlier rows and later ones

A row is measured against the directions kept before it, so what comes after it could not matter,
were it not for the tolerance: it is scaled by the longest of all rows. Where constraints are
appended, the rows of the earlier ones are scanned as they are alone but for the tolerance, which is
that of the whole; and if no later row is longer than the scale of the earlier ones, it is the same
tolerance.
-/

namespace Drafting

section Scale

/-- The scale is not changed by magnitudes up to it. -/
theorem larger_foldl_magnitudes {values : List Float} {greatest : Float}
    (within : ∀ x ∈ values, x.abs ≤ larger 1.0 greatest) :
    larger 1.0 (values.foldl (fun a x => if a < x.abs || x.isNaN then x.abs else a) greatest) =
      larger 1.0 greatest := by
  induction values generalizing greatest with
  | nil => rfl
  | cons x rest ih =>
    obtain ⟨first, others⟩ := List.forall_mem_cons.mp within
    have defined : x.isNaN = false := isNaN_abs x ▸ (isNaN_of_le first).1
    have kept : larger 1.0 (if greatest < x.abs || x.isNaN then x.abs else greatest) =
        larger 1.0 greatest := by
      rw [defined, Bool.or_false]
      by_cases above : greatest < x.abs
      · rw [if_pos (decide_eq_true above)]
        have small : ¬(1.0 : Float) < greatest := fun great => by
          have scale : larger 1.0 greatest = greatest := if_pos (decide_eq_true great)
          exact float_not_lt_of_le (scale ▸ first) above
        have scale : larger 1.0 greatest = 1.0 := if_neg fun great =>
          small (of_decide_eq_true great)
        rw [scale] at first ⊢
        exact if_neg fun great => float_not_lt_of_le first (of_decide_eq_true great)
      · rw [if_neg (by simpa using above)]
    rw [List.foldl_cons, ih (kept ▸ others), kept]

/-- Rows that are no longer than the scale of others do not change it. -/
theorem rowScale_append {own others : List (List Float)}
    (within : maxAbs (others.map vectorNorm) ≤ rowScale own) :
    rowScale (own ++ others) = rowScale own := by
  unfold rowScale at within ⊢
  rw [List.map_append, maxAbs, List.foldl_append]
  refine larger_foldl_magnitudes fun norm there => ?_
  exact float_le_trans (abs_le_maxAbs (isNaN_of_le within).1 there) within

end Scale

section Prefix

variable {f g : RowFunction} {count : Nat} {x : List Float} {step : Float}

/-- One function gives the first rows of another. -/
def Begins (count : Nat) (f g : RowFunction) : Prop :=
  ∀ ⦃x rows⦄, f x = .ok rows → g x = .ok (rows.take count)

/-- The quotients of the first rows are the first quotients. -/
theorem Begins.quotient (begins : Begins count f g) {place : Nat} {column : List Float}
    (found : differenceQuotient f x step place = .ok column) :
    differenceQuotient g x step place = .ok (column.take count) := by
  unfold differenceQuotient at found ⊢
  obtain ⟨forward, evaluated, rest⟩ := bind_eq_ok.mp found
  obtain ⟨backward, evaluatedBack, answered⟩ := bind_eq_ok.mp rest
  cases answered
  dsimp only
  rw [begins evaluated, ok_bind, begins evaluatedBack, ok_bind, List.take_zipWith]
  rfl

/-- The directions of the first rows are the first directions. -/
theorem Begins.quotients (begins : Begins count f g) {directions : List (List Float)}
    (found : differenceQuotients f x step = .ok directions) :
    differenceQuotients g x step = .ok (directions.take count) := by
  unfold differenceQuotients at found ⊢
  obtain ⟨base, evaluated, rest⟩ := bind_eq_ok.mp found
  rw [begins evaluated, ok_bind]
  by_cases bare : base.isEmpty
  · rw [if_pos bare] at rest
    cases rest
    rw [List.isEmpty_iff.mp bare, List.take_nil, if_pos List.isEmpty_nil]
    exact congrArg Except.ok List.take_nil.symm
  · rw [if_neg bare] at rest
    obtain ⟨columns, differenced, built⟩ := bind_eq_ok.mp rest
    cases built
    by_cases few : (base.take count).isEmpty
    · rw [if_pos few]
      have none : count = 0 :=
        (List.take_eq_nil_iff.mp (List.isEmpty_iff.mp few)).resolve_right
          (List.isEmpty_iff.not.mp bare)
      rw [none, List.take_zero]
      rfl
    · rw [if_neg few]
      have firsts : (List.range x.length).mapM (differenceQuotient g x step) =
          .ok (columns.map (List.take count)) := by
        rw [mapM_eq_ok, List.forall₂_map_right_iff]
        exact (mapM_eq_ok.mp differenced).imp fun _ _ quotient => begins.quotient quotient
      rw [firsts, ok_bind, ← List.map_take, List.take_range, List.length_take]
      refine congrArg Except.ok (List.map_congr_left fun row among => ?_)
      rw [List.map_map]
      refine List.map_congr_left fun column _ => ?_
      have early : row < count := (lt_min_iff.mp (List.mem_range.mp among)).1
      show (column.take count).getD row 0.0 = column.getD row 0.0
      rw [List.getD_eq_getElem?_getD, List.getD_eq_getElem?_getD, List.getElem?_take_of_lt early]

end Prefix

section Scan

/-- Some rows with what their directions add beyond a tolerance. -/
def scanWithin (tolerance : Float) (constraints : List Constraint)
    (directions : List (List Float)) : List ScannedRow :=
  ((rowOwners constraints).zip (directions.zip (newDirections tolerance [] directions))).map
    fun (owner, direction, added) => { owner, direction, added }

/-- What rows add does not depend on the rows behind them. -/
theorem take_newDirections (tolerance : Float) (basis rows : List (List Float)) (count : Nat) :
    (newDirections tolerance basis rows).take count =
      newDirections tolerance basis (rows.take count) := by
  induction rows generalizing basis count with
  | nil => simp [newDirections]
  | cons row rest ih =>
    cases count with
    | zero => rfl
    | succ count =>
      rw [List.take_succ_cons, newDirections, newDirections]
      cases newDirection tolerance basis row with
      | none => rw [List.take_succ_cons, ih]
      | some unit => rw [List.take_succ_cons, ih]

variable {leastSquares : LeastSquares} {constraints others : List Constraint}
  {full : Array Float} {free : List Nat} {options : SolveOptions}

/-- The rows of some constraints and of others behind them are stacked. -/
theorem stackedRows_constraints_append {vector : Array Float} {rows : List Float}
    (stacked : stackedRows (constraints ++ others) vector = .ok rows) :
    stackedRows constraints vector = .ok (rows.take (constraints.map (·.size)).sum) := by
  unfold stackedRows at stacked
  simp only [List.mapM_append, bind_assoc, pure_bind] at stacked
  obtain ⟨blocks, evaluated, rest⟩ := bind_eq_ok.mp stacked
  have own : stackedRows constraints vector = .ok blocks.flatten :=
    bind_eq_ok.mpr ⟨blocks, evaluated, rfl⟩
  obtain ⟨later, -, joined⟩ := bind_eq_ok.mp rest
  cases joined
  rw [own, List.flatten_append, ← length_stackedRows own, List.take_left]

/-- The rows of some constraints come first among those of all. -/
theorem begins_freeRows (constraints others : List Constraint) (full : Array Float)
    (free : List Nat) :
    Begins (constraints.map (·.size)).sum (freeRows (constraints ++ others) full free)
      (freeRows constraints full free) := by
  intro values rows found
  obtain ⟨vector, scattered, stacked⟩ := bind_eq_ok.mp found
  exact bind_eq_ok.mpr ⟨vector, scattered, stackedRows_constraints_append stacked⟩

/-- The rows of the earlier constraints are scanned like alone, with the tolerance of the whole. -/
theorem take_scanRows {directions : List (List Float)} (rankTolerance : Float) :
    (scanRows (constraints ++ others) directions rankTolerance).take
        (constraints.map (·.size)).sum =
      scanWithin (rankTolerance * rowScale directions) constraints
        (directions.take (constraints.map (·.size)).sum) := by
  have owners : (rowOwners (constraints ++ others)).take (constraints.map (·.size)).sum =
      rowOwners constraints := by
    rw [rowOwners, List.flatMap_append, ← length_rowOwners]
    exact List.take_left
  unfold scanRows scanWithin
  rw [← List.map_take]
  simp only [List.zip_eq_zipWith, List.take_zipWith, owners, take_newDirections]

/-- The rows of some constraints alone, and what comes of them among the rows of more constraints:
the tolerance is all that differs, and as long as no later row is longer than the scale of the
earlier ones, not even that. -/
structure ScannedWithin (constraints : List Constraint) (rankTolerance : Float)
    (rows whole : List ScannedRow) : Prop where
  alone : rows = scanWithin (rankTolerance * rowScale (rows.map (·.direction))) constraints
    (rows.map (·.direction))
  together : whole.take rows.length =
    scanWithin (rankTolerance * rowScale (whole.map (·.direction))) constraints
      (rows.map (·.direction))
  alike : maxAbs (((whole.map (·.direction)).drop rows.length).map vectorNorm) ≤
    rowScale (rows.map (·.direction)) → whole.take rows.length = rows

/-- Constraints that are appended change the verdict on earlier rows through the scale of the
tolerance only. -/
theorem diagnose_earlier_rows {d : Diagnosis}
    (diagnosed : diagnose leastSquares (constraints ++ others) full free options = .ok d) :
    ∃ rows whole, scan constraints full free options = .ok rows ∧
      scan (constraints ++ others) full free options = .ok whole ∧
      rows.map (·.owner) = rowOwners constraints ∧
      d.rank = (whole.filter (·.isIndependent)).length ∧
      ScannedWithin constraints options.rankTolerance rows whole := by
  obtain ⟨_, whole, broken, dependent, -, scanned, -, -, rfl⟩ := diagnose_eq_classify diagnosed
  obtain ⟨directions, found, answered⟩ := bind_eq_ok.mp scanned
  cases answered
  let count := (constraints.map (·.size)).sum
  have own := (begins_freeRows constraints others full free).quotients found
  let rows := scanRows constraints (directions.take count) options.rankTolerance
  have alone : scan constraints full free options = .ok rows := bind_eq_ok.mpr ⟨_, own, rfl⟩
  have owners : rows.map (·.owner) = rowOwners constraints := map_owner_scan alone
  have length : rows.length = count := by
    rw [← List.length_map, owners, length_rowOwners]
  have complete : directions.length = ((constraints ++ others).map (·.size)).sum := by
    obtain ⟨base, here, same⟩ := length_differenceQuotients found
    obtain ⟨_, -, stacked⟩ := bind_eq_ok.mp here
    exact same.trans (length_stackedRows stacked)
  have enough : (directions.take count).length = count := by
    rw [List.length_take, complete, List.map_append, List.sum_append]
    exact Nat.min_eq_left (Nat.le_add_right _ _)
  have first : rows.map (·.direction) = directions.take count :=
    map_direction_scanRows _ enough
  have all := map_direction_scanRows options.rankTolerance complete
  refine ⟨rows, _, alone, scanned, owners, rfl, ?_, ?_, fun within => ?_⟩
  · rw [first]
    rfl
  · rw [first, all, length]
    exact take_scanRows options.rankTolerance
  · rw [all, first, length] at within
    have whole := rowScale_append within
    rw [List.take_append_drop] at whole
    rw [length, take_scanRows, whole]
    rfl

end Scan

/-- Two parameters that are each set equal to a constant, the second time with a scale. -/
def scaledEqualities (scale : Float) : List Constraint :=
  [(0, 1.0), (1, scale)].map fun (place, scale) =>
    { id := place, kind := "equal", operands := [.scalar place, .scalar (place + 2)]
      modifiers := { Modifiers.standard with scale, givenScale := .float scale }, tag := 0
      size := 1, block := (Relation.equal place (place + 2)).block, owned := [place + 2]
      valueSlot := some (place + 2) }

/-- Equalities of unrelated parameters that are scaled alike are both independent, so the verdict on
the first is the same with the second behind it. -/
theorem diagnose_earlier_rows_unscaled :
    ∃ d, diagnose shortestCombination (scaledEqualities 1.0) #[0.0, 0.0, 1.0, 1.0] [0, 1]
        .standard = .ok d ∧
      d.rank = 2 ∧
      ∃ rows whole,
        scan ((scaledEqualities 1.0).take 1) #[0.0, 0.0, 1.0, 1.0] [0, 1] .standard = .ok rows ∧
        scan (scaledEqualities 1.0) #[0.0, 0.0, 1.0, 1.0] [0, 1] .standard = .ok whole ∧
        rows.map (·.owner) = rowOwners ((scaledEqualities 1.0).take 1) ∧
        d.rank = (whole.filter (·.isIndependent)).length ∧
        ScannedWithin ((scaledEqualities 1.0).take 1) 1e-8 rows whole := by
  have answered : (diagnose shortestCombination (scaledEqualities 1.0) #[0.0, 0.0, 1.0, 1.0] [0, 1]
      .standard).toOption.map (·.rank) = some 2 := by decide +kernel
  cases diagnosed : diagnose shortestCombination (scaledEqualities 1.0) #[0.0, 0.0, 1.0, 1.0] [0, 1]
      .standard with
  | error fault =>
    rw [diagnosed] at answered
    cases answered
  | ok d =>
    rw [diagnosed] at answered
    injection answered with ranked
    exact ⟨d, rfl, ranked, @diagnose_earlier_rows _ ((scaledEqualities 1.0).take 1)
      ((scaledEqualities 1.0).drop 1) _ _ _ d diagnosed⟩

/-- The first equality is independent alone, and dependent as soon as the second one is scaled
up. -/
theorem later_scale_settles_earlier_row :
    (scaledEqualities 1e10).all (fun c => affirmed c.isHard) ∧
      (scan ((scaledEqualities 1e10).take 1) #[0.0, 0.0, 1.0, 1.0] [0, 1]
        .standard).toOption.map (·.map (·.isIndependent)) = some [true] ∧
      (scan (scaledEqualities 1e10) #[0.0, 0.0, 1.0, 1.0] [0, 1]
        .standard).toOption.map (·.map (·.isIndependent)) = some [false, true] ∧
      (diagnose shortestCombination (scaledEqualities 1e10) #[0.0, 0.0, 1.0, 1.0] [0, 1]
        .standard).toOption.map (·.groups) = some [[0]] := by
  decide +kernel

end Drafting
