import Drafting.Proofs.Refusal
import Drafting.Solve.Diagnosis
import Mathlib.Algebra.Ring.Nat

/-!
# Scanned rows

A constraint has as many rows as its kind declares, wherever it is evaluated. So the scan of a
diagnosis meets every constraint once for each of its rows, in the order of the constraints, and
counting the rows of one constraint in the scan gives back the count of rows it declares.
-/

namespace Drafting

/-- The rows that a diagnosis scans, with what their directions add. -/
def scan (constraints : List Constraint) (full : Array Float) (free : List Nat)
    (options : SolveOptions) : Except Fault (List ScannedRow) := do
  let directions ←
    differenceQuotients (freeRows constraints full free) (gather full free) options.jacobianStep
  .ok (scanRows constraints directions options.rankTolerance)

variable {constraints : List Constraint} {vector full : Array Float} {free : List Nat}

/-- A constraint that can be evaluated has the declared count of rows. -/
theorem length_rows {c : Constraint} {rows : List Float} (evaluated : c.rows vector = .ok rows) :
    rows.length = c.size := by
  unfold Constraint.rows at evaluated
  obtain ⟨value, -, checked⟩ := bind_eq_ok.mp evaluated
  dsimp only at checked
  by_cases fits : value.toRows.length ≠ c.size
  · rw [if_pos fits] at checked
    cases checked
  · rw [if_neg fits] at checked
    cases checked
    rw [List.length_map]
    exact not_not.mp fits

/-- Stacking keeps every row: the counts add up. -/
theorem length_stackedRows {rows : List Float}
    (stacked : stackedRows constraints vector = .ok rows) :
    rows.length = (constraints.map (·.size)).sum := by
  unfold stackedRows at stacked
  obtain ⟨blocks, evaluated, joined⟩ := bind_eq_ok.mp stacked
  cases joined
  rw [mapM_eq_ok] at evaluated
  clear stacked
  induction evaluated with
  | nil => rfl
  | cons first _ ih =>
    rw [List.flatten_cons, List.length_append, List.map_cons, List.sum_cons, length_rows first, ih]

/-- There is one list of quotients for each row. -/
theorem length_differenceQuotients {f : RowFunction} {x : List Float} {step : Float}
    {directions : List (List Float)} (found : differenceQuotients f x step = .ok directions) :
    ∃ base, f x = .ok base ∧ directions.length = base.length := by
  unfold differenceQuotients at found
  obtain ⟨base, here, rest⟩ := bind_eq_ok.mp found
  refine ⟨base, here, ?_⟩
  by_cases bare : base.isEmpty
  · rw [if_pos bare] at rest
    cases rest
    rw [List.isEmpty_iff.mp bare]
    rfl
  · rw [if_neg bare] at rest
    obtain ⟨columns, -, built⟩ := bind_eq_ok.mp rest
    cases built
    rw [List.length_map, List.length_range]

/-- Every row is answered, by a new direction or by none. -/
@[simp] theorem length_newDirections (tolerance : Float) (basis rows : List (List Float)) :
    (newDirections tolerance basis rows).length = rows.length := by
  induction rows generalizing basis with
  | nil => rfl
  | cons row rest ih =>
    rw [newDirections]
    cases newDirection tolerance basis row with
    | none => rw [List.length_cons, List.length_cons, ih]
    | some unit => rw [List.length_cons, List.length_cons, ih]

/-- Every row has an owner. -/
@[simp] theorem length_rowOwners :
    (rowOwners constraints).length = (constraints.map (·.size)).sum := by
  simp [rowOwners]

/-- A row belongs to one of the constraints. -/
theorem mem_of_mem_rowOwners {c : Constraint} (owner : c ∈ rowOwners constraints) :
    c ∈ constraints := by
  obtain ⟨listed, there, repeated⟩ := List.mem_flatMap.mp owner
  rw [List.eq_of_mem_replicate repeated]
  exact there

/-- Where there is a direction for each row, the scan meets the owners of the rows in order. -/
theorem map_owner_scanRows {directions : List (List Float)} (tolerance : Float)
    (complete : directions.length = (constraints.map (·.size)).sum) :
    (scanRows constraints directions tolerance).map (·.owner) = rowOwners constraints := by
  unfold scanRows
  rw [List.map_map]
  show List.map Prod.fst _ = _
  rw [List.map_fst_zip]
  simp [complete]

/-- Where there is a direction for each row, the scan keeps the directions. -/
theorem map_direction_scanRows {directions : List (List Float)} (rankTolerance : Float)
    (complete : directions.length = (constraints.map (·.size)).sum) :
    (scanRows constraints directions rankTolerance).map (·.direction) = directions := by
  unfold scanRows
  rw [List.map_map]
  show List.map (Prod.fst ∘ Prod.snd) _ = _
  rw [← List.map_map, List.map_snd_zip, List.map_fst_zip]
  · simp
  · simp [complete]

/-- Where there is a direction for each row, the scan keeps what the directions add. -/
theorem map_added_scanRows {directions : List (List Float)} (rankTolerance : Float)
    (complete : directions.length = (constraints.map (·.size)).sum) :
    (scanRows constraints directions rankTolerance).map (·.added) =
      newDirections (rankTolerance * rowScale directions) [] directions := by
  unfold scanRows
  rw [List.map_map]
  show List.map (Prod.snd ∘ Prod.snd) _ = _
  rw [← List.map_map, List.map_snd_zip, List.map_snd_zip]
  · simp
  · simp [complete]

/-- A scan meets the owners of the rows in order. -/
theorem map_owner_scan {options : SolveOptions} {rows : List ScannedRow}
    (scanned : scan constraints full free options = .ok rows) :
    rows.map (·.owner) = rowOwners constraints := by
  unfold scan at scanned
  obtain ⟨directions, found, answered⟩ := bind_eq_ok.mp scanned
  cases answered
  obtain ⟨base, here, count⟩ := length_differenceQuotients found
  obtain ⟨scattered, -, stacked⟩ := bind_eq_ok.mp here
  exact map_owner_scanRows _ (count.trans (length_stackedRows stacked))

/-- Among constraints with distinct identifiers one owns as many rows as it declares. -/
theorem countP_rowOwners (distinct : (constraints.map (·.id)).Nodup) {c : Constraint}
    (listed : c ∈ constraints) :
    (rowOwners constraints).countP (fun owner => owner.id = c.id) = c.size := by
  induction constraints with
  | nil => cases listed
  | cons first rest ih =>
    rw [List.map_cons, List.nodup_cons] at distinct
    have split : rowOwners (first :: rest) =
      List.replicate first.size first ++ rowOwners rest := rfl
    rw [split, List.countP_append, List.countP_replicate]
    rcases List.mem_cons.mp listed with rfl | later
    · -- No later constraint has this identifier, so no later row counts.
      have others : (rowOwners rest).countP (fun owner => owner.id = c.id) = 0 := by
        rw [List.countP_eq_zero]
        intro owner owned
        have elsewhere := List.mem_map_of_mem (f := (·.id)) (mem_of_mem_rowOwners owned)
        simp only [decide_eq_true_eq]
        intro same
        exact distinct.1 (same ▸ elsewhere)
      simp [others]
    · have different : first.id ≠ c.id := fun same =>
        distinct.1 (same ▸ List.mem_map_of_mem (f := (·.id)) later)
      simp [different, ih distinct.2 later]

end Drafting
