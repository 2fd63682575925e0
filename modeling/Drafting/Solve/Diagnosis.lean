import Drafting.Constraint
import Drafting.Solve.LeastSquares
import Drafting.Solve.Options

/-!
# Diagnosis

Every row of the constraints has a direction: how it changes with the free values. Rows are scanned
in order. A row whose direction has a part orthogonal to all directions kept so far is independent,
and that part, brought to length one, is kept; any other row is dependent. A dependent row forms a
group with the constraints whose rows its direction is a combination of, as far as least squares
tell. A group with a member that does not hold is in conflict; in a group whose members all hold,
the row is redundant.

The count of independent rows is the rank, and what it leaves of the free values is the count of
degrees of freedom.
-/

namespace Drafting

/-- A row with the constraint it belongs to and what its direction adds. -/
structure ScannedRow where
  owner : Constraint
  direction : List Float
  added : Option (List Float)

/-- Whether the direction of a row was new. -/
def ScannedRow.isIndependent (row : ScannedRow) : Bool := row.added.isSome

/-- The constraints that the rows belong to, one for each row. -/
def rowOwners (constraints : List Constraint) : List Constraint :=
  constraints.flatMap fun c => List.replicate c.size c

/-- The rows of some constraints with what their directions add. -/
def scanRows (constraints : List Constraint) (directions : List (List Float))
    (rankTolerance : Float) : List ScannedRow :=
  let added := newDirections (rankTolerance * rowScale directions) [] directions
  ((rowOwners constraints).zip (directions.zip added)).map fun (owner, direction, added) =>
    { owner, direction, added }

/-- The coefficients of a direction as a combination of independent rows. Without such rows, or
without free values, there are none. -/
def expansion (leastSquares : LeastSquares) (independent : List ScannedRow)
    (direction : List Float) : Except Fault (List Float) :=
  if independent.isEmpty || direction.isEmpty then .ok []
  else
    match leastSquares (independent.map (·.direction)) direction with
    | some coefficients => .ok coefficients
    | none => .error (.arithmetic .decomposition)

/-- Coefficients up to this part of the largest one count as zero. -/
def coefficientCutoff (coefficients : List Float) : Float :=
  1e-8 * larger 1.0 (maxAbs coefficients)

/-- The owners of the independent rows that have a coefficient. -/
def contributors (independent : List ScannedRow) (coefficients : List Float) : List Constraint :=
  let cutoff := coefficientCutoff coefficients
  ((independent.zip coefficients).filter fun (_, coefficient) =>
    cutoff < coefficient.abs).map (·.1.owner)

/-- The constraints that a dependent row forms a group with: its own, and the owners of the
independent rows in its combination. -/
def groupMembers (leastSquares : LeastSquares) (independent : List ScannedRow)
    (row : ScannedRow) : Except Fault (List Constraint) := do
  .ok (row.owner :: contributors independent (← expansion leastSquares independent row.direction))

/-- Ascending without repetitions. -/
def ascending (values : List Nat) : List Nat :=
  (values.mergeSort fun a b => decide (a ≤ b)).eraseReps

/-- Ascending without repetitions. -/
def ascendingTags (values : List Int) : List Int :=
  (values.mergeSort fun a b => decide (a ≤ b)).eraseReps

/-- The outcome of a diagnosis: rank, degrees of freedom, the identifiers in each group, and the
identifiers and tags of the constraints that conflict, are redundant, or are so in part. -/
structure Diagnosis where
  rank : Nat
  freedom : Int
  groups : List (List Nat)
  conflictingIds : List Nat
  redundantIds : List Nat
  partialIds : List Nat
  conflicting : List Int
  redundant : List Int
  partiallyRedundant : List Int
deriving Repr, DecidableEq

/-- The diagnosis before any solve. -/
def Diagnosis.initial : Diagnosis := ⟨0, 0, [], [], [], [], [], [], []⟩

namespace Diagnosis

/-- Whether a constraint conflicts. -/
def hasConflicting (diagnosis : Diagnosis) : Bool := !diagnosis.conflictingIds.isEmpty

/-- Whether a constraint is redundant. -/
def hasRedundant (diagnosis : Diagnosis) : Bool := !diagnosis.redundantIds.isEmpty

/-- Whether a constraint is redundant in part. -/
def hasPartiallyRedundant (diagnosis : Diagnosis) : Bool := !diagnosis.partialIds.isEmpty

end Diagnosis

/-- A dependent row with the constraints it forms a group with. -/
structure DependentRow where
  owner : Constraint
  members : List Constraint

/-- The dependent rows, in order, with their groups. -/
def dependentRows (leastSquares : LeastSquares) (rows : List ScannedRow) :
    Except Fault (List DependentRow) :=
  let independent := rows.filter ScannedRow.isIndependent
  (rows.filter (!·.isIndependent)).mapM fun row => do
    .ok ⟨row.owner, ← groupMembers leastSquares independent row⟩

/-- Whether a constraint holds up to a tolerance. -/
def Constraint.holdsWithin (c : Constraint) (vector : Array Float) (tolerance : Float) :
    Except Fault Bool := do
  .ok ((← c.rows vector).all fun row => row.abs ≤ tolerance)

/-- The tags of the constraints with some identifiers. -/
def tagsOf (constraints : List Constraint) (ids : List Nat) : List Int :=
  ascendingTags ((constraints.filter fun c => ids.contains c.id).map (·.tag))

/-- Classify constraints by their dependent rows, given those constraints that do not hold. -/
def classify (constraints broken : List Constraint) (rank free : Nat)
    (dependent : List DependentRow) : Diagnosis :=
  let isBroken (c : Constraint) := broken.any fun b => b.id = c.id
  let inConflict := dependent.filter fun row => row.members.any isBroken
  let conflictingIds := ascending (inConflict.flatMap fun row => row.members.map (·.id))
  let satisfied := dependent.filter fun row => !row.members.any isBroken
  let count (c : Constraint) := (satisfied.filter fun row => row.owner.id = c.id).length
  let candidates := constraints.filter fun c => 0 < count c && !conflictingIds.contains c.id
  let redundantIds := ascending ((candidates.filter fun c => c.size ≤ count c).map (·.id))
  let partialIds := ascending ((candidates.filter fun c => count c < c.size).map (·.id))
  { rank
    freedom := free - rank
    groups := dependent.map fun row => ascending (row.members.map (·.id))
    conflictingIds
    redundantIds
    partialIds
    conflicting := tagsOf constraints conflictingIds
    redundant := tagsOf constraints redundantIds
    partiallyRedundant := tagsOf constraints partialIds }

/-- Diagnose constraints at a parameter vector, some slots of which are free. The diagnosis is
refused if least squares fail on a dependent row. -/
def diagnose (leastSquares : LeastSquares) (constraints : List Constraint) (full : Array Float)
    (free : List Nat) (options : SolveOptions) : Except Fault Diagnosis := do
  let holding ← constraints.mapM fun c => c.holdsWithin full options.conflictTolerance
  let directions ←
    differenceQuotients (freeRows constraints full free) (gather full free) options.jacobianStep
  let rows := scanRows constraints directions options.rankTolerance
  let independent := rows.filter ScannedRow.isIndependent
  let dependent ← dependentRows leastSquares rows
  let broken := ((constraints.zip holding).filter (!·.2)).map (·.1)
  .ok (classify constraints broken independent.length free.length dependent)

/-- What is written about a diagnosis, if there is a dependent row. -/
def Diagnosis.records (diagnosis : Diagnosis) : List Record :=
  if diagnosis.groups.isEmpty then []
  else
    [⟨.debug, .diagnosis,
      "Diagnosis rank=" ++ decimalText diagnosis.rank ++ " dof=" ++
        integerText diagnosis.freedom ++ " groups=" ++ decimalText diagnosis.groups.length ++
        " conflicting=" ++ naturalsText diagnosis.conflictingIds ++ " redundant=" ++
        naturalsText diagnosis.redundantIds ++ " partial=" ++
        naturalsText diagnosis.partialIds⟩]

end Drafting
