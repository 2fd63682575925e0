import Drafting.Solve.Factor
import Drafting.Solve.Singular

/-!
# Quadratic steps under linear constraints

Of the steps that satisfy some linear constraints one is sought that brings linear rows nearest to a
target. The constraints fix the step along their directions, one after the other from the last to
the first; what is free is a combination of directions orthogonal to theirs. Multipliers tell how
much each constraint holds the rows away from their target.

There is no such step if there are more constraints than unknowns, if the constraints depend on each
other, or if the rows hardly change in some free direction.
-/

namespace Drafting

/-- Why a quadratic problem has no definite step. -/
inductive Obstacle where
  /-- There are more constraints than unknowns. -/
  | tooMany
  /-- Some constraint depends on others. -/
  | dependent
  /-- In some free direction the rows hardly change. -/
  | indefinite
deriving Repr, DecidableEq

/-- Rows with a target, and constraints with the values that they have to come to. -/
structure QuadraticProblem where
  width : Nat
  rows : List (List Float)
  target : List Float
  constraints : List (List Float)
  values : List Float

/-- A step and the multipliers of the constraints. -/
structure QuadraticStep where
  move : List Float
  multipliers : List Float

/-- Constraints that have been satisfied one after the other: the direction that each added with its
row, and the step so far. -/
structure Satisfied where
  directions : List (List Float × List Float)
  move : List Float

/-- The least part of a constraint orthogonal to others with which it is independent of them. -/
def independentPart : Float := 2.220446049250313e-16

/-- Satisfy a further constraint without disturbing the others. -/
def Satisfied.add (s : Satisfied) (row : List Float) (value : Float) : Option Satisfied := do
  let basis := s.directions.map (·.1)
  let rest := orthogonalPart basis (orthogonalPart basis row)
  let norm := vectorNorm rest
  if norm < independentPart then none
  else
    let unit := rest.map (· / norm)
    let part := (value - innerProduct row s.move) / innerProduct unit row
    some ⟨s.directions ++ [(unit, row)], vectorSum s.move (scaled part unit)⟩

namespace QuadraticProblem

/-- All constraints satisfied, from the last to the first, and then some more. -/
def satisfied? (p : QuadraticProblem) (more : List (List Float × Float)) : Option Satisfied :=
  ((p.constraints.zip p.values).reverse ++ more).foldlM (fun s (row, value) => s.add row value)
    ⟨[], List.replicate p.width 0.0⟩

/-- Directions that complete those of satisfied constraints. -/
def freeDirections (p : QuadraticProblem) (s : Satisfied) : List (List Float) :=
  let axes := (List.range p.width).map (axisVector p.width · 1.0)
  let units := s.directions.map (·.1)
  (keptDirections 1e-6 (units ++ axes)).drop units.length

/-- The rows in the free directions. -/
def reducedRows (p : QuadraticProblem) (free : List (List Float)) : List (List Float) :=
  p.rows.map fun row => free.map (innerProduct row)

/-- The target that is left for the free directions. -/
def reducedTarget (p : QuadraticProblem) (s : Satisfied) : List Float :=
  vectorDifference p.target (p.rows.map (innerProduct s.move))

/-- A step along free directions, with the multipliers of the constraints. -/
def complete (p : QuadraticProblem) (s : Satisfied) (free : List (List Float))
    (parts : List Float) : QuadraticStep :=
  let move := vectorSum s.move (weightedSum p.width parts free)
  let excess := vectorDifference (p.rows.map (innerProduct move)) p.target
  let pull := weightedSum p.width excess p.rows
  ⟨move, ((combination (s.directions) pull).take p.constraints.length).reverse⟩

/-- The step of a problem. Directions in which the rows have no more than a part of what they have
in the strongest one leave it indefinite. -/
def solve (p : QuadraticProblem) : Except Obstacle QuadraticStep := do
  if p.width < p.constraints.length then throw .tooMany
  let some s := p.satisfied? [] | throw .dependent
  let free := p.freeDirections s
  match definiteSolution? free.length 1.4901161193847656e-8 (p.reducedRows free)
      (p.reducedTarget s) with
  | some parts => return p.complete s free parts
  | none => throw .indefinite

/-- The step that satisfies some more conditions besides the constraints, whatever its directions
are. -/
def solveWith? (p : QuadraticProblem) (more : List (List Float × Float)) :
    Option QuadraticStep := do
  let s ← p.satisfied? more
  let free := p.freeDirections s
  some (p.complete s free
    (shortestSolution free.length 1.1102230246251565e-16 (p.reducedRows free)
      (p.reducedTarget s)))

/-- How much it costs to leave constraints unsatisfied. -/
def slackWeight : Float := 100.0

/-- The problem with one more unknown, the part to which the constraints are left unsatisfied. -/
def relaxed (p : QuadraticProblem) : QuadraticProblem where
  width := p.width + 1
  rows := p.rows.map (· ++ [0.0]) ++ [axisVector (p.width + 1) p.width slackWeight]
  target := p.target ++ [0.0]
  constraints := List.zipWith (fun row value => row ++ [value]) p.constraints p.values
  values := p.values

/-- The step of the relaxed problem, whose last unknown lies between zero and one. -/
def solveRelaxed (p : QuadraticProblem) : Except Obstacle QuadraticStep := do
  let some step := p.relaxed.solveWith? [] | throw .dependent
  let slack := step.move.getD p.width 0.0
  if 0.0 ≤ slack && slack ≤ 1.0 then return step
  let bound := if slack < 0.0 then 0.0 else 1.0
  let fixed := p.relaxed.solveWith? [(axisVector (p.width + 1) p.width 1.0, bound)]
  return fixed.getD { step with move := step.move.set p.width bound }

end QuadraticProblem

end Drafting
