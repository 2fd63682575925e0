import Drafting.Solve.Quadratic
import Drafting.Solve.QuasiNewton

/-!
# Wishes under constraints

Temporary constraints are wishes: half the sum of their squares is to be small while all other
constraints hold. At a point the wishes are replaced by a quadratic model, whose curvature is
learned from the steps made so far, and the constraints by linear ones. The step of that problem is
shortened until it brings enough of the decline it promises in a merit, which adds to the wishes the
weighted amounts by which constraints fail.

Where the constraints admit no step as they stand and are as many as the unknowns, they are relaxed.
The search ends where a step promises next to nothing or changes next to nothing, or where there is
no step.
-/

namespace Drafting

/-- A problem with wishes and constraints that have to hold. Without constraints these are never
looked at. -/
structure Wishing where
  wishes : Smooth
  constraints : Option Looking
  quotientStep : Float
  tolerance : Float

/-- The rows of the constraints at a point, and how they change there. -/
structure Linearised where
  rows : List Float
  slopes : List (List Float)

/-- Why a search ended. -/
inductive WishEnding where
  | settled
  | tooMany
  | dependent
  | indefinite
  | uphill
  | exhausted
deriving Repr, DecidableEq

namespace WishEnding

/-- The number of an ending. -/
def code : WishEnding → Nat
  | settled => 0
  | tooMany => 2
  | dependent => 6
  | indefinite => 7
  | uphill => 8
  | exhausted => 9

/-- What is said about an ending. -/
def message : WishEnding → String
  | settled => "Optimization terminated successfully"
  | tooMany => "More equality constraints than independent variables"
  | dependent => "Singular matrix C in LSQ subproblem"
  | indefinite => "Rank-deficient equality constraint subproblem HFTI"
  | uphill => "Positive directional derivative for linesearch"
  | exhausted => "Iteration limit reached"

/-- The ending for an obstacle. -/
def ofObstacle : Obstacle → WishEnding
  | .tooMany => tooMany
  | .dependent => dependent
  | .indefinite => indefinite

end WishEnding

/-- The sum of the magnitudes of some numbers. -/
def magnitudeSum (v : List Float) : Float := (v.map Float.abs).foldl (· + ·) 0.0

namespace Wishing

/-- The rows of the constraints at a point. -/
def rowsAt (p : Wishing) (x : List Float) : Trial (List Float) :=
  match p.constraints with
  | some rows => rows x
  | none => return []

/-- How the rows of the constraints change at a point. -/
def slopesAt (p : Wishing) (x : List Float) : Trial (List (List Float)) :=
  match p.constraints with
  | some rows => differenceQuotients rows x p.quotientStep
  | none => return []

/-- Where a search stands. -/
structure Stand where
  x : List Float
  value : Float
  gradient : List Float
  constraints : Linearised
  curvature : Factors
  /-- How much it costs that a constraint fails. -/
  weights : List Float
  /-- How often the curvature has been forgotten, the start included. -/
  resets : Nat
  steps : Nat

/-- A step of the quadratic problem at a stand. -/
structure Proposed where
  move : List Float
  multipliers : List Float
  /-- To which part the constraints are satisfied; all of them unless they were relaxed. -/
  part : Float
  relaxed : Bool

/-- The quadratic problem at a stand. -/
def Stand.problem (s : Stand) : QuadraticProblem where
  width := s.x.length
  rows := s.curvature.rootRows 0
  target := (s.curvature.rootSolution s.gradient).map (- ·)
  constraints := s.constraints.slopes
  values := s.constraints.rows.map (- ·)

/-- The step at a stand. -/
def Stand.propose (s : Stand) : Except Obstacle Proposed := do
  let problem := s.problem
  match problem.solve with
  | .ok step => return ⟨step.move, step.multipliers, 1.0, false⟩
  | .error .dependent =>
    if s.constraints.rows.length ≠ s.x.length then throw .dependent
    let step ← problem.solveRelaxed
    return ⟨step.move.take s.x.length, step.multipliers,
      1.0 - step.move.getD s.x.length 0.0, true⟩
  | .error obstacle => throw obstacle

/-- The gradient of the wishes less the constraints times their multipliers. -/
def reducedGradient (width : Nat) (gradient multipliers : List Float)
    (slopes : List (List Float)) : List Float :=
  vectorDifference gradient (weightedSum width multipliers slopes)

/-- Weights that are at least the multipliers and follow them down by halves. -/
def raisedWeights (weights multipliers : List Float) : List Float :=
  List.zipWith (fun weight r => larger r.abs ((weight + r.abs) / 2.0)) weights multipliers

/-- The weighted amounts by which constraints fail. -/
def penalty (weights rows : List Float) : Float :=
  (List.zipWith (fun weight c => weight * c.abs) weights rows).foldl (· + ·) 0.0

/-- A point with the wishes and the rows of the constraints there, and the move that led to it. -/
structure Arrival where
  x : List Float
  move : List Float
  value : Float
  rows : List Float

/-- Shorten a step until the merit falls by a tenth of the promise, or no longer. -/
def shorten (p : Wishing) (s : Stand) (weights : List Float) (merit : Float) :
    (tries : Nat) → (move : List Float) → (promise : Float) → Trial Arrival
  | tries, move, promise => do
    let x := vectorSum s.x move
    let value ← p.wishes.value x
    let rows ← p.rowsAt x
    let gain := value + penalty weights rows - merit
    match tries with
    | 0 => return ⟨x, move, value, rows⟩
    | tries + 1 =>
      if gain ≤ promise / 10.0 then return ⟨x, move, value, rows⟩
      let part := larger 0.1 (promise / (2.0 * (promise - gain)))
      shorten p s weights merit tries (scaled part move) (part * promise)

/-- How often a step is shortened at most. -/
def shortenings : Nat := 10

/-- Whether a change is so small, and the constraints hold so well, that a search may end. -/
def isSettled (limit before after : Float) (move rows : List Float) : Bool :=
  ((after - before).abs < limit || vectorNorm move < limit) && magnitudeSum rows < limit &&
    !after.isNaN

/-- The curvature after a move along which the gradient changed; too little change is replaced by
what the curvature so far makes of the move. -/
def learned? (curvature : Factors) (move change : List Float) : Option Factors :=
  let expected := curvature.apply move
  let along := innerProduct move change
  let bend := innerProduct move expected
  let (along, change) :=
    if along < 0.2 * bend then
      let part := (bend - 0.2 * bend) / (bend - along)
      (0.2 * bend, vectorSum (scaled part change) (scaled (1.0 - part) expected))
    else (along, change)
  if along == 0.0 || bend == 0.0 then none
  else some ((curvature.raised along change).lowered (-bend) expected)

/-- Where a search ended, and why. -/
structure Wished where
  x : List Float
  value : Float
  ending : WishEnding
  steps : Nat

/-- The stand once the curvature is forgotten, unless that has happened too often. -/
def Stand.forgotten? (s : Stand) : Option Stand :=
  if s.resets < 5 then
    some { s with curvature := .identity s.x.length, resets := s.resets + 1 }
  else none

/-- The stand after the rows and the gradient were looked at where a step arrived. -/
def Stand.arrived (s : Stand) (a : Arrival) (gradient : List Float)
    (slopes : List (List Float)) (weights : List Float) : Stand :=
  { s with x := a.x, value := a.value, gradient, constraints := ⟨a.rows, slopes⟩, weights }

/-- Take steps from a stand with a budget. -/
def search (p : Wishing) : (budget : Nat) → Stand → Trial Wished
  | 0, s => return ⟨s.x, s.value, .exhausted, s.steps⟩
  | budget + 1, s => do
    let s := { s with steps := s.steps + 1 }
    let ended (x : List Float) (value : Float) (ending : WishEnding) : Wished :=
      ⟨x, value, ending, s.steps⟩
    match s.propose with
    | .error obstacle => return ended s.x s.value (.ofObstacle obstacle)
    | .ok step => do
      let width := s.x.length
      let rows := s.constraints.rows
      let before := reducedGradient width s.gradient step.multipliers s.constraints.slopes
      let decline := innerProduct s.gradient step.move
      let weights := raisedWeights s.weights step.multipliers
      let promised := decline.abs + penalty (step.multipliers.map Float.abs) rows
      if promised < p.tolerance && magnitudeSum rows < p.tolerance && !step.relaxed &&
          !s.value.isNaN then
        return ended s.x s.value .settled
      let failing := penalty weights rows
      let slope := decline - failing * step.part
      if 0.0 ≤ slope then
        match s.forgotten? with
        | some next => search p budget { next with weights := weights }
        | none =>
          let settled := isSettled (10.0 * p.tolerance) s.value s.value step.move rows
          return ended s.x s.value (if settled && !step.relaxed then .settled else .uphill)
      else
        let a ← shorten p s weights (s.value + failing) shortenings step.move slope
        if isSettled p.tolerance s.value a.value a.move a.rows && !step.relaxed then
          return ended a.x a.value .settled
        let gradient ← p.wishes.gradient a.x
        let slopes ← p.slopesAt a.x
        let after := reducedGradient width gradient step.multipliers slopes
        let next := s.arrived a gradient slopes weights
        match learned? s.curvature a.move (vectorDifference after before), next.forgotten? with
        | some curvature, _ => search p budget { next with curvature := curvature }
        | none, some next => search p budget next
        | none, none =>
          let settled := isSettled (10.0 * p.tolerance) s.value a.value a.move a.rows
          return ended a.x a.value (if settled && !step.relaxed then .settled else .uphill)

/-- Search from a start with a budget of steps. -/
def run (p : Wishing) (start : List Float) (budget : Nat) : Trial Wished := do
  discard (p.rowsAt start)
  let value ← p.wishes.value start
  let gradient ← p.wishes.gradient start
  let slopes ← p.slopesAt start
  let rows ← p.rowsAt start
  search p budget
    { x := start, value, gradient, constraints := ⟨rows, slopes⟩
      curvature := .identity start.length, weights := rows.map fun _ => 0.0, resets := 1
      steps := 0 }

end Wishing

end Drafting
