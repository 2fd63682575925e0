import Drafting.Sketch.Constraining
import Drafting.Solve.Backend

/-!
# Solving a sketch

A solve moves the free slots so that the hard constraints hold. A backend proposes values for them;
whether they solve the sketch is decided here, from the residual at the proposal, and the
constraints are diagnosed there. The outcome is a status: that a sketch has no solution is an
answer and no fault. Nothing in the store moves before the solution is applied.
-/

namespace Drafting

namespace Sketch

/-- The wishes that an algorithm heeds. -/
def heeded (sketch : Sketch) (algorithm : Algorithm) : Except Fault (List Constraint) :=
  if algorithm = .sqp then sketch.wishes else .ok []

/-- The problem that the sketch poses to a backend. -/
def problem (sketch : Sketch) (algorithm : Algorithm) : Except Fault Problem := do
  let full := sketch.store.snapshot
  let free := sketch.store.freeIndices
  let hard ← sketch.hard
  let wishes ← sketch.heeded algorithm
  return {
    start := gather full free
    residual := freeRows hard full free
    wishes := if wishes.isEmpty then none else some (freeRows wishes full free) }

/-- The algorithm for a request: temporary constraints have one of their own. -/
def algorithmFor (sketch : Sketch) (requested : Algorithm) : Except Fault Algorithm := do
  if ← sketch.hasTemporary then return .sqp else return requested

/-- Judge a proposal: what the residual is there, whether that counts as solved, and how the
constraints are to be diagnosed. A proposal that is not finite is diagnosed at the values of the
store. -/
def judge (sketch : Sketch) (leastSquares : LeastSquares) (algorithm : Algorithm)
    (proposal : Proposal) : Except Fault Attempt := do
  let full := sketch.store.snapshot
  let free := sketch.store.freeIndices
  let hard ← sketch.hard
  let maxResidual := maxAbs (← freeRows hard full free proposal.x)
  let finite := proposal.x.all Float.isFinite
  let solved : Except Fault (Array Float) :=
    if finite then scatter full free proposal.x else .ok full
  let diagnosis ← diagnose leastSquares hard (← solved) free sketch.options
  let status : SolveStatus :=
    { converged := maxResidual.isFinite && maxResidual ≤ sketch.options.convergence
      algorithm
      freedom := diagnosis.freedom
      conflicting := diagnosis.conflicting
      redundant := diagnosis.redundant
      partiallyRedundant := diagnosis.partiallyRedundant
      maxResidual
      iterations := proposal.iterations
      message := proposal.message }
  .ok
    { status, diagnosis, free
      solution := if finite then some proposal.x else none
      generation := sketch.store.generation }

/-- The solution that can be applied: of this generation of the store, and of a solve that
converged unless any effort is good enough. Whether it is, is only asked if the solve did not
converge. -/
def applicable? (sketch : Sketch) (bestEffort : Value) :
    Except Fault (Option (List Nat × List Float)) := do
  match sketch.attempt with
  | none => return none
  | some attempt =>
    match attempt.solution with
    | none => return none
    | some solution =>
      if attempt.generation ≠ sketch.store.generation then return none
      if attempt.status.converged then return some (attempt.free, solution)
      if ← bestEffort.truth then return some (attempt.free, solution) else return none

/-- The diagnosis of the last solve. -/
def diagnosis (sketch : Sketch) : Diagnosis :=
  match sketch.attempt with
  | some attempt => attempt.diagnosis
  | none => .initial

end Sketch

/-- What is written about one look of a backend at the residual. -/
def lookText (number : Nat) (x rows : List Float) : String :=
  "residual evaluation " ++ decimalText number ++ ": |r|=" ++
    scientificText 6 (vectorNorm rows) ++ " x=" ++ arraySummary [x.length] x

namespace Session

/-- The algorithm for a request. -/
def effectiveAlgorithm (request : Value) : Session Algorithm := do
  let requested ← Algorithm.parseRequest request
  let effective ← (← get).algorithmFor requested
  if effective ≠ requested then
    note .info .solver
      ("Temporary constraints present: overriding algorithm " ++ requested.name ++ " with " ++
        effective.name)
  return effective

/-- Record that a solve begins. -/
def noteStart (level : Level) (algorithm : Algorithm) (backend : String) : Session Unit := do
  let sketch ← get
  let free := sketch.store.freeIndices.length
  let hard ← sketch.hard
  let wishes ← sketch.heeded algorithm
  note level .solver
    ("Solving with algorithm=" ++ algorithm.name ++ " backend=" ++ backend ++ " free=" ++
      decimalText free ++ " fixed=" ++ decimalText (sketch.store.size - free) ++ " hard=" ++
      decimalText hard.length ++ " temporary=" ++ decimalText wishes.length)

/-- Record what happened in a search: what is said about it, and its looks if they are wanted. -/
def noteEvents (looksWanted : Bool) : (number : Nat) → List Event → Session Unit
  | _, [] => return ()
  | number, .remark level text :: rest => do
    note level .backend text
    noteEvents looksWanted number rest
  | number, .look x rows :: rest => do
    if looksWanted then note .info .solver (lookText number x rows)
    noteEvents looksWanted (number + 1) rest

/-- Record the outcome of a solve. -/
def noteOutcome (level : Level) (status : SolveStatus) (looks : Nat) : Session Unit := do
  note level .solver
    ("Solve finished converged=" ++ boolText status.converged ++ " max_residual=" ++
      scientificText 3 status.maxResidual ++ " iterations=" ++ integerText status.iterations ++
      " evaluations=" ++ decimalText looks ++ " dof=" ++ integerText status.freedom)
  unless status.conflicting.isEmpty && status.redundant.isEmpty &&
      status.partiallyRedundant.isEmpty do
    note level .solver
      ("Diagnostics conflicting=" ++ integersText status.conflicting ++ " redundant=" ++
        integersText status.redundant ++ " partially_redundant=" ++
        integersText status.partiallyRedundant)

/-- Solve the sketch by a backend. A refusal leaves the last solve as it was. -/
def solve (backend : Backend) (request : Value) : Session SolveStatus := do
  let options := (← get).options
  let algorithm ← effectiveAlgorithm request
  let level : Level := if options.debugMode = .none then .debug else .info
  noteStart level algorithm backend.name
  let problem ← (← get).problem algorithm
  let reply := backend.run problem algorithm options
  noteEvents (options.debugMode = .iteration) 1 reply.events
  let attempt ← (← get).judge backend.leastSquares algorithm (← reply.proposal)
  attempt.diagnosis.records.forM fun record => note record.level record.source record.message
  modify fun sketch => { sketch with attempt := some attempt }
  noteOutcome level attempt.status reply.looks
  return attempt.status

/-- Record that the last solution is one of an earlier generation of the store. -/
def noteStale : Session Unit := do
  let sketch ← get
  if let some attempt := sketch.attempt then
    if attempt.solution.isSome && attempt.generation ≠ sketch.store.generation then
      note .debug .solver "Store was cleared after the last solve; nothing to apply"

/-- Put the last solution into the store and measure what only measures; whether there was one to
apply. -/
def apply (bestEffort : Value) : Session Bool := do
  noteStale
  match ← (← get).applicable? bestEffort with
  | none => return false
  | some (free, solution) =>
    discard (onStore (·.assign free solution))
    discard (commitMeasurements (← get).store.snapshot)
    return true

/-- Diagnose the hard constraints at the values of the store. -/
def diagnoseHere (leastSquares : LeastSquares) (options : SolveOptions) : Session Diagnosis := do
  let sketch ← get
  let found ←
    diagnose leastSquares (← sketch.hard) sketch.store.snapshot sketch.store.freeIndices options
  found.records.forM fun record => note record.level record.source record.message
  return found

/-- A number by which others are multiplied: it may be an entry of an array, but no array. -/
def factorOf (value : Value) : Except Fault Float :=
  match value with
  | .bool _ | .int _ | .float _ | .entry _ | .array [] _ => value.toReal
  | .array .. => arithmeticFault .rowInSlot
  | value => arithmeticFault (.notFactor value)

/-- How the rows of the hard constraints change with the free slots. Without rows or without free
slots the step is not looked at. -/
def jacobian (step : Value) : Session (List (List Float)) := do
  let sketch ← get
  let full := sketch.store.snapshot
  let free := sketch.store.freeIndices
  let rows := freeRows (← sketch.hard) full free
  let start := gather full free
  let here ← rows start
  if here.isEmpty || start.isEmpty then return here.map fun _ => []
  let quotients : Except Fault (List (List Float)) :=
    differenceQuotients rows start (← factorOf step)
  quotients

/-- The greatest residual of the hard constraints at the values of the store. -/
def maxResidual : Session Float := do
  let sketch ← get
  return maxAbs (← stackedRows (← sketch.hard) sketch.store.snapshot)

end Session

end Drafting
