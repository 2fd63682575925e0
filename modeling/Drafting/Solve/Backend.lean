import Drafting.Solve.LeastSquares
import Drafting.Solve.Marquardt
import Drafting.Solve.Options
import Drafting.Solve.Wishing

/-!
# Backends

A backend is handed the free values, the rows that have to vanish and, if there are temporary
constraints, the rows that are wished to be small. It proposes new free values. Whether these solve
the problem is not for the backend to say.
-/

namespace Drafting

/-- What a backend is handed. -/
structure Problem where
  start : List Float
  residual : RowFunction
  wishes : Option RowFunction

/-- What a backend proposes. -/
structure Proposal where
  x : List Float
  iterations : Int
  message : String

/-- What a backend answers: what happened while it searched, and its proposal unless it failed. -/
structure Reply where
  events : List Event
  proposal : Except Fault Proposal

/-- The reply that a trial comes to. -/
def Trial.reply (trial : Trial Proposal) : Reply :=
  let (proposal, events) := trial.outcome
  ⟨events.toList, proposal⟩

/-- How often a backend looked at the rows that have to vanish. -/
def Reply.looks (reply : Reply) : Nat := reply.events.countP Event.isLook

/-- A way to solve problems, with the linear algebra that solutions are diagnosed by. -/
structure Backend where
  name : String
  run : Problem → Algorithm → SolveOptions → Reply
  leastSquares : LeastSquares

/-- The proposal to stay. -/
def Problem.stay (problem : Problem) (message : String) : Proposal :=
  ⟨problem.start, 0, message⟩

namespace Backend

/-- The tolerance of a search: a hundredth of the residual that counts as solved, but no less than
rounding allows. -/
def searchTolerance (options : SolveOptions) : Float :=
  larger (options.convergence * 1e-2) (2.0 * machineEpsilon)

/-- The settings of a descent of some rows. -/
def descentSettings (rows : Looking) (options : SolveOptions) : DescentSettings :=
  ⟨rows, options.jacobianStep, searchTolerance options⟩

/-- The proposal of a descent, with a remark on how it ended. -/
def descended (method : String) (descent : Trial Descent) : Trial Proposal := do
  let found ← descent
  Trial.remark .debug
    ("least_squares(method=" ++ method ++ ") status=" ++ decimalText found.ending.code ++
      " nfev=" ++ decimalText found.looks ++ " cost=" ++
      scientificText 3 (halfSquare found.rows))
  return ⟨found.x, found.looks, found.ending.message⟩

/-- The proposal of a descent within trusted boxes. -/
def dogleg (rows : Looking) (start : List Float) (options : SolveOptions) : Trial Proposal :=
  descended "dogbox"
    (BoxDescent.run (descentSettings rows options) start options.maxIterations)

/-- The proposal of a descent with damping. Rows are added until there are as many as unknowns. -/
def damped (rows : Looking) (start : List Float) (options : SolveOptions) : Trial Proposal :=
  let padded : Looking := fun x => return padRows (← rows x) start.length
  descended "lm"
    (DampedDescent.run (descentSettings padded options) start options.maxIterations)

/-- The proposal of a descent with a learned curvature. -/
def quasiNewton (rows : Looking) (start : List Float) (options : SolveOptions) :
    Trial Proposal := do
  let smooth := Smooth.ofRows rows options.jacobianStep
  let tolerance := searchTolerance options
  let found ← QuasiNewton.run smooth tolerance start options.maxIterations
  let code :=
    if maxAbs found.gradient ≤ tolerance then 0
    else if options.maxIterations ≤ found.steps then 1 else 2
  Trial.remark .debug
    ("BFGS status=" ++ decimalText code ++ " nit=" ++ decimalText found.steps ++ " fun=" ++
      scientificText 3 found.value)
  return ⟨found.x, found.steps, "Optimization terminated."⟩

/-- The wishes of a problem as a function. Without wishes it is zero everywhere. -/
def wishFunction (problem : Problem) (options : SolveOptions) : Smooth :=
  match problem.wishes with
  | none =>
    { value := fun _ => return 0.0, gradient := fun x => return x.map fun _ => 0.0 }
  | some wishes =>
    let rows : Looking := fun x => wishes x
    let smooth := Smooth.ofRows rows options.jacobianStep
    { smooth with
      gradient := fun x => do
        if (← rows x).isEmpty then return x.map fun _ => 0.0 else smooth.gradient x }

/-- Refine a proposal on the residual, if that is wanted, there are constraints, and it brings the
proposal nearer to them. -/
def refined (problem : Problem) (options : SolveOptions) (bound : Bool) (proposal : Proposal) :
    Trial Proposal := do
  let rows : Looking := Trial.look problem.residual
  unless (← options.refine.truth) && bound do return proposal
  if options.convergence < maxAbs (← rows proposal.x) then
    Trial.remark .debug "Refining SQP result on hard constraints"
    let better ← dogleg rows proposal.x options
    if maxAbs (← rows better.x) < maxAbs (← rows proposal.x) then
      return ⟨better.x, proposal.iterations + better.iterations,
        proposal.message ++ "; refined: " ++ better.message⟩
  return proposal

/-- The proposal that reconciles wishes with constraints. -/
def reconciled (wishing : Wishing) (start : List Float) (options : SolveOptions) :
    Trial Proposal := do
  let found ← wishing.run start options.maxIterations
  Trial.remark .debug
    ("SLSQP status=" ++ decimalText found.ending.code ++ " nit=" ++ decimalText found.steps ++
      " fun=" ++ scientificText 3 found.value)
  return ⟨found.x, found.steps, found.ending.message⟩

/-- Whether a search that meets a fault ends where it started. -/
def endsSearch (fault : Fault) : Bool :=
  fault.category = .value || fault.category = .linearAlgebra

/-- The proposal for wishes and constraints. Values outside the domain of a row end it where it
started. -/
def constrained (problem : Problem) (options : SolveOptions) : Trial Proposal := do
  let rows : Looking := Trial.look problem.residual
  let bound := !(← rows problem.start).isEmpty
  let wishing : Wishing :=
    { wishes := wishFunction problem options
      constraints := if bound then some rows else none
      quotientStep := options.jacobianStep
      tolerance := searchTolerance options }
  let found ← tryCatch (some <$> reconciled wishing problem.start options) fun fault => do
    unless endsSearch fault do throw fault
    Trial.remark .warning ("SLSQP failed to start: " ++ fault.message)
    return none
  match found with
  | none => return problem.stay "SLSQP error"
  | some proposal => refined problem options bound proposal

/-- The proposal for a problem with free values. Without rows there is nothing to do. -/
def search (problem : Problem) (algorithm : Algorithm) (options : SolveOptions) :
    Trial Proposal := do
  if algorithm = .sqp then return ← constrained problem options
  let rows : Looking := Trial.look problem.residual
  if (← rows problem.start).isEmpty then return problem.stay "no residuals"
  match algorithm with
  | .bfgs => quasiNewton rows problem.start options
  | .levenbergMarquardt => damped rows problem.start options
  | _ => dogleg rows problem.start options

/-- The backend that computes. Without free values there is nothing to do. -/
def numeric : Backend where
  name := "scipy"
  run problem algorithm options :=
    if problem.start.isEmpty then ⟨[], .ok (problem.stay "no free parameters")⟩
    else (search problem algorithm options).reply
  leastSquares := shortestCombination

end Backend

/-- What a prescribed proposal is: given values, or given changes of the start. -/
inductive Prescription where
  | values (x : List Float)
  | shift (delta : Float)
  | shifts (deltas : List Float)

/-- The values that a prescription gives for a start. One change serves all values, and one value
all changes. -/
def Prescription.apply (start : List Float) : Prescription → Except Fault (List Float)
  | values x => .ok x
  | shift delta => .ok (start.map (· + delta))
  | shifts deltas =>
    if deltas.length = start.length then .ok (List.zipWith (· + ·) start deltas)
    else
      match start, deltas with
      | start, [delta] => .ok (start.map (· + delta))
      | [value], deltas => .ok (deltas.map (value + ·))
      | start, deltas => .error (.arithmetic (.lengthMismatch start.length deltas.length))

/-- The proposal that is prescribed, after one look at the rows and one at the wishes where it
starts. -/
def Prescription.proposal (prescription : Prescription) (problem : Problem) (iterations : Int)
    (message : String) : Trial Proposal := do
  discard (Trial.look problem.residual problem.start)
  if let some wishes := problem.wishes then discard (wishes problem.start)
  return ⟨← prescription.apply problem.start, iterations, message⟩

/-- The backend that proposes what is prescribed. -/
def Backend.prescribed (prescription : Prescription) (iterations : Int) (message : String) :
    Backend where
  name := "scripted"
  run problem _ _ := (prescription.proposal problem iterations message).reply
  leastSquares := shortestCombination

end Drafting
