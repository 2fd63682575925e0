import Drafting.Exchange.Emission
import Drafting.Sketch.Drawing

/-!
# Reports

What a run prints about a sketch: the outcome of its solve, where its points are, and what a second
solver makes of it.
-/

namespace Drafting

/-- The line about a point. -/
def pointLine (id : Nat) (coordinates : Float × Float) : String :=
  "  #" ++ decimalText id ++ ": (" ++ fixedText 6 coordinates.1 ++ ", " ++
    fixedText 6 coordinates.2 ++ ")"

/-- The lines about the registered points, in the order of registration. -/
def Session.pointLines : Session (List String) := do
  let points := (← get).table.entries.filter fun entry => entry.view.kind = .point
  points.mapM fun entry => do
    return pointLine entry.id (← Session.pointCoordinates (.view entry.view))

/-- The lines about the outcome of a solve; `applied` tells whether there was a solution to put
into the store. -/
def SolveStatus.lines (status : SolveStatus) (applied : Bool) : List String :=
  [ "Algorithm: " ++ status.algorithm.name,
    "Converged: " ++ boolText status.converged,
    "Applied: " ++ boolText applied,
    "Max residual: " ++ scientificText 3 status.maxResidual,
    "DOF: " ++ integerText status.freedom,
    "Conflicting: " ++ integersText status.conflicting,
    "Redundant: " ++ integersText status.redundant,
    "Partially redundant: " ++ integersText status.partiallyRedundant ]

/-- The lines about a verdict. -/
def Verdict.lines : Verdict → List String
  | solved coordinates => coordinates.map fun (id, coordinates) => pointLine id coordinates
  | failed constraints => ["  failures: " ++ integersText constraints]

/-- The lines about a cross-check. -/
def Exchange.lines (exchange : Exchange) : List String :=
  [ "CAD status:",
    "  ok: " ++ boolText exchange.succeeded,
    "  dof: " ++ integerText exchange.freedom ] ++
  (if exchange.unsupported.isEmpty then []
    else ["  unsupported: " ++ naturalsText exchange.unsupported]) ++
  exchange.verdict.lines

end Drafting
