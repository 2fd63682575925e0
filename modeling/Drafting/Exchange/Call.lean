import Drafting.Number.Notation

/-!
# Calls to a second solver

A sketch is cross-checked by another solver, which is told about it call by call. A call that
creates an entity names it by the number of entities created so far. Some calls create constraints,
which the other solver numbers from one in the order of the calls; by these numbers it reports the
constraints it cannot satisfy.
-/

namespace Drafting

/-- A call to the other solver. Entities are numbered from one in the order of creation. -/
inductive SolverCall where
  | point (x y : Float) (entity : Nat)
  | line (start finish entity : Nat)
  | normal (entity : Nat)
  | circle (normal center : Nat) (radius : Float) (entity : Nat)
  | drag (entity : Nat)
  | diameter (entity : Nat) (value : Float)
  | coincident (first second : Nat)
  | distance (first second : Nat) (value : Float)
  | parallel (first second : Nat)
  | perpendicular (first second : Nat)
  | angle (first second : Nat) (degrees : Float)
  | lengthDifference (first second : Nat) (value : Float)
  | solve

namespace SolverCall

/-- Whether a call creates a constraint. -/
def createsConstraint : SolverCall → Bool
  | drag _ | diameter .. | coincident .. | distance .. | parallel .. | perpendicular .. | angle ..
  | lengthDifference .. => true
  | point .. | line .. | normal _ | circle .. | solve => false

end SolverCall

/-- What the other solver replies: a result, which is zero for success, the numbers of the
constraints that failed, the degrees of freedom, and the solved coordinates of entities. Points
without solved coordinates stay where they were. -/
structure SolverReply where
  result : Int
  failures : List Int
  freedom : Int
  coordinates : List (Nat × Float × Float)

/-- The reply of a solver that finds everything in order and moves nothing. -/
def SolverReply.unchanged : SolverReply := ⟨0, [], 0, []⟩

end Drafting
