import Drafting.Solve.Orthogonal

/-!
# Factored curvature

A positive symmetric matrix is kept as the columns of a lower triangular matrix with ones on its
diagonal and a positive pivot for each column. Adding a multiple of the square of a vector changes
the factors in place, so the matrix stays positive whatever rounding does.
-/

namespace Drafting

/-- A column of the factors: its pivot, and its entries below the diagonal. -/
structure LowerColumn where
  pivot : Float
  below : List Float

/-- A positive symmetric matrix in factors. -/
abbrev Factors := List LowerColumn

namespace Factors

/-- The identity. -/
def identity : (width : Nat) → Factors
  | 0 => []
  | width + 1 => ⟨1.0, List.replicate width 0.0⟩ :: identity width

/-- The solution of the lower triangular system for a vector. -/
def solveLower : Factors → List Float → List Float
  | column :: rest, a :: others => a :: solveLower rest (subtractMultiple others a column.below)
  | _, _ => []

/-- The product of the lower triangular matrix and a vector. -/
def lowerProduct : Factors → List Float → List Float
  | column :: rest, a :: others =>
    a :: vectorSum (lowerProduct rest others) (scaled a column.below)
  | _, _ => []

/-- The product of the transposed triangular matrix and a vector. -/
def upperProduct : Factors → List Float → List Float
  | column :: rest, a :: others =>
    (a + innerProduct column.below others) :: upperProduct rest others
  | _, _ => []

/-- The product of the matrix and a vector. -/
def apply (factors : Factors) (v : List Float) : List Float :=
  factors.lowerProduct
    (List.zipWith (fun column a => column.pivot * a) factors (factors.upperProduct v))

/-- The rows of the upper triangular root of the matrix, each with some zeros in front. -/
def rootRows : (indent : Nat) → Factors → List (List Float)
  | _, [] => []
  | indent, column :: rest =>
    scaled column.pivot.sqrt (List.replicate indent 0.0 ++ 1.0 :: column.below) ::
      rootRows (indent + 1) rest

/-- The vector that the transposed root takes to a given one. -/
def rootSolution (factors : Factors) (v : List Float) : List Float :=
  List.zipWith (fun column a => a / column.pivot.sqrt) factors (factors.solveLower v)

/-- The factors after a change by a vector. The weights before and after each column tell how much
of the change is still to come. -/
def changed : (before : Float) → Factors → (v after : List Float) → Factors
  | before, column :: rest, a :: others, weight :: weights =>
    let ratio := weight / before
    let share := a / column.pivot / weight
    let left := subtractMultiple others a column.below
    let below :=
      if 4.0 < ratio then
        List.zipWith (fun u z => before / weight * u + share * z) column.below others
      else List.zipWith (fun u z => u + share * z) column.below left
    ⟨ratio * column.pivot, below⟩ :: changed weight rest left weights
  | _, factors, _, _ => factors

/-- What each column has of a vector's square. -/
def shares (factors : Factors) (v : List Float) : List Float :=
  List.zipWith (fun column a => a / column.pivot * a) factors (factors.solveLower v)

/-- The sums of a number and the first of some others. -/
def runningSums (total : Float) : List Float → List Float
  | [] => []
  | a :: rest => (total + a) :: runningSums (total + a) rest

/-- The matrix with a multiple of the square of a vector added; `inverse` is one divided by the
multiple. -/
def raised (factors : Factors) (inverse : Float) (v : List Float) : Factors :=
  factors.changed inverse v (runningSums inverse (factors.shares v))

/-- Of some numbers a total less those that come later, and the total less all of them. -/
def remainingSums (total : Float) (parts : List Float) : Float × List Float :=
  parts.foldr (fun a (left, sums) => (left - a, left :: sums)) (total, [])

/-- The matrix with a multiple of the square of a vector taken away; `inverse` is one divided by the
multiple and negative. What would leave no positive matrix is cut short of that. -/
def lowered (factors : Factors) (inverse : Float) (v : List Float) : Factors :=
  let parts := factors.shares v
  let total := parts.foldl (· + ·) inverse
  let total := if 0.0 ≤ total then 2.220446049250313e-16 * inverse else total
  let (before, after) := remainingSums total parts
  factors.changed before v after

/-- The identity has as many columns as it is wide. -/
@[simp] theorem length_identity (width : Nat) : (identity width).length = width := by
  induction width with
  | zero => rfl
  | succ width ih => simp [identity, ih]

end Factors

end Drafting
