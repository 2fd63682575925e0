import Drafting.Scalar

/-!
# Rows, vectors and difference quotients

The residual of several constraints is one list of rows. Some slots of the full parameter vector
are free; `scatter` puts values into them. `differenceQuotients` approximates how every row changes
with every free value.
-/

namespace Drafting

/-- A function from free values to rows. -/
abbrev RowFunction := List Float → Except Fault (List Float)

/-- The largest magnitude among some numbers; not a number if one of them is not. -/
def maxAbs (values : List Float) : Float :=
  values.foldl (fun a x => if a < x.abs || x.isNaN then x.abs else a) 0.0

/-- The inner product of two lists of numbers. -/
def innerProduct (u v : List Float) : Float :=
  (List.zipWith (· * ·) u v).foldl (· + ·) 0.0

/-- The length of a list of numbers as a vector. -/
def vectorNorm (v : List Float) : Float := (innerProduct v v).sqrt

/-- Half the sum of the squares of some numbers. -/
def halfSquare (v : List Float) : Float := 0.5 * innerProduct v v

/-- The sum of two vectors. -/
def vectorSum (u v : List Float) : List Float := List.zipWith (· + ·) u v

/-- A vector minus another. -/
def vectorDifference (u v : List Float) : List Float := List.zipWith (· - ·) u v

/-- A multiple of a vector. -/
def scaled (factor : Float) (v : List Float) : List Float := v.map (factor * ·)

/-- A vector minus a multiple of another. -/
def subtractMultiple (v : List Float) (factor : Float) (u : List Float) : List Float :=
  List.zipWith (fun a b => a - factor * b) v u

/-- Rows with zeros behind up to a count. -/
def padRows (values : List Float) (count : Int) : List Float :=
  values ++ List.replicate (count - values.length).toNat 0.0

/-- The entries of a vector at some slots. -/
def gather (vector : Array Float) (slots : List Nat) : List Float :=
  slots.map fun slot => vector.getD slot 0.0

/-- The vector with one value in each of some slots. -/
def scatterEach (vector : Array Float) (slots : List Nat) (values : List Float) : Array Float :=
  (slots.zip values).foldl (fun vector (slot, value) => vector.setIfInBounds slot value) vector

/-- The vector with values in some slots. There have to be as many values as slots, or a single
one that goes into all of them. -/
def scatter (vector : Array Float) (slots : List Nat) (values : List Float) :
    Except Fault (Array Float) :=
  if values.length = slots.length then .ok (scatterEach vector slots values)
  else
    match values with
    | [value] => .ok (scatterEach vector slots (slots.map fun _ => value))
    | _ => .error (.arithmetic (.lengthMismatch values.length slots.length))

/-- The quotient of the central difference in one free value. -/
def differenceQuotient [Monad m] (f : List Float → m (List Float)) (x : List Float) (step : Float)
    (place : Nat) : m (List Float) := do
  let center := x.getD place 0.0
  let h := step * larger 1.0 center.abs
  let forward ← f (x.set place (center + h))
  let backward ← f (x.set place (center - h))
  return List.zipWith (fun a b => (a - b) / (2.0 * h)) forward backward

/-- How every row changes with every free value: one list of quotients for each row. -/
def differenceQuotients [Monad m] (f : List Float → m (List Float)) (x : List Float)
    (step : Float) : m (List (List Float)) := do
  let base ← f x
  if base.isEmpty then return []
  let columns ← (List.range x.length).mapM (differenceQuotient f x step)
  return (List.range base.length).map fun row => columns.map (·.getD row 0.0)

/-- Scattering keeps the length of the vector. -/
@[simp] theorem size_scatterEach (vector : Array Float) (slots : List Nat) (values : List Float) :
    (scatterEach vector slots values).size = vector.size := by
  unfold scatterEach
  generalize slots.zip values = pairs
  induction pairs generalizing vector with
  | nil => rfl
  | cons pair rest ih => simp [ih]

end Drafting
