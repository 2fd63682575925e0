import Drafting.Solve.Jacobian

/-!
# Orthogonal directions

Rows are brought one after the other to directions of length one that are orthogonal to those kept
before. A row with too little left adds no direction. Along the directions kept, a vector is
written as a combination of rows.
-/

namespace Drafting

/-- What is left of a direction beside some directions of length one, taken away one after the
other. -/
def orthogonalPart (basis : List (List Float)) (direction : List Float) : List Float :=
  basis.foldl (fun rest unit => subtractMultiple rest (innerProduct unit rest) unit) direction

/-- The direction that a row adds to those kept so far, unless what is left of it is too short. The
orthogonal part is taken twice, which removes what rounding leaves the first time. -/
def newDirection (tolerance : Float) (basis : List (List Float)) (row : List Float) :
    Option (List Float) :=
  let rest := orthogonalPart basis (orthogonalPart basis row)
  let norm := vectorNorm rest
  if norm ≤ tolerance then none else some (rest.map (· / norm))

/-- What each row adds to the directions kept before it: a new direction for an independent row,
nothing for a dependent one. -/
def newDirections (tolerance : Float) :
    (basis : List (List Float)) → (rows : List (List Float)) → List (Option (List Float))
  | _, [] => []
  | basis, row :: rest =>
    match newDirection tolerance basis row with
    | some unit => some unit :: newDirections tolerance (basis ++ [unit]) rest
    | none => none :: newDirections tolerance basis rest

/-- The length of the longest row, or one if all are shorter. -/
def rowScale (rows : List (List Float)) : Float :=
  larger 1.0 (maxAbs (rows.map vectorNorm))

/-- The directions that some rows add, in order. -/
def keptDirections (tolerance : Float) (rows : List (List Float)) : List (List Float) :=
  (newDirections tolerance [] rows).filterMap id

/-- The coefficients of a vector as a combination of rows, each given with the direction it added.
That direction is new to the rows before it and so fixes its coefficient, from the last row to the
first. -/
def combination (rows : List (List Float × List Float)) (vector : List Float) : List Float :=
  (rows.foldr
    (fun (unit, row) (coefficients, rest) =>
      let coefficient := innerProduct unit rest / innerProduct unit row
      (coefficient :: coefficients, subtractMultiple rest coefficient row))
    ([], vector)).1

/-- Columns as rows. -/
def transposed (width : Nat) (rows : List (List Float)) : List (List Float) :=
  (List.range width).map fun column => rows.map (·.getD column 0.0)

/-- The sum of multiples of some vectors of one length. -/
def weightedSum (width : Nat) (coefficients : List Float) (vectors : List (List Float)) :
    List Float :=
  (coefficients.zip vectors).foldl (fun sum (factor, v) => subtractMultiple sum (-factor) v)
    (List.replicate width 0.0)

/-- The unit vector along one of `width` axes, times a factor. -/
def axisVector (width place : Nat) (factor : Float) : List Float :=
  (List.replicate width 0.0).set place factor

end Drafting
