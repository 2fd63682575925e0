import Drafting.Solve.Dogleg

/-!
# Descent with damping

Half the sum of the squares of some rows is lowered step by step. A step minimises the linear rows
with a damping that keeps it within a trusted distance, measured in units that every unknown has of
its own. The damping is found by a search of its own: without damping if that step is short enough,
and otherwise so that the step is as long as is trusted, up to a tenth.

The linear rows are brought to triangular form by reflections; each stage takes the unknown with the
longest column that is left.
-/

namespace Drafting

/-- The distance from one to the next number. -/
def machineEpsilon : Float := 2.220446049250313e-16

/-- The least positive number of full precision. -/
def leastNormal : Float := 2.2250738585072014e-308

/-- The length of a vector whose entries may be too large to be squared. -/
def longLength (v : List Float) : Float :=
  let greatest := maxAbs v
  if greatest == 0.0 || !greatest.isFinite then greatest
  else greatest * vectorNorm (v.map (· / greatest))

/-- One row of a triangular system: the unknown that it is solved for with its coefficient, the
coefficients of the unknowns solved for before, and what the row comes to. -/
structure TriangularRow where
  unknown : Nat
  diagonal : Float
  others : List (Nat × Float)
  value : Float

/-- A column that is still to be reduced. Its length is kept along, since that is cheaper than to
take it anew; `reference` is the length when it last was. -/
structure ActiveColumn where
  unknown : Nat
  entries : List Float
  length : Float
  reference : Float

namespace ActiveColumn

/-- A column of an unknown. -/
def of (unknown : Nat) (entries : List Float) : ActiveColumn :=
  ⟨unknown, entries, longLength entries, longLength entries⟩

/-- A column without its first entry. -/
def shortened (c : ActiveColumn) : ActiveColumn :=
  let first := c.entries.headD 0.0
  let rest := c.entries.drop 1
  if c.length == 0.0 then { c with entries := rest }
  else
    let part := first / c.length
    let length := c.length * (larger 0.0 (1.0 - part * part)).sqrt
    let share := length / c.reference
    if 0.05 * (share * share) ≤ machineEpsilon then .of c.unknown rest
    else { c with entries := rest, length := length }

end ActiveColumn

/-- The place of the longest column, the first of several. -/
def longestPlace (columns : List ActiveColumn) : Nat :=
  (columns.zipIdx.foldl (fun (best : Float × Nat) (c, place) =>
    if best.1 < c.length then (c.length, place) else best)
    ((columns.head?.map (·.length)).getD 0.0, 0)).2

/-- The longest column and the others; the first one takes its place. -/
def pickLongest (columns : List ActiveColumn) : Option (ActiveColumn × List ActiveColumn) :=
  let place := longestPlace columns
  match columns, columns[place]? with
  | first :: rest, some chosen => some (chosen, (first :: rest).set place first |>.drop 1)
  | _, _ => none

/-- A vector reflected so that a given one, brought to length one and with one added to its first
entry, is the direction of the reflection. -/
def reflect (direction v : List Float) : List Float :=
  let factor := innerProduct direction v / direction.headD 1.0
  subtractMultiple v factor direction

/-- Bring columns to triangular form, along with a target. -/
def triangulate : (stages : Nat) → List ActiveColumn → (target : List Float) → List TriangularRow
  | 0, _, _ => []
  | stages + 1, columns, target =>
    match pickLongest columns with
    | none => []
    | some (chosen, rest) =>
      let length := longLength chosen.entries
      if length == 0.0 then
        row chosen.unknown 0.0 rest target ::
          triangulate stages (rest.map .shortened) (target.drop 1)
      else
        let signed := if chosen.entries.headD 0.0 < 0.0 then -length else length
        let direction := (chosen.entries.map (· / signed)).modifyHead (· + 1.0)
        let rest := rest.map fun c => { c with entries := reflect direction c.entries }
        let target := reflect direction target
        row chosen.unknown (-signed) rest target ::
          triangulate stages (rest.map .shortened) (target.drop 1)
where
  /-- The row of a stage. -/
  row (unknown : Nat) (diagonal : Float) (rest : List ActiveColumn) (target : List Float) :
      TriangularRow :=
    { unknown, diagonal
      others := rest.map fun c => (c.unknown, c.entries.headD 0.0)
      value := target.headD 0.0 }

/-- The triangular form of rows with a target. -/
def triangular (width : Nat) (rows : List (List Float)) (target : List Float) :
    List TriangularRow :=
  triangulate (min width rows.length)
    ((transposed width rows).zipIdx.map fun (column, unknown) => .of unknown column) target

namespace TriangularRow

/-- The sum of the coefficients times some values. -/
def sum (r : TriangularRow) (values : Array Float) : Float :=
  r.others.foldl (fun total (unknown, a) => total + a * values.getD unknown 0.0) 0.0

end TriangularRow

/-- The rows before the first one whose unknown has no coefficient. -/
def definiteRows (rows : List TriangularRow) : List TriangularRow :=
  rows.takeWhile fun r => r.diagonal != 0.0

/-- The solution of triangular rows, from the last to the first. Unknowns without a row are zero. -/
def solveTriangular (width : Nat) (rows : List TriangularRow) : Array Float :=
  (definiteRows rows).foldr
    (fun r x => x.setIfInBounds r.unknown ((r.value - r.sum x) / r.diagonal))
    (Array.replicate width 0.0)

/-- The solution of the transposed system, from the first row to the last. -/
def solveTransposed (rows : List TriangularRow) (target : Array Float) : List Float :=
  (rows.foldl (fun (solved, rest) r =>
    let w := rest.getD r.unknown 0.0 / r.diagonal
    (solved ++ [w],
      r.others.foldl (fun (rest : Array Float) (unknown, a) =>
        rest.setIfInBounds unknown (rest.getD unknown 0.0 - a * w)) rest))
    (([] : List Float), target)).1

namespace DampedDescent

/-- A vector in the units of the unknowns. -/
def inUnits (units v : List Float) : List Float := List.zipWith (· * ·) units v

/-- A linear model: slopes and rows at a point, their triangular form, the units of the unknowns,
and the gradient. -/
structure Model where
  slopes : List (List Float)
  rows : List Float
  triangle : List TriangularRow
  units : List Float
  gradient : List Float

/-- The step of a model with a damping. -/
structure DampedStep where
  damping : Float
  move : List Float

/-- The triangular form of a model with a damping. -/
def Model.dampedTriangle (m : Model) (damping : Float) : List TriangularRow :=
  let width := m.units.length
  let root := damping.sqrt
  let dampers := m.units.zipIdx.map fun (unit, place) => axisVector width place (root * unit)
  triangular width (m.slopes ++ dampers) (m.rows ++ List.replicate width 0.0)

/-- How fast the excess length of a step falls with the damping, relative to the length trusted. -/
def correction (m : Model) (triangle : List TriangularRow) (move : List Float)
    (length excess radius : Float) : Float :=
  let target := inUnits m.units (scaled (1.0 / length) (inUnits m.units move))
  let size := longLength (solveTransposed triangle target.toArray)
  excess / radius / size / size

/-- Search the damping with which the step is as long as the radius, between two bounds. -/
def searchDamping (m : Model) (radius : Float) :
    (rounds : Nat) → (lower upper damping excess : Float) → DampedStep
  | 0, _, _, damping, _ => ⟨damping, []⟩
  | rounds + 1, lower, upper, damping, before =>
    let damping := if damping == 0.0 then larger leastNormal (0.001 * upper) else damping
    let triangle := m.dampedTriangle damping
    let move := (solveTriangular m.units.length triangle).toList
    let length := longLength (inUnits m.units move)
    let excess := length - radius
    if excess.abs ≤ 0.1 * radius || (lower == 0.0 && excess ≤ before && before < 0.0) ||
        rounds = 0 then
      ⟨damping, move⟩
    else
      let further := correction m triangle move length excess radius
      let lower' := if 0.0 < excess then larger lower damping else lower
      let upper' := if excess < 0.0 then smaller upper damping else upper
      searchDamping m radius rounds lower' upper' (larger lower' (damping + further)) excess

/-- The step of a model within a radius, given the damping of the step before. -/
def Model.step (m : Model) (radius damping : Float) : DampedStep :=
  let width := m.units.length
  let move := (solveTriangular width m.triangle).toList
  let length := longLength (inUnits m.units move)
  let excess := length - radius
  if excess ≤ 0.1 * radius then ⟨0.0, move⟩
  else
    let definite := (definiteRows m.triangle).length = width
    let lower := if definite then correction m m.triangle move length excess radius else 0.0
    let size := longLength (List.zipWith (· / ·) m.gradient m.units)
    let upper := if size / radius == 0.0 then leastNormal / smaller radius 0.1 else size / radius
    let first := smaller (larger damping lower) upper
    let first := if first == 0.0 then size / length else first
    searchDamping m radius 10 lower upper first excess

/-- Where a search stands. -/
structure Stand where
  x : List Float
  rows : List Float
  units : List Float
  /-- The length of the point in the units it was reached with. -/
  size : Float
  radius : Float
  damping : Float
  /-- Whether no step has been made yet. -/
  fresh : Bool
  looks : Nat

/-- The greatest cosine between the rows and a column of their slopes. -/
def greatestCosine (m : Model) (lengths : List Float) : Float :=
  let size := longLength m.rows
  if size == 0.0 then 0.0
  else
    ((m.gradient.zip lengths).map fun (g, length) =>
      if length == 0.0 then 0.0 else (g / size / length).abs).foldl larger 0.0

/-- What a step promises and what came of it. -/
structure Judgement where
  gain : Float
  promise : Float
  ratio : Float
  radius : Float
  damping : Float

/-- Judge a step by the lengths of the rows before and after it. -/
def judge (m : Model) (step : DampedStep) (radius length before after : Float) : Judgement :=
  let gain :=
    if 0.1 * after < before then 1.0 - (after / before) * (after / before) else -1.0
  let linear := longLength (m.slopes.map (innerProduct step.move)) / before
  let damped := step.damping.sqrt * length / before
  let promise := linear * linear + damped * damped / 0.5
  let decline := -(linear * linear + damped * damped)
  let ratio := if promise == 0.0 then 0.0 else gain / promise
  if ratio ≤ 0.25 then
    let share := if 0.0 ≤ gain then 0.5 else 0.5 * decline / (decline + 0.5 * gain)
    let share := if before ≤ 0.1 * after || share < 0.1 then 0.1 else share
    ⟨gain, promise, ratio, share * smaller radius (length / 0.1), step.damping / share⟩
  else if step.damping == 0.0 || 0.75 ≤ ratio then
    ⟨gain, promise, ratio, length / 0.5, 0.5 * step.damping⟩
  else ⟨gain, promise, ratio, radius, step.damping⟩

/-- Whether a step changed too little to go on. -/
def ending? (tolerance size : Float) (j : Judgement) : Option Ending :=
  settling? (j.gain.abs ≤ tolerance && j.promise ≤ tolerance && 0.5 * j.ratio ≤ 1.0)
    (j.radius ≤ tolerance * size)

/-- The model at a point, its units being at least the lengths of the columns. -/
def modelAt (s : DescentSettings) (stand : Stand) : Trial (Model × List Float) := do
  let slopes ← differenceQuotients s.rows stand.x s.quotientStep
  let width := stand.x.length
  let lengths := (transposed width slopes).map longLength
  let units :=
    if stand.fresh then lengths.map fun length => if length == 0.0 then 1.0 else length
    else List.zipWith larger stand.units lengths
  let target := stand.rows
  return (
    { slopes, rows := target.map (- ·), triangle := triangular width slopes (target.map (- ·))
      units, gradient := weightedSum width target slopes },
    lengths)

/-- How many times the length of the start is trusted at first. -/
def firstReach : Float := 100.0

/-- The stand with the units of a model. Before the first step the radius is chosen. -/
def Stand.measured (stand : Stand) (m : Model) : Stand :=
  if stand.fresh then
    let size := longLength (inUnits m.units stand.x)
    let radius := if size == 0.0 then firstReach else firstReach * size
    { stand with units := m.units, size := size, radius := radius }
  else { stand with units := m.units }

/-- The stand after a step that was judged. A step that did too little of what it promised is not
kept. -/
def Stand.after (stand : Stand) (x rows : List Float) (j : Judgement) : Stand :=
  let next : Stand :=
    { stand with radius := j.radius, damping := j.damping, looks := stand.looks + 1 }
  if 1e-4 ≤ j.ratio then
    { next with x := x, rows := rows, size := longLength (inUnits stand.units x), fresh := false }
  else next

/-- Take steps of a model from a stand with a budget of further looks. A step that is not kept is
followed by a shorter one of the same model. -/
def search (s : DescentSettings) : (budget : Nat) → Stand → Model → Trial Descent
  | 0, stand, _ => return ⟨stand.x, stand.rows, .exhausted, stand.looks⟩
  | budget + 1, stand, m => do
    let step := m.step stand.radius stand.damping
    let x := vectorSum stand.x step.move
    let length := longLength (inUnits m.units step.move)
    let radius := if stand.fresh then smaller stand.radius length else stand.radius
    let rows ← s.rows x
    let j := judge m step radius length (longLength stand.rows) (longLength rows)
    let next := stand.after x rows j
    match ending? s.tolerance next.size j with
    | some ending => return ⟨next.x, next.rows, ending, next.looks⟩
    | none =>
      if j.ratio < 1e-4 then search s budget next m
      else if budget = 0 then return ⟨next.x, next.rows, .exhausted, next.looks⟩
      else
        let (m, lengths) ← modelAt s next
        if greatestCosine m lengths ≤ s.tolerance then
          return ⟨next.x, next.rows, .flat, next.looks⟩
        else search s budget (next.measured m) m

/-- The greatest budget that is counted with. -/
def greatestBudget : Nat := 2147483647

/-- Descend from a start with a budget of looks, the one at the start included; a step is made even
if the budget has no room for one. Rows that are not finite at the start are refused. -/
def run (s : DescentSettings) (start : List Float) (budget : Nat) : Trial Descent := do
  let rows ← s.rows start
  unless rows.all Float.isFinite do throw (.arithmetic .startNotFinite)
  let stand : Stand := ⟨start, rows, [], 0.0, 0.0, 0.0, true, 1⟩
  let (m, lengths) ← modelAt s stand
  if greatestBudget < budget then throw (.arithmetic .integerTooLarge)
  let found ←
    if greatestCosine m lengths ≤ s.tolerance then pure ⟨start, rows, .flat, 1⟩
    else search s (max 1 (budget - 1)) (stand.measured m) m
  discard (differenceQuotients s.rows found.x s.quotientStep)
  return found

end DampedDescent

end Drafting
