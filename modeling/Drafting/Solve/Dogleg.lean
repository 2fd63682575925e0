import Drafting.Solve.Singular
import Drafting.Solve.Trial

/-!
# Descent within a trusted box

Half the sum of the squares of some rows is lowered step by step. At a point the rows are taken as
linear, which is trusted within a box around the point. If the shortest step to the minimum of the
linear rows stays in the box it is taken; otherwise the step goes down the gradient as far as the
linear rows allow and from there towards that minimum until it meets the border of the box. A step
that lowers the rows is kept. The box grows after a step to its border that did what the linear rows
promised, and shrinks after one that did not.
-/

namespace Drafting

/-- The rows at a point, how they change there, and the gradient of half their sum of squares. -/
structure Site where
  x : List Float
  rows : List Float
  slopes : List (List Float)
  gradient : List Float

/-- The site at a point where the rows are known. -/
def siteAt (f : Looking) (quotientStep : Float) (x rows : List Float) : Trial Site := do
  let slopes ← differenceQuotients f x quotientStep
  return ⟨x, rows, slopes, weightedSum x.length rows slopes⟩

/-- A site with the minimum of its linear rows, and the bend and the slope that half the sum of the
squares of the linear rows has against the gradient. -/
structure LinearModel where
  site : Site
  newton : List Float
  bend : Float
  slope : Float

/-- The part of the strongest direction that is no more than rounding. -/
def roundingCutoff : Float := 1.1102230246251565e-16

/-- The linear model of a site. Slopes that are not finite have none. -/
def Site.model (s : Site) : Except Fault LinearModel := do
  unless s.slopes.all (·.all Float.isFinite) do throw (.arithmetic .decomposition)
  return {
    site := s
    newton := shortestSolution s.x.length roundingCutoff s.slopes (s.rows.map (- ·))
    bend := halfSquare (s.slopes.map (innerProduct s.gradient))
    slope := -innerProduct s.gradient s.gradient }

/-- Whether a step stays in the box of a radius. -/
def inBox (radius : Float) (step : List Float) : Bool :=
  step.all fun a => -radius ≤ a && a ≤ radius

/-- The larger of two numbers; not a number if one of them is not. -/
def strictlyLarger (a b : Float) : Float :=
  if a.isNaN then a else if b.isNaN then b else larger a b

/-- How many times a step can be made from a place in the box until one entry meets the border. -/
def entryReach (radius place step : Float) : Float :=
  if step == 0.0 then 1.0 / 0.0
  else strictlyLarger ((-radius - place) / step) ((radius - place) / step)

/-- The smallest of some numbers; not a number if one of them is not. -/
def smallestReach (values : List Float) : Float :=
  values.foldl (fun a b => if b < a || b.isNaN then b else a) (1.0 / 0.0)

/-- A step, and whether it ends at the border of the box. -/
structure BoxStep where
  move : List Float
  atBorder : Bool

namespace LinearModel

/-- How far down the gradient the linear rows are lowest, up to a limit. -/
def steepest (m : LinearModel) (limit : Float) : Float :=
  let lowest := -0.5 * m.slope / m.bend
  let value (t : Float) := t * (m.bend * t + m.slope)
  let ends := if value limit < value 0.0 || (value limit).isNaN then limit else 0.0
  if m.bend != 0.0 && 0.0 < lowest && lowest < limit && value lowest < value ends then lowest
  else ends

/-- The step within the box of a radius. -/
def step (m : LinearModel) (radius : Float) : BoxStep :=
  if inBox radius m.newton then ⟨m.newton, false⟩
  else
    let gradient := m.site.gradient
    let limit := smallestReach (gradient.map fun g => entryReach radius 0.0 (-g))
    let down := scaled (-(m.steepest limit)) gradient
    let onward := vectorDifference m.newton down
    let reaches := List.zipWith (entryReach radius) down onward
    let reach := smallestReach reaches
    ⟨vectorSum down (scaled reach onward),
      (reaches.zip onward).any fun (r, a) => r == reach && a != 0.0⟩

/-- By how much the linear rows promise that a step lowers half the sum of the squares. -/
def promise (m : LinearModel) (move : List Float) : Float :=
  -(halfSquare (m.site.slopes.map (innerProduct move)) + innerProduct move m.site.gradient)

end LinearModel

/-- What came of the promise of a step. -/
def kept (gain promise : Float) : Float :=
  if 0.0 < promise then gain / promise
  else if promise == 0.0 && gain == 0.0 then 1.0 else 0.0

/-- The radius after a step. -/
def nextRadius (radius ratio reach : Float) (atBorder : Bool) : Float :=
  if ratio < 0.25 then 0.25 * reach
  else if 0.75 < ratio && atBorder then 2.0 * radius
  else radius

/-- Why a search ended: its budget was used up, the gradient vanished, the sum of the squares or the
point hardly changed, or both. -/
inductive Ending where
  | exhausted
  | flat
  | settledCost
  | settledPoint
  | settled
deriving Repr, DecidableEq

/-- The number of an ending. -/
def Ending.code : Ending → Nat
  | exhausted => 0
  | flat => 1
  | settledCost => 2
  | settledPoint => 3
  | settled => 4

/-- What is said about an ending. -/
def Ending.message : Ending → String
  | exhausted => "The maximum number of function evaluations is exceeded."
  | flat => "`gtol` termination condition is satisfied."
  | settledCost => "`ftol` termination condition is satisfied."
  | settledPoint => "`xtol` termination condition is satisfied."
  | settled => "Both `ftol` and `xtol` termination conditions are satisfied."

/-- The ending after changes of the cost and of the point that are both, one, or not too small. -/
def settling? (cost point : Bool) : Option Ending :=
  match cost, point with
  | true, true => some .settled
  | true, false => some .settledCost
  | false, true => some .settledPoint
  | false, false => none

/-- Whether a step changed too little to go on. -/
def boxEnding? (tolerance gain cost ratio : Float) (x move : List Float) : Option Ending :=
  settling? (gain < tolerance * cost && 0.25 < ratio)
    (vectorNorm move < tolerance * (tolerance + vectorNorm x))

/-- Where a search ended, and why. -/
structure Descent where
  x : List Float
  rows : List Float
  ending : Ending
  /-- The count of points at which the rows were looked at for their own sake. -/
  looks : Nat

/-- The settings of a descent: the rows, the step of the quotients and the tolerance. -/
structure DescentSettings where
  rows : Looking
  quotientStep : Float
  tolerance : Float

namespace BoxDescent

/-- The ending at a site, if it is not to be left: its gradient is flat, or the search is over. -/
def halted? (s : DescentSettings) (site : Site) (budget : Nat) (ended : Option Ending) :
    Option Ending :=
  if maxAbs site.gradient < s.tolerance then some .flat
  else ended <|> if budget = 0 then some .exhausted else none

/-- Go on from a model with a budget of further looks. -/
def search (s : DescentSettings) :
    (budget looks : Nat) → LinearModel → (radius : Float) → Trial Descent
  | 0, looks, m, _ => return ⟨m.site.x, m.site.rows, .exhausted, looks⟩
  | budget + 1, looks, m, radius => do
    let step := m.step radius
    let x := vectorSum m.site.x step.move
    let rows ← s.rows x
    let reach := maxAbs step.move
    if !rows.all Float.isFinite then
      search s budget (looks + 1) m (0.25 * reach)
    else
      let cost := halfSquare m.site.rows
      let gain := cost - halfSquare rows
      let ratio := kept gain (m.promise step.move)
      let ended := boxEnding? s.tolerance gain cost ratio m.site.x step.move
      if 0.0 < gain then
        let site ← siteAt s.rows s.quotientStep x rows
        match halted? s site budget ended with
        | some ending => return ⟨x, rows, ending, looks + 1⟩
        | none =>
          search s budget (looks + 1) (← site.model) (nextRadius radius ratio reach step.atBorder)
      else
        match ended with
        | some ending => return ⟨m.site.x, m.site.rows, ending, looks + 1⟩
        | none => search s budget (looks + 1) m (nextRadius radius ratio reach step.atBorder)

/-- The radius of the first box: the largest entry of the start, or one. -/
def firstRadius (x : List Float) : Float :=
  let reach := maxAbs x
  if reach == 0.0 then 1.0 else reach

/-- Descend from a start with a budget of looks, the one at the start included. Rows that are not
finite there are refused. -/
def run (s : DescentSettings) (start : List Float) (budget : Nat) : Trial Descent := do
  let rows ← s.rows start
  unless rows.all Float.isFinite do throw (.arithmetic .startNotFinite)
  let site ← siteAt s.rows s.quotientStep start rows
  match halted? s site (budget - 1) none with
  | some ending => return ⟨start, rows, ending, 1⟩
  | none => search s (budget - 1) 1 (← site.model) (firstRadius start)

end BoxDescent

end Drafting
