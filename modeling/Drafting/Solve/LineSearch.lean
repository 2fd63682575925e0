import Drafting.Solve.Singular
import Drafting.Solve.Trial

/-!
# Searches along a direction

Along a direction that goes down, a step is sought that lowers a function enough and after which its
slope is much flatter than at the start. Two searches are tried. The first one narrows an interval
that holds such a step by cubic and linear interpolation of values and slopes. The second one, tried
if the first one fails, doubles the step until an interval holds one and then divides that interval.
-/

namespace Drafting

/-- The part of the decline promised by the slope at the start that a step has to bring. -/
def enoughDecline : Float := 1e-4

/-- The part of the slope at the start up to which a slope is flat. -/
def flatSlope : Float := 0.9

/-- The longest step that is tried. -/
def longestStep : Float := 1e100

/-- The shortest step that is tried. -/
def shortestStep : Float := 1e-100

/-- A function along a direction: its value, and its slope with the gradient there. -/
structure AlongLine where
  value : Float → Trial Float
  slope : Float → Trial (Float × List Float)

/-- A step with the value and the slope there. -/
structure Probe where
  step : Float
  value : Float
  slope : Float

/-- A step that was found, the value there, and the gradient if it was looked at. -/
structure Found where
  step : Float
  value : Float
  gradient : Option (List Float)

/-- The first step to try: how far the last one would go if the decline were the same. -/
def firstStep (value before slope : Float) : Float :=
  if slope == 0.0 then 1.0
  else
    let step := smaller 1.0 (1.01 * 2.0 * (value - before) / slope)
    if step < 0.0 then 1.0 else step

/-- A number kept between two bounds. -/
def clamped (low high x : Float) : Float :=
  if x.isNaN then x
  else
    let x := if x < low then low else x
    if high < x then high else x

/-- The sign of a number. -/
def signOf (x : Float) : Float :=
  if x.isNaN then x else if 0.0 < x then 1.0 else if x < 0.0 then -1.0 else 0.0

namespace IntervalSearch

/-- An interval between the best step so far and another one; it is closed if it is known to hold a
step that is sought. -/
structure Interval where
  best : Probe
  other : Probe
  closed : Bool

/-- The middle term of the cubic through two probes, and its scale. -/
def cubicTerms (a b : Probe) : Float × Float :=
  let theta := 3.0 * (a.value - b.value) / (b.step - a.step) + a.slope + b.slope
  (theta, larger (larger theta.abs a.slope.abs) b.slope.abs)

/-- The square below the root of a cubic, in units of its scale. -/
def cubicSquare (theta scale : Float) (a b : Probe) : Float :=
  theta / scale * (theta / scale) - a.slope / scale * (b.slope / scale)

/-- Where the cubic through two probes is lowest, as seen from the second. -/
def cubicFrom (a b : Probe) (square : Float) (theta scale : Float) : Float :=
  let gamma := scale * square.sqrt
  let gamma := if a.step < b.step then -gamma else gamma
  let part := ((gamma - b.slope) + theta) / (((gamma - b.slope) + gamma) + a.slope)
  b.step + part * (a.step - b.step)

/-- Where the line through the slopes of two probes is zero, as seen from the second. -/
def secantFrom (a b : Probe) : Float :=
  b.step + b.slope / (b.slope - a.slope) * (a.step - b.step)

/-- The next step after a probe that is higher than the best one. -/
def afterHigher (best probe : Probe) : Float :=
  let (theta, scale) := cubicTerms best probe
  let gamma := scale * (cubicSquare theta scale best probe).sqrt
  let gamma := if probe.step < best.step then -gamma else gamma
  let part := ((gamma - best.slope) + theta) / (((gamma - best.slope) + gamma) + probe.slope)
  let cubic := best.step + part * (probe.step - best.step)
  let steep := (best.value - probe.value) / (probe.step - best.step) + best.slope
  let square := best.step + best.slope / steep / 2.0 * (probe.step - best.step)
  if (cubic - best.step).abs ≤ (square - best.step).abs then cubic
  else cubic + (square - cubic) / 2.0

/-- The next step after a lower probe whose slope has the other sign. -/
def afterTurning (best probe : Probe) : Float :=
  let (theta, scale) := cubicTerms best probe
  let cubic := cubicFrom best probe (cubicSquare theta scale best probe) theta scale
  let secant := secantFrom best probe
  if (secant - probe.step).abs < (cubic - probe.step).abs then cubic else secant

/-- The next step after a lower probe with a flatter slope of the same sign, between bounds. -/
def afterFlatter (interval : Interval) (probe : Probe) (low high : Float) : Float :=
  let best := interval.best
  let (theta, scale) := cubicTerms best probe
  let gamma := scale * (larger 0.0 (cubicSquare theta scale best probe)).sqrt
  let gamma := if best.step < probe.step then -gamma else gamma
  let part := ((gamma - probe.slope) + theta) / ((gamma + (best.slope - probe.slope)) + gamma)
  let cubic :=
    if part < 0.0 && gamma != 0.0 then probe.step + part * (best.step - probe.step)
    else if best.step < probe.step then high else low
  let secant := secantFrom best probe
  if interval.closed then
    let next := if (cubic - probe.step).abs < (secant - probe.step).abs then cubic else secant
    let limit := probe.step + 0.66 * (interval.other.step - probe.step)
    if best.step < probe.step then smaller limit next else larger limit next
  else
    clamped low high
      (if (secant - probe.step).abs < (cubic - probe.step).abs then cubic else secant)

/-- The next step after a lower probe that is no flatter, between bounds. -/
def afterSteeper (interval : Interval) (probe : Probe) (low high : Float) : Float :=
  if interval.closed then
    let (theta, scale) := cubicTerms probe interval.other
    let square := cubicSquare theta scale interval.other probe
    cubicFrom interval.other probe square theta scale
  else if interval.best.step < probe.step then high else low

/-- The next step after a probe, and the interval that it leaves. -/
def narrowed (interval : Interval) (probe : Probe) (low high : Float) : Float × Interval :=
  let best := interval.best
  let signs := signOf probe.slope * signOf best.slope
  if best.value < probe.value then
    (afterHigher best probe, ⟨best, probe, true⟩)
  else if signs < 0.0 then
    (afterTurning best probe, ⟨probe, best, true⟩)
  else if probe.slope.abs < best.slope.abs then
    (afterFlatter interval probe low high, { interval with best := probe })
  else
    (afterSteeper interval probe low high, { interval with best := probe })

/-- Where a search stands: its interval, the bounds of the next step, the widths of the last two
intervals, and whether no step has been low enough yet. -/
structure Stand where
  interval : Interval
  low : Float
  high : Float
  width : Float
  lastWidth : Float
  early : Bool

/-- A probe less a multiple of its step. -/
def lowered (incline : Float) (p : Probe) : Probe :=
  ⟨p.step, p.value - p.step * incline, p.slope - incline⟩

/-- A probe with a multiple of its step added again. -/
def raised (incline : Float) (p : Probe) : Probe :=
  ⟨p.step, p.value + p.step * incline, p.slope + incline⟩

/-- The next step after a probe. As long as no step was low enough, what counts is the value above
the decline that is asked for. -/
def Stand.proposal (s : Stand) (incline limit : Float) (probe : Probe) : Float × Interval :=
  if s.early && probe.value ≤ s.interval.best.value && limit < probe.value then
    let interval : Interval :=
      ⟨lowered incline s.interval.best, lowered incline s.interval.other, s.interval.closed⟩
    let (step, interval) := narrowed interval (lowered incline probe) s.low s.high
    (step, ⟨raised incline interval.best, raised incline interval.other, interval.closed⟩)
  else narrowed s.interval probe s.low s.high

/-- Whether an interval is too narrow to go on. -/
def isNarrow (low high : Float) : Bool := high - low ≤ 1e-14 * high

/-- The stand after a probe and the next step. A closed interval that hardly shrinks is halved. -/
def Stand.next (s : Stand) (incline limit : Float) (probe : Probe) : Float × Stand :=
  let (step, interval) := s.proposal incline limit probe
  let (best, other) := (interval.best.step, interval.other.step)
  let span := (other - best).abs
  let step :=
    if interval.closed && 0.66 * s.lastWidth ≤ span then best + 0.5 * (other - best) else step
  let (low, high) :=
    if interval.closed then (smaller best other, larger best other)
    else (step + 1.1 * (step - best), step + 4.0 * (step - best))
  let step := clamped shortestStep longestStep step
  let stuck := interval.closed && (step ≤ low || high ≤ step || isNarrow low high)
  let stand : Stand :=
    { s with
      interval, low, high
      width := if interval.closed then span else s.width
      lastWidth := if interval.closed then s.width else s.lastWidth }
  (if stuck then best else step, stand)

/-- Whether a search cannot go on from a probe. -/
def Stand.isStuck (s : Stand) (incline limit : Float) (probe : Probe) : Bool :=
  (s.interval.closed && (probe.step ≤ s.low || s.high ≤ probe.step || isNarrow s.low s.high)) ||
  (probe.step == longestStep && probe.value ≤ limit && probe.slope ≤ incline) ||
  (probe.step == shortestStep && (limit < probe.value || incline ≤ probe.slope))

/-- Search from a stand by the next step. -/
def search (line : AlongLine) (start : Probe) :
    (rounds : Nat) → Stand → (step : Float) → Trial (Option Found)
  | 0, _, _ => return none
  | rounds + 1, stand, step => do
    let value ← line.value step
    let (slope, gradient) ← line.slope step
    if rounds = 0 then return none
    let probe : Probe := ⟨step, value, slope⟩
    let incline := enoughDecline * start.slope
    let limit := start.value + step * incline
    let stand := { stand with early := stand.early && !(value ≤ limit && 0.0 ≤ slope) }
    if value ≤ limit && slope.abs ≤ flatSlope * -start.slope then
      return some ⟨step, value, some gradient⟩
    if stand.isStuck incline limit probe then return none
    let (next, stand) := stand.next incline limit probe
    if next.isFinite then search line start rounds stand next else return none

/-- Search a step from a first one. -/
def run (line : AlongLine) (start : Probe) (step : Float) : Trial (Option Found) := do
  if !step.isFinite || step < shortestStep || longestStep < step || 0.0 ≤ start.slope then
    return none
  let width := longestStep - shortestStep
  let stand : Stand :=
    { interval := ⟨start, start, false⟩
      low := 0.0
      high := step + 4.0 * step
      width
      lastWidth := width / 0.5
      early := true }
  search line start 100 stand step

end IntervalSearch

namespace DividingSearch

/-- The number, if it is finite. -/
def finite? (x : Float) : Option Float := if x.isFinite then some x else none

/-- Where the cubic through three values and a slope is lowest. -/
def cubicLowest? (a : Probe) (b bValue c cValue : Float) : Option Float := do
  let db := b - a.step
  let dc := c - a.step
  let spread := (db * dc) * (db * dc) * (db - dc)
  let left := bValue - a.value - a.slope * db
  let right := cValue - a.value - a.slope * dc
  let cubic := (dc * dc * left - db * db * right) / spread
  let square := (-(dc * dc * dc) * left + db * db * db * right) / spread
  finite? (a.step + (-square + (square * square - 3.0 * cubic * a.slope).sqrt) / (3.0 * cubic))

/-- Where the square through two values and a slope is lowest. -/
def squareLowest? (a : Probe) (b bValue : Float) : Option Float :=
  let db := b - a.step
  let square := (bValue - a.value - a.slope * db) / (db * db)
  finite? (a.step - a.slope / (2.0 * square))

/-- A guess, unless it is too near the ends of an interval or outside of it. -/
def within (guess : Option Float) (low high margin : Float) : Option Float :=
  guess.filter fun x => !(high - margin < x || x < low + margin)

/-- An interval between a low step with its slope and another one, and the step dropped last. -/
structure Bracket where
  low : Probe
  high : Float
  highValue : Float
  dropped : Option (Float × Float)

/-- The step at which an interval is divided. -/
def Bracket.divide (b : Bracket) : Float :=
  let span := b.high - b.low.step
  let (left, right) := if span < 0.0 then (b.high, b.low.step) else (b.low.step, b.high)
  let cubic := b.dropped.bind fun (step, value) =>
    within (cubicLowest? b.low b.high b.highValue step value) left right (0.2 * span)
  let square := within (squareLowest? b.low b.high b.highValue) left right (0.1 * span)
  (cubic <|> square).getD (b.low.step + 0.5 * span)

/-- Divide an interval until a step is found. -/
def zoom (line : AlongLine) (start : Probe) : (rounds : Nat) → Bracket → Trial (Option Found)
  | 0, _ => return none
  | rounds + 1, b => do
    let step := b.divide
    let value ← line.value step
    if start.value + enoughDecline * step * start.slope < value || b.low.value ≤ value then
      zoom line start rounds
        { b with high := step, highValue := value, dropped := some (b.high, b.highValue) }
    else
      let (slope, gradient) ← line.slope step
      if slope.abs ≤ -flatSlope * start.slope then
        return some ⟨step, value, some gradient⟩
      let low : Probe := ⟨step, value, slope⟩
      if 0.0 ≤ slope * (b.high - b.low.step) then
        zoom line start rounds ⟨low, b.low.step, b.low.value, some (b.high, b.highValue)⟩
      else
        zoom line start rounds { b with low := low, dropped := some (b.low.step, b.low.value) }

/-- How often an interval is divided at most. -/
def divisions : Nat := 11

/-- Double the step until an interval holds one that is sought. The last step is taken as it is when
the rounds are used up. -/
def search (line : AlongLine) (start : Probe) (first : Bool) :
    (rounds : Nat) → (last : Probe) → (step value : Float) → Trial (Option Found)
  | 0, _, step, value => return some ⟨step, value, none⟩
  | rounds + 1, last, step, value => do
    if step == 0.0 || longestStep < last.step then return none
    if start.value + enoughDecline * step * start.slope < value ||
        (last.value ≤ value && !first) then
      return ← zoom line start divisions ⟨last, step, value, none⟩
    let (slope, gradient) ← line.slope step
    if slope.abs ≤ -flatSlope * start.slope then return some ⟨step, value, some gradient⟩
    if 0.0 ≤ slope then
      return ← zoom line start divisions ⟨⟨step, value, slope⟩, last.step, last.value, none⟩
    let next := smaller (2.0 * step) longestStep
    search line start false rounds ⟨step, value, slope⟩ next (← line.value next)

/-- Search a step from a first one. -/
def run (line : AlongLine) (start : Probe) (step : Float) : Trial (Option Found) := do
  let step := smaller step longestStep
  search line start true 10 start step (← line.value step)

end DividingSearch

/-- Search a step along a line from its start, given the value before the start was reached. -/
def searchLine (line : AlongLine) (start : Probe) (before : Float) : Trial (Option Found) := do
  let step := firstStep start.value before start.slope
  match ← IntervalSearch.run line start step with
  | some found => return some found
  | none => DividingSearch.run line start step

end Drafting
