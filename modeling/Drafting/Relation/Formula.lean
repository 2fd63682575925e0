import Drafting.Relation.Plane
import Drafting.Geometry.View

/-!
# Residual formulas

A relation names the slots it reads by the role they play. Its rows are the amounts by which the
values in these slots miss the relation: they vanish exactly where it holds. Reading a slot may
fail, and so may a function of what was read; then the relation has no rows. A slot below zero
counts from the end of what is read.
-/

namespace Drafting

/-- The slots of a point. What stands for a point without being one has none. -/
inductive PointSlots where
  | slots (x y : Int)
  | missing (kind : GeometryKind)
deriving Repr, DecidableEq

namespace PointSlots

/-- The slot of the abscissa. -/
def x : PointSlots → Except Fault Int
  | slots x _ => .ok x
  | missing kind => .error (.arithmetic (.notPoint kind))

/-- The slot of the ordinate. -/
def y : PointSlots → Except Fault Int
  | slots _ y => .ok y
  | missing kind => .error (.arithmetic (.notPoint kind))

end PointSlots

/-- The slots of a line. -/
structure LineSlots where
  start : PointSlots
  finish : PointSlots
deriving Repr, DecidableEq

/-- The slots of a circle, or of the circle of an arc. -/
structure CircleSlots where
  center : PointSlots
  radius : Int
deriving Repr, DecidableEq

/-- The slots of the two ends of an arc: where they lie and at which parameter of the curve. -/
structure ArcEndSlots where
  start : PointSlots
  finish : PointSlots
  startAngle : Int
  endAngle : Int
deriving Repr, DecidableEq

/-- The slots of a conic with center, focus and minor radius. -/
structure ConicSlots where
  center : PointSlots
  focus : PointSlots
  minorRadius : Int
deriving Repr, DecidableEq

/-- The slots of a parabola. -/
structure ParabolaSlots where
  vertex : PointSlots
  focus : PointSlots
deriving Repr, DecidableEq

/-- The slots of the ends of a spline and of its outermost poles. -/
structure SplineEndSlots where
  start : PointSlots
  finish : PointSlots
  firstPole : PointSlots
  lastPole : PointSlots
deriving Repr, DecidableEq

/-- A relation between slots. -/
inductive Relation where
  | equal (a b : Int)
  | difference (a b amount : Int)
  | proportional (a b ratio : Int)
  | coordinateX (point : PointSlots) (value : Int)
  | coordinateY (point : PointSlots) (value : Int)
  | coincident (p q : PointSlots)
  | pointDistance (p q : PointSlots) (distance : Int)
  | pointAngle (p q : PointSlots) (angle : Int)
  | lineDistance (point : PointSlots) (line : LineSlots) (distance : Int)
  | pointOnLine (point : PointSlots) (line : LineSlots)
  | pointOnBisector (point : PointSlots) (line : LineSlots)
  | parallel (first second : LineSlots)
  | perpendicular (first second : LineSlots)
  | lineAngle (first second : LineSlots) (angle : Int)
  | midpointOnLine (first second : LineSlots)
  | horizontalLine (line : LineSlots)
  | verticalLine (line : LineSlots)
  | horizontalPoints (p q : PointSlots)
  | verticalPoints (p q : PointSlots)
  | equalLength (first second : LineSlots)
  | pointOnCircle (point : PointSlots) (circle : CircleSlots)
  | circleRadius (circle : CircleSlots) (radius : Int)
  | circleDiameter (circle : CircleSlots) (diameter : Int)
  | equalRadius (first second : CircleSlots)
  | lineTangent (line : LineSlots) (circle : CircleSlots)
  | externalTangent (first second : CircleSlots)
  | internalTangent (first second : CircleSlots)
  | arcLength (circle : CircleSlots) (ends : ArcEndSlots) (length : Int)
  | arcRules (circle : CircleSlots) (ends : ArcEndSlots)
  | pointOnEllipse (point : PointSlots) (conic : ConicSlots)
  | ellipseArcRules (conic : ConicSlots) (ends : ArcEndSlots)
  | pointOnHyperbola (point : PointSlots) (conic : ConicSlots)
  | hyperbolaArcRules (conic : ConicSlots) (ends : ArcEndSlots)
  | pointOnParabola (point : PointSlots) (parabola : ParabolaSlots)
  | parabolaArcRules (parabola : ParabolaSlots) (ends : ArcEndSlots)
  | splineEndRules (ends : SplineEndSlots)
deriving Repr, DecidableEq

/-- The ways slots are read. -/
abbrev SlotReader (α : Type) := Int → Except Fault α

section

variable {α : Type} [Scalar α] (read : SlotReader α)

/-- The point whose coordinates stand in two slots. -/
def PointSlots.vector (p : PointSlots) : Except Fault (PlaneVector α) := do
  .ok ⟨← read (← p.x), ← read (← p.y)⟩

/-- The start of a line and the vector from there to its end. -/
def LineSlots.directed (line : LineSlots) : Except Fault (PlaneVector α × PlaneVector α) := do
  let start ← line.start.vector read
  .ok (start, (← line.finish.vector read).minus start)

/-- The rows by which the two ends of an arc miss the points of its curve at their parameters. -/
def ArcEndSlots.rows (ends : ArcEndSlots) (curve : α → Except Fault (PlaneVector α)) :
    Except Fault (List α) := do
  let startAngle ← read ends.startAngle
  let endAngle ← read ends.endAngle
  let start := (← curve startAngle).minus (← ends.start.vector read)
  let finish := (← curve endAngle).minus (← ends.finish.vector read)
  .ok [start.x, start.y, finish.x, finish.y]

/-- The signed distance of a point from a line. -/
def signedDistance (point : PlaneVector α) (line : PlaneVector α × PlaneVector α) :
    Except Fault α := do
  .ok (line.2.cross (point.minus line.1) / (← line.2.safeLength))

/-- The distance of a point from a line. -/
def lineDistance (point : PlaneVector α) (line : PlaneVector α × PlaneVector α) :
    Except Fault α := do
  .ok (magnitude (line.2.cross (point.minus line.1)) / (← line.2.safeLength))

/-- A product of two vectors relative to their lengths. -/
def relative (product : PlaneVector α → PlaneVector α → α) (u v : PlaneVector α) :
    Except Fault α := do
  .ok (product u v / ((← u.safeLength) * (← v.safeLength)))

/-- The distance of a point from the focus of a conic and from its mirror image at the center. -/
def focalDistances (point center focus : PlaneVector α) : Except Fault (α × α) := do
  let mirrored := (PlaneVector.times 2.0 center).minus focus
  .ok (← distance focus point, ← distance mirrored point)

/-- The major radius of a hyperbola whose focal distance has the given square; zero if the minor
radius exceeds that distance. -/
def hyperbolicMajor (focalSquare minor : α) : Except Fault α :=
  root (larger (focalSquare - minor * minor) 0.0)

/-- The rows of a relation at the values that are read. -/
def Relation.rows : Relation → Except Fault (List α)
  | equal a b => do .ok [(← read a) - (← read b)]
  | difference a b amount => do .ok [(← read b) - (← read a) - (← read amount)]
  | proportional a b ratio => do .ok [(← read b) - (← read ratio) * (← read a)]
  | coordinateX point value => do .ok [(← read (← point.x)) - (← read value)]
  | coordinateY point value => do .ok [(← read (← point.y)) - (← read value)]
  | coincident p q => do
    .ok [(← read (← p.x)) - (← read (← q.x)), (← read (← p.y)) - (← read (← q.y))]
  | pointDistance p q amount => do
    .ok [(← distance (← p.vector read) (← q.vector read)) - (← read amount)]
  | pointAngle p q angle => do
    let d := (← q.vector read).minus (← p.vector read)
    .ok [← wrapAngle (direction d.y d.x - (← read angle))]
  | lineDistance point line amount => do
    let line ← line.directed read
    .ok [(← Drafting.lineDistance (← point.vector read) line) - (← read amount)]
  | pointOnLine point line => do
    let line ← line.directed read
    .ok [← signedDistance (← point.vector read) line]
  | pointOnBisector point line => do
    let q ← point.vector read
    let toStart ← distance (← line.start.vector read) q
    let toFinish ← distance (← line.finish.vector read) q
    .ok [toStart - toFinish]
  | parallel first second => do
    let u := (← first.directed read).2
    let v := (← second.directed read).2
    .ok [← relative PlaneVector.cross u v]
  | perpendicular first second => do
    let u := (← first.directed read).2
    let v := (← second.directed read).2
    .ok [← relative PlaneVector.dot u v]
  | lineAngle first second angle => do
    let u := (← first.directed read).2
    let v := (← second.directed read).2
    .ok [← wrapAngle (direction (u.cross v) (u.dot v) - (← read angle))]
  | midpointOnLine first second => do
    let start ← first.start.vector read
    let finish ← first.finish.vector read
    let line ← second.directed read
    .ok [← signedDistance (PlaneVector.times 0.5 (start.plus finish)) line]
  | horizontalLine line => do .ok [(← read (← line.start.y)) - (← read (← line.finish.y))]
  | verticalLine line => do .ok [(← read (← line.start.x)) - (← read (← line.finish.x))]
  | horizontalPoints p q => do .ok [(← read (← p.y)) - (← read (← q.y))]
  | verticalPoints p q => do .ok [(← read (← p.x)) - (← read (← q.x))]
  | equalLength first second => do
    let u := (← first.directed read).2
    let v := (← second.directed read).2
    .ok [(← u.length) - (← v.length)]
  | pointOnCircle point circle => do
    let q ← point.vector read
    let center ← circle.center.vector read
    .ok [(← distance center q) - (← read circle.radius)]
  | circleRadius circle radius => do .ok [(← read circle.radius) - (← read radius)]
  | circleDiameter circle diameter => do
    .ok [2.0 * (← read circle.radius) - (← read diameter)]
  | equalRadius first second => do .ok [(← read first.radius) - (← read second.radius)]
  | lineTangent line circle => do
    let line ← line.directed read
    let center ← circle.center.vector read
    .ok [(← Drafting.lineDistance center line) - (← read circle.radius)]
  | externalTangent first second => do
    let center ← second.center.vector read
    let between ← distance (← first.center.vector read) center
    .ok [between - ((← read first.radius) + (← read second.radius))]
  | internalTangent first second => do
    let center ← second.center.vector read
    let between ← distance (← first.center.vector read) center
    .ok [between - magnitude ((← read first.radius) - (← read second.radius))]
  | arcLength circle ends length => do
    let radius ← read circle.radius
    .ok [radius * ((← read ends.endAngle) - (← read ends.startAngle)) - (← read length)]
  | arcRules circle ends => do
    let center ← circle.center.vector read
    let radius ← read circle.radius
    ends.rows read fun angle => do
      .ok (center.plus ⟨radius * (← cosine angle), radius * (← sine angle)⟩)
  | pointOnEllipse point conic => do
    let center ← conic.center.vector read
    let focus ← conic.focus.vector read
    let minor ← read conic.minorRadius
    let major ← root (minor * minor + (← square (← distance center focus)))
    let (near, far) ← focalDistances (← point.vector read) center focus
    .ok [near + far - 2.0 * major]
  | ellipseArcRules conic ends => do
    let frame ← ConicFrame.of (← conic.center.vector read) (← conic.focus.vector read)
    let minor ← read conic.minorRadius
    let major ← root (minor * minor + frame.focal * frame.focal)
    ends.rows read fun angle => do
      .ok (frame.point (major * (← cosine angle)) (minor * (← sine angle)))
  | pointOnHyperbola point conic => do
    let center ← conic.center.vector read
    let focus ← conic.focus.vector read
    let minor ← read conic.minorRadius
    let major ← hyperbolicMajor (← square (← distance center focus)) minor
    let (near, far) ← focalDistances (← point.vector read) center focus
    .ok [magnitude (near - far) - 2.0 * major]
  | hyperbolaArcRules conic ends => do
    let frame ← ConicFrame.of (← conic.center.vector read) (← conic.focus.vector read)
    let minor ← read conic.minorRadius
    let major ← hyperbolicMajor (frame.focal * frame.focal) minor
    ends.rows read fun angle => do
      .ok (frame.point (major * (← cosineHyperbolic angle)) (minor * (← sineHyperbolic angle)))
  | pointOnParabola point parabola => do
    let vertex ← parabola.vertex.vector read
    let focus ← parabola.focus.vector read
    let frame ← ConicFrame.of vertex focus
    let q ← point.vector read
    let toFocus ← distance focus q
    .ok [toFocus - ((q.minus frame.center).dot frame.along + frame.focal)]
  | parabolaArcRules parabola ends => do
    let frame ← ConicFrame.of (← parabola.vertex.vector read) (← parabola.focus.vector read)
    let focal := larger frame.focal smallestLength
    ends.rows read fun t => .ok (frame.point (t * t / (4.0 * focal)) t)
  | splineEndRules ends => do
    .ok
      [(← read (← ends.start.x)) - (← read (← ends.firstPole.x)),
        (← read (← ends.start.y)) - (← read (← ends.firstPole.y)),
        (← read (← ends.finish.x)) - (← read (← ends.lastPole.x)),
        (← read (← ends.finish.y)) - (← read (← ends.lastPole.y))]

end

end Drafting
