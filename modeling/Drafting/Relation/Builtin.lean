import Drafting.Relation.Operand

/-!
# The built-in kinds of constraint

Thirty-six kinds of constraint are always defined. Each has a name, the places of its operands, the
count of its rows, and the relation that it states of operands of these kinds.
-/

namespace Drafting

/-- A kind of constraint that is always defined. -/
inductive BuiltinKind where
  | equal
  | difference
  | proportional
  | coordinateX
  | coordinateY
  | coincident
  | pointDistance
  | pointAngle
  | lineDistance
  | pointOnLine
  | pointOnBisector
  | parallel
  | perpendicular
  | lineAngle
  | midpointOnLine
  | horizontalLine
  | verticalLine
  | horizontalPoints
  | verticalPoints
  | equalLength
  | pointOnCircle
  | circleRadius
  | circleDiameter
  | equalRadius
  | lineTangent
  | externalTangent
  | internalTangent
  | arcLength
  | arcRules
  | pointOnEllipse
  | ellipseArcRules
  | pointOnHyperbola
  | hyperbolaArcRules
  | pointOnParabola
  | parabolaArcRules
  | splineEndRules
deriving Repr, DecidableEq

namespace BuiltinKind

/-- Every built-in kind, in order of definition. -/
def all : List BuiltinKind :=
  [equal, difference, proportional, coordinateX, coordinateY, coincident, pointDistance,
    pointAngle, lineDistance, pointOnLine, pointOnBisector, parallel, perpendicular, lineAngle,
    midpointOnLine, horizontalLine, verticalLine, horizontalPoints, verticalPoints, equalLength,
    pointOnCircle, circleRadius, circleDiameter, equalRadius, lineTangent, externalTangent,
    internalTangent, arcLength, arcRules, pointOnEllipse, ellipseArcRules, pointOnHyperbola,
    hyperbolaArcRules, pointOnParabola, parabolaArcRules, splineEndRules]

/-- The name by which constraints of a kind are added. -/
def name : BuiltinKind → String
  | equal => "equal"
  | difference => "difference"
  | proportional => "proportional"
  | coordinateX => "coordinate_x"
  | coordinateY => "coordinate_y"
  | coincident => "p2p_coincident"
  | pointDistance => "p2p_distance"
  | pointAngle => "p2p_angle"
  | lineDistance => "p2l_distance"
  | pointOnLine => "point_on_line"
  | pointOnBisector => "point_on_perp_bisector"
  | parallel => "parallel"
  | perpendicular => "perpendicular"
  | lineAngle => "l2l_angle"
  | midpointOnLine => "midpoint_on_line"
  | horizontalLine => "horizontal_line"
  | verticalLine => "vertical_line"
  | horizontalPoints => "horizontal_points"
  | verticalPoints => "vertical_points"
  | equalLength => "equal_length"
  | pointOnCircle => "point_on_circle"
  | circleRadius => "circle_radius"
  | circleDiameter => "circle_diameter"
  | equalRadius => "equal_radius"
  | lineTangent => "tangent_line_circle"
  | externalTangent => "tangent_circle_circle_external"
  | internalTangent => "tangent_circle_circle_internal"
  | arcLength => "arc_length"
  | arcRules => "arc_rules"
  | pointOnEllipse => "point_on_ellipse"
  | ellipseArcRules => "arc_of_ellipse_rules"
  | pointOnHyperbola => "point_on_hyperbola"
  | hyperbolaArcRules => "arc_of_hyperbola_rules"
  | pointOnParabola => "point_on_parabola"
  | parabolaArcRules => "arc_of_parabola_rules"
  | splineEndRules => "bspline_end_rules"

/-- The kind with a name. -/
def ofName? (text : String) : Option BuiltinKind := all.find? fun kind => kind.name == text

/-- The places of the operands. -/
def slots : BuiltinKind → List SlotKind
  | equal => [.scalar, .scalar]
  | difference | proportional => [.scalar, .scalar, .scalar]
  | coordinateX | coordinateY => [.point, .scalar]
  | coincident | horizontalPoints | verticalPoints => [.point, .point]
  | pointDistance | pointAngle => [.point, .point, .scalar]
  | lineDistance => [.point, .line, .scalar]
  | pointOnLine | pointOnBisector => [.point, .line]
  | parallel | perpendicular | midpointOnLine | equalLength => [.line, .line]
  | lineAngle => [.line, .line, .scalar]
  | horizontalLine | verticalLine => [.line]
  | pointOnCircle => [.point, .circle]
  | circleRadius | circleDiameter => [.circle, .scalar]
  | equalRadius | externalTangent | internalTangent => [.circle, .circle]
  | lineTangent => [.line, .circle]
  | arcLength => [.arc, .scalar]
  | arcRules => [.arc]
  | pointOnEllipse => [.point, .ellipse]
  | ellipseArcRules => [.arcOfEllipse]
  | pointOnHyperbola => [.point, .hyperbola]
  | hyperbolaArcRules => [.arcOfHyperbola]
  | pointOnParabola => [.point, .parabola]
  | parabolaArcRules => [.arcOfParabola]
  | splineEndRules => [.bspline]

/-- The count of rows. -/
def size : BuiltinKind → Nat
  | coincident => 2
  | arcRules | ellipseArcRules | hyperbolaArcRules | parabolaArcRules | splineEndRules => 4
  | _ => 1

/-- The relation between two scalars or more. -/
def scalarRelation? : BuiltinKind → List Operand → Option Relation
  | equal, [a, b] => do some (.equal (← a.scalar?) (← b.scalar?))
  | difference, [a, b, d] => do some (.difference (← a.scalar?) (← b.scalar?) (← d.scalar?))
  | proportional, [a, b, r] => do
    some (.proportional (← a.scalar?) (← b.scalar?) (← r.scalar?))
  | _, _ => none

/-- The relation between points, or between points and lines. -/
def pointRelation? : BuiltinKind → List Operand → Option Relation
  | coordinateX, [p, v] => do some (.coordinateX (← p.point?) (← v.scalar?))
  | coordinateY, [p, v] => do some (.coordinateY (← p.point?) (← v.scalar?))
  | coincident, [p, q] => do some (.coincident (← p.point?) (← q.point?))
  | pointDistance, [p, q, d] => do
    some (.pointDistance (← p.point?) (← q.point?) (← d.scalar?))
  | pointAngle, [p, q, a] => do some (.pointAngle (← p.point?) (← q.point?) (← a.scalar?))
  | lineDistance, [p, l, d] => do some (.lineDistance (← p.point?) (← l.line?) (← d.scalar?))
  | pointOnLine, [p, l] => do some (.pointOnLine (← p.point?) (← l.line?))
  | pointOnBisector, [p, l] => do some (.pointOnBisector (← p.point?) (← l.line?))
  | horizontalPoints, [p, q] => do some (.horizontalPoints (← p.point?) (← q.point?))
  | verticalPoints, [p, q] => do some (.verticalPoints (← p.point?) (← q.point?))
  | _, _ => none

/-- The relation between lines. -/
def lineRelation? : BuiltinKind → List Operand → Option Relation
  | parallel, [l, m] => do some (.parallel (← l.line?) (← m.line?))
  | perpendicular, [l, m] => do some (.perpendicular (← l.line?) (← m.line?))
  | lineAngle, [l, m, a] => do some (.lineAngle (← l.line?) (← m.line?) (← a.scalar?))
  | midpointOnLine, [l, m] => do some (.midpointOnLine (← l.line?) (← m.line?))
  | horizontalLine, [l] => do some (.horizontalLine (← l.line?))
  | verticalLine, [l] => do some (.verticalLine (← l.line?))
  | equalLength, [l, m] => do some (.equalLength (← l.line?) (← m.line?))
  | _, _ => none

/-- The relation of circles and arcs. -/
def circleRelation? : BuiltinKind → List Operand → Option Relation
  | pointOnCircle, [p, c] => do some (.pointOnCircle (← p.point?) (← c.circle?))
  | circleRadius, [c, r] => do some (.circleRadius (← c.circle?) (← r.scalar?))
  | circleDiameter, [c, d] => do some (.circleDiameter (← c.circle?) (← d.scalar?))
  | equalRadius, [c, d] => do some (.equalRadius (← c.circle?) (← d.circle?))
  | lineTangent, [l, c] => do some (.lineTangent (← l.line?) (← c.circle?))
  | externalTangent, [c, d] => do some (.externalTangent (← c.circle?) (← d.circle?))
  | internalTangent, [c, d] => do some (.internalTangent (← c.circle?) (← d.circle?))
  | arcLength, [a, l] => do some (.arcLength (← a.circle?) (← a.arcEnds?) (← l.scalar?))
  | arcRules, [a] => do some (.arcRules (← a.circle?) (← a.arcEnds?))
  | _, _ => none

/-- The relation of conics and splines. -/
def curveRelation? : BuiltinKind → List Operand → Option Relation
  | pointOnEllipse, [p, c] => do some (.pointOnEllipse (← p.point?) (← c.conic?))
  | ellipseArcRules, [a] => do some (.ellipseArcRules (← a.conic?) (← a.arcEnds?))
  | pointOnHyperbola, [p, c] => do some (.pointOnHyperbola (← p.point?) (← c.conic?))
  | hyperbolaArcRules, [a] => do some (.hyperbolaArcRules (← a.conic?) (← a.arcEnds?))
  | pointOnParabola, [p, c] => do some (.pointOnParabola (← p.point?) (← c.parabola?))
  | parabolaArcRules, [a] => do some (.parabolaArcRules (← a.parabola?) (← a.arcEnds?))
  | splineEndRules, [s] => do some (.splineEndRules (← s.splineEnds?))
  | _, _ => none

/-- The relation that a kind states of its operands. -/
def relation? (kind : BuiltinKind) (operands : List Operand) : Option Relation :=
  kind.scalarRelation? operands <|> kind.pointRelation? operands <|>
    kind.lineRelation? operands <|> kind.circleRelation? operands <|>
    kind.curveRelation? operands

end BuiltinKind

end Drafting
