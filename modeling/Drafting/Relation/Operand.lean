import Drafting.Relation.Formula

/-!
# Operands of relations

A resolved operand is a view or the slot of a scalar. A slot kind says which operands may stand in a
place of a relation; an arc, for instance, may stand wherever a circle may. From an operand of the
right kind the slots that a formula reads are taken by their roles.
-/

namespace Drafting

/-- What may stand in one place of a relation. -/
inductive SlotKind where
  | scalar
  | point
  | line
  | circle
  | arc
  | ellipse
  | arcOfEllipse
  | hyperbola
  | arcOfHyperbola
  | parabola
  | arcOfParabola
  | bspline
deriving Repr, DecidableEq

namespace SlotKind

/-- Every slot kind. -/
def all : List SlotKind :=
  [.scalar, .point, .line, .circle, .arc, .ellipse, .arcOfEllipse, .hyperbola, .arcOfHyperbola,
    .parabola, .arcOfParabola, .bspline]

/-- The name of a slot kind. -/
def name : SlotKind → String
  | scalar => "scalar"
  | point => "point"
  | line => "line"
  | circle => "circle"
  | arc => "arc"
  | ellipse => "ellipse"
  | arcOfEllipse => "arc_of_ellipse"
  | hyperbola => "hyperbola"
  | arcOfHyperbola => "arc_of_hyperbola"
  | parabola => "parabola"
  | arcOfParabola => "arc_of_parabola"
  | bspline => "bspline"

/-- The kinds of geometry that may stand in a place, in alphabetical order. -/
def accepted : SlotKind → List GeometryKind
  | scalar => []
  | point => [.point]
  | line => [.line]
  | circle => [.arc, .circle]
  | arc => [.arc]
  | ellipse => [.arcOfEllipse, .ellipse]
  | arcOfEllipse => [.arcOfEllipse]
  | hyperbola => [.arcOfHyperbola, .hyperbola]
  | arcOfHyperbola => [.arcOfHyperbola]
  | parabola => [.arcOfParabola, .parabola]
  | arcOfParabola => [.arcOfParabola]
  | bspline => [.bspline]

/-- The slot kind with a name. -/
def ofName? (text : String) : Option SlotKind := all.find? fun slot => slot.name == text

end SlotKind

/-- A resolved operand. -/
inductive Operand where
  | view (v : View)
  | scalar (slot : Int)
deriving Repr, DecidableEq

/-- The slots of a point of a spline. -/
def Point.slots (p : Point) : PointSlots := .slots p.x p.y

/-- The slots of a view that stands for a point. -/
def View.slots (v : View) : PointSlots :=
  match v.figure with
  | .point x y => .slots x y
  | figure => .missing figure.kind

namespace Operand

/-- How an operand is named in the key of a constraint. -/
def describe : Operand → String
  | view v => v.kind.bracketed
  | scalar slot => "p" ++ integerText slot

/-- Every slot an operand refers to. -/
def slots : Operand → List Int
  | view v => v.indices
  | scalar slot => [slot]

/-- The slot of a scalar. -/
def scalar? : Operand → Option Int
  | scalar slot => some slot
  | view _ => none

/-- The figure of a view. -/
def figure? : Operand → Option Figure
  | view v => some v.figure
  | scalar _ => none

/-- The slots of a point. -/
def point? (operand : Operand) : Option PointSlots :=
  match operand.figure? with
  | some (.point x y) => some (.slots x y)
  | _ => none

/-- The slots of a line. -/
def line? (operand : Operand) : Option LineSlots :=
  match operand.figure? with
  | some (.line start finish) => some ⟨start.slots, finish.slots⟩
  | _ => none

/-- The slots of a circle or of the circle of an arc. -/
def circle? (operand : Operand) : Option CircleSlots :=
  match operand.figure? with
  | some (.circle center radius) => some ⟨center.slots, radius⟩
  | some (.arc center _ _ _ _ radius) => some ⟨center.slots, radius⟩
  | _ => none

/-- The slots of the ends of an arc of any curve. -/
def arcEnds? (operand : Operand) : Option ArcEndSlots :=
  match operand.figure? with
  | some (.arc _ start finish startAngle endAngle _) =>
    some ⟨start.slots, finish.slots, startAngle, endAngle⟩
  | some (.arcOfEllipse _ _ start finish startAngle endAngle _) =>
    some ⟨start.slots, finish.slots, startAngle, endAngle⟩
  | some (.arcOfHyperbola _ _ start finish startAngle endAngle _) =>
    some ⟨start.slots, finish.slots, startAngle, endAngle⟩
  | some (.arcOfParabola _ _ start finish startAngle endAngle) =>
    some ⟨start.slots, finish.slots, startAngle, endAngle⟩
  | _ => none

/-- The slots of an ellipse or hyperbola, or of the conic of an arc of one. -/
def conic? (operand : Operand) : Option ConicSlots :=
  match operand.figure? with
  | some (.ellipse center focus minorRadius) =>
    some ⟨center.slots, focus.slots, minorRadius⟩
  | some (.arcOfEllipse center focus _ _ _ _ minorRadius) =>
    some ⟨center.slots, focus.slots, minorRadius⟩
  | some (.hyperbola center focus minorRadius) =>
    some ⟨center.slots, focus.slots, minorRadius⟩
  | some (.arcOfHyperbola center focus _ _ _ _ minorRadius) =>
    some ⟨center.slots, focus.slots, minorRadius⟩
  | _ => none

/-- The slots of a parabola or of the parabola of an arc. -/
def parabola? (operand : Operand) : Option ParabolaSlots :=
  match operand.figure? with
  | some (.parabola vertex focus) => some ⟨vertex.slots, focus.slots⟩
  | some (.arcOfParabola vertex focus _ _ _ _) => some ⟨vertex.slots, focus.slots⟩
  | _ => none

/-- The slots of the ends of a spline that has poles. -/
def splineEnds? (operand : Operand) : Option SplineEndSlots :=
  match operand.figure? with
  | some (.bspline spline) =>
    match spline.poles.head?, spline.poles.getLast? with
    | some first, some last =>
      some ⟨spline.start.slots, spline.finish.slots, first.slots, last.slots⟩
    | _, _ => none
  | _ => none

end Operand

end Drafting
