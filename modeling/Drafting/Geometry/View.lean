import Drafting.Geometry.Kind

/-!
# Geometry as views of parameter slots

A view holds no coordinates, only the indices of the slots that do. Each kind has its own block of
slots, in a canonical order, and may refer to views whose blocks belong to other geometry, its
parts. A view that was bound in a store remembers which one and in which generation; a bare view
does not.
-/

namespace Drafting

/-- The store in which a view was bound, and the generation it was in. -/
structure Binding where
  store : Nat
  generation : Nat
deriving Repr, DecidableEq

/-- A point that a spline refers to. -/
structure Point where
  x : Int
  y : Int
  binding : Option Binding
deriving Repr, DecidableEq

/-- The counts that fix the layout of a spline's block. -/
structure SplineShape where
  poles : Int
  weights : Int
  knots : Int
deriving Repr, DecidableEq

/-- The slots a spline's block needs. -/
def SplineShape.blockSize (shape : SplineShape) : Int :=
  2 * shape.poles + shape.weights + shape.knots + 4

/-- The slots of a spline with its knot multiplicities and its degree. -/
structure Spline where
  start : Point
  finish : Point
  poles : List Point
  weights : List Int
  knots : List Int
  multiplicities : List Int
  degree : Int
  periodic : Bool
deriving Repr, DecidableEq

mutual

/-- What a view refers to, by kind. Where a point is expected any view may stand; one of another
kind lends its slots but has no coordinates of its own. -/
inductive Figure where
  | point (x y : Int)
  | line (start finish : View)
  | circle (center : View) (radius : Int)
  | arc (center start finish : View) (startAngle endAngle radius : Int)
  | ellipse (center focus : View) (minorRadius : Int)
  | arcOfEllipse (center focus start finish : View) (startAngle endAngle minorRadius : Int)
  | hyperbola (center focus : View) (minorRadius : Int)
  | arcOfHyperbola (center focus start finish : View) (startAngle endAngle minorRadius : Int)
  | parabola (vertex focus : View)
  | arcOfParabola (vertex focus start finish : View) (startAngle endAngle : Int)
  | bspline (spline : Spline)

/-- A figure and the store it was bound in, if it was. -/
structure View where
  figure : Figure
  binding : Option Binding

end

deriving instance Repr, DecidableEq for Figure, View

namespace Point

/-- The two slots of a point. -/
def indices (p : Point) : List Int := [p.x, p.y]

/-- The point as a view of its own. -/
def toView (p : Point) : View := ⟨.point p.x p.y, p.binding⟩

/-- The same slots without a binding. -/
def bare (p : Point) : Point := { p with binding := none }

end Point

namespace Spline

/-- The counts of poles, weights and knots. -/
def shape (s : Spline) : SplineShape := ⟨s.poles.length, s.weights.length, s.knots.length⟩

/-- Poles, weights, knots, then the start and the end. -/
def block (s : Spline) : List Int :=
  s.poles.flatMap Point.indices ++ s.weights ++ s.knots ++ s.start.indices ++ s.finish.indices

/-- The same slots without bindings. -/
def bare (s : Spline) : Spline :=
  { s with start := s.start.bare, finish := s.finish.bare, poles := s.poles.map Point.bare }

end Spline

namespace Figure

/-- The kind of a figure. -/
def kind : Figure → GeometryKind
  | point .. => .point
  | line .. => .line
  | circle .. => .circle
  | arc .. => .arc
  | ellipse .. => .ellipse
  | arcOfEllipse .. => .arcOfEllipse
  | hyperbola .. => .hyperbola
  | arcOfHyperbola .. => .arcOfHyperbola
  | parabola .. => .parabola
  | arcOfParabola .. => .arcOfParabola
  | bspline .. => .bspline

/-- The views a figure refers to, in the order of its fields. -/
def parts : Figure → List View
  | point .. => []
  | line start finish => [start, finish]
  | circle center _ => [center]
  | arc center start finish _ _ _ => [center, start, finish]
  | ellipse center focus _ => [center, focus]
  | arcOfEllipse center focus start finish _ _ _ => [center, focus, start, finish]
  | hyperbola center focus _ => [center, focus]
  | arcOfHyperbola center focus start finish _ _ _ => [center, focus, start, finish]
  | parabola vertex focus => [vertex, focus]
  | arcOfParabola vertex focus start finish _ _ => [vertex, focus, start, finish]
  | bspline spline => (spline.start :: spline.finish :: spline.poles).map Point.toView

/-- The figure's own block of slots, in canonical order. -/
def ownIndices : Figure → List Int
  | point x y => [x, y]
  | line .. => []
  | circle _ radius => [radius]
  | arc _ _ _ startAngle endAngle radius => [startAngle, endAngle, radius]
  | ellipse _ _ minorRadius => [minorRadius]
  | arcOfEllipse _ _ _ _ startAngle endAngle minorRadius => [startAngle, endAngle, minorRadius]
  | hyperbola _ _ minorRadius => [minorRadius]
  | arcOfHyperbola _ _ _ _ startAngle endAngle minorRadius => [startAngle, endAngle, minorRadius]
  | parabola .. => []
  | arcOfParabola _ _ _ _ startAngle endAngle => [startAngle, endAngle]
  | bspline spline => spline.block

/-- The layout counts, which only a spline has. -/
def shape? : Figure → Option SplineShape
  | bspline spline => some spline.shape
  | _ => none

end Figure

mutual

/-- Every slot a figure refers to: those of its parts, then its own. A spline's block already holds
the slots of its points. -/
def Figure.indices : Figure → List Int
  | .point x y => [x, y]
  | .line start finish => start.indices ++ finish.indices
  | .circle center radius => center.indices ++ [radius]
  | .arc center start finish startAngle endAngle radius =>
    center.indices ++ start.indices ++ finish.indices ++ [startAngle, endAngle, radius]
  | .ellipse center focus minorRadius => center.indices ++ focus.indices ++ [minorRadius]
  | .arcOfEllipse center focus start finish startAngle endAngle minorRadius =>
    center.indices ++ focus.indices ++ start.indices ++ finish.indices ++
      [startAngle, endAngle, minorRadius]
  | .hyperbola center focus minorRadius => center.indices ++ focus.indices ++ [minorRadius]
  | .arcOfHyperbola center focus start finish startAngle endAngle minorRadius =>
    center.indices ++ focus.indices ++ start.indices ++ finish.indices ++
      [startAngle, endAngle, minorRadius]
  | .parabola vertex focus => vertex.indices ++ focus.indices
  | .arcOfParabola vertex focus start finish startAngle endAngle =>
    vertex.indices ++ focus.indices ++ start.indices ++ finish.indices ++ [startAngle, endAngle]
  | .bspline spline => spline.block

/-- Every slot the view refers to. -/
def View.indices : View → List Int
  | ⟨figure, _⟩ => figure.indices

end

mutual

/-- The same slots without bindings. -/
def Figure.bare : Figure → Figure
  | .point x y => .point x y
  | .line start finish => .line start.bare finish.bare
  | .circle center radius => .circle center.bare radius
  | .arc center start finish startAngle endAngle radius =>
    .arc center.bare start.bare finish.bare startAngle endAngle radius
  | .ellipse center focus minorRadius => .ellipse center.bare focus.bare minorRadius
  | .arcOfEllipse center focus start finish startAngle endAngle minorRadius =>
    .arcOfEllipse center.bare focus.bare start.bare finish.bare startAngle endAngle minorRadius
  | .hyperbola center focus minorRadius => .hyperbola center.bare focus.bare minorRadius
  | .arcOfHyperbola center focus start finish startAngle endAngle minorRadius =>
    .arcOfHyperbola center.bare focus.bare start.bare finish.bare startAngle endAngle minorRadius
  | .parabola vertex focus => .parabola vertex.bare focus.bare
  | .arcOfParabola vertex focus start finish startAngle endAngle =>
    .arcOfParabola vertex.bare focus.bare start.bare finish.bare startAngle endAngle
  | .bspline spline => .bspline spline.bare

/-- The same view without any binding. -/
def View.bare : View → View
  | ⟨figure, _⟩ => ⟨figure.bare, none⟩

end

namespace View

/-- The kind of a view. -/
def kind (v : View) : GeometryKind := v.figure.kind

/-- The view's own block of slots. -/
def ownIndices (v : View) : List Int := v.figure.ownIndices

/-- The layout counts of a spline's view. -/
def shape? (v : View) : Option SplineShape := v.figure.shape?

/-- The view itself and then each view it refers to. -/
def parts (v : View) : List View := v :: v.figure.parts

/-- A point's view as a point that a spline can refer to. -/
def asPoint? (v : View) : Option Point :=
  match v.figure with
  | .point x y => some ⟨x, y, v.binding⟩
  | _ => none

/-- Two views are alike if they refer to the same slots in the same way; where they were bound
does not matter. -/
def alike (v w : View) : Bool := v.bare = w.bare

end View

end Drafting
