/-!
# Kinds of geometry

The eleven kinds of geometry that a sketch can hold, and the name by which each is addressed.
-/

namespace Drafting

/-- A kind of geometry. -/
inductive GeometryKind where
  | point
  | line
  | circle
  | arc
  | ellipse
  | arcOfEllipse
  | hyperbola
  | arcOfHyperbola
  | parabola
  | arcOfParabola
  | bspline
deriving Repr, DecidableEq

namespace GeometryKind

/-- Every kind, in the order in which messages list them. -/
def all : List GeometryKind :=
  [.point, .line, .circle, .arc, .ellipse, .arcOfEllipse, .hyperbola, .arcOfHyperbola, .parabola,
    .arcOfParabola, .bspline]

/-- The name of a kind. -/
def name : GeometryKind → String
  | point => "point"
  | line => "line"
  | circle => "circle"
  | arc => "arc"
  | ellipse => "ellipse"
  | arcOfEllipse => "arc_of_ellipse"
  | hyperbola => "hyperbola"
  | arcOfHyperbola => "arc_of_hyperbola"
  | parabola => "parabola"
  | arcOfParabola => "arc_of_parabola"
  | bspline => "bspline"

/-- The list of all kinds leaves none out. -/
theorem mem_all (kind : GeometryKind) : kind ∈ all := by
  cases kind <;> simp [all]

/-- The kind with a name, whatever its letter case. -/
def ofName? (text : String) : Option GeometryKind :=
  let lower := text.toLower
  all.find? fun kind => kind.name == lower

end GeometryKind

end Drafting
