import Drafting.Value.Conversion

/-!
# Properties of geometry

A property names one slot of a geometry's own block. For most kinds the place of a property is
fixed; in a spline the coordinates of the two ends come after the poles, weights and knots, so
their place depends on the counts of these.
-/

namespace Drafting

/-- The properties of a kind, in the order of its block. For a spline these are the last four
slots. -/
def GeometryKind.properties : GeometryKind → List String
  | point => ["x", "y"]
  | line => []
  | circle => ["radius"]
  | arc => ["start_angle", "end_angle", "radius"]
  | ellipse => ["radmin"]
  | arcOfEllipse => ["start_angle", "end_angle", "radmin"]
  | hyperbola => ["radmin"]
  | arcOfHyperbola => ["start_angle", "end_angle", "radmin"]
  | parabola => []
  | arcOfParabola => ["start_angle", "end_angle"]
  | bspline => ["start_x", "start_y", "end_x", "end_y"]

/-- The kind that a value names. -/
def GeometryKind.parse (value : Value) : Except Fault GeometryKind :=
  match value with
  | .text s =>
    match GeometryKind.ofName? s with
    | some kind => .ok kind
    | none => .error (.unknownGeometryKind value)
  | value => .error (.unknownGeometryKind value)

/-- What stands in front of the named properties in a block: for a spline its poles, weights and
knots, for other kinds nothing. -/
def propertyBase (kind : GeometryKind) (name : String) (shape : Option SplineShape) :
    Except Fault Int :=
  let refuse (reason : PropertyReason) : Except Fault Int :=
    .error (.unknownProperty kind (.text name) (some reason))
  match kind, shape with
  | .bspline, none => refuse .needsShape
  | .bspline, some shape =>
    if shape.poles < 0 ∨ shape.weights < 0 ∨ shape.knots < 0 then refuse (.negativeCount shape)
    else if shape.weights ≠ shape.poles then refuse (.unevenWeights shape)
    else .ok (2 * shape.poles + shape.weights + shape.knots)
  | _, _ => .ok 0

/-- The place of a property within the own block of a kind. -/
def resolveOffset (kind : GeometryKind) (shape : Option SplineShape) (property : Value) :
    Except Fault Int :=
  match property with
  | .text name =>
    match kind.properties.idxOf? name with
    | some place => (propertyBase kind name shape).map (· + place)
    | none => .error (.unknownProperty kind property none)
  | value => .error (.unknownProperty kind (.text value.written) none)

/-- Whether counts given along with a property are other ones than those of the view. Nothing given
is no contradiction. -/
def contradicts (given : Value) (declared : Option SplineShape) : Except Fault Bool :=
  match given with
  | .none => .ok false
  | .shape shape => .ok (declared ≠ some shape)
  | given => do
    given.checkComparable
    .ok true

/-- The slot that a property of a view names. Counts given along with it have to be those of the
view. -/
def propertyIndex (view : View) (property given : Value) : Except Fault Int := do
  if ← contradicts given view.shape? then
    throw (.unknownProperty view.kind property (some (.otherShape given view.shape?)))
  let offset ← resolveOffset view.kind view.shape? property
  let block := view.ownIndices
  match block[offset.toNat]? with
  | some slot => .ok slot
  | none => .error (.unknownProperty view.kind property (some (.outsideBlock offset block.length)))

end Drafting
