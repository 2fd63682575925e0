import Drafting.Scalar

/-!
# Vectors of the plane

The few operations on plane vectors that the residual formulas need. A length that divides is kept
away from zero by `smallestLength`, so that a degenerate line has a residual all the same.
-/

namespace Drafting

/-- A vector of the plane. -/
structure PlaneVector (α : Type) where
  x : α
  y : α

/-- Lengths below this one count as zero. -/
def smallestLength [Arithmetic α] : α := 1e-12

namespace PlaneVector

/-- The sum of two vectors. -/
def plus [Arithmetic α] (u v : PlaneVector α) : PlaneVector α := ⟨u.x + v.x, u.y + v.y⟩

/-- The difference of two vectors. -/
def minus [Arithmetic α] (u v : PlaneVector α) : PlaneVector α := ⟨u.x - v.x, u.y - v.y⟩

/-- A multiple of a vector. -/
def times [Arithmetic α] (factor : α) (v : PlaneVector α) : PlaneVector α :=
  ⟨factor * v.x, factor * v.y⟩

/-- A fraction of a vector. -/
def dividedBy [Arithmetic α] (v : PlaneVector α) (divisor : α) : PlaneVector α :=
  ⟨v.x / divisor, v.y / divisor⟩

/-- The vector turned by a quarter to the left. -/
def turned [Arithmetic α] (v : PlaneVector α) : PlaneVector α := ⟨-v.y, v.x⟩

/-- The inner product, summed up from zero: a sum of two negative zeros is positive. -/
def dot [Arithmetic α] (u v : PlaneVector α) : α := 0.0 + u.x * v.x + u.y * v.y

/-- The signed area that two vectors span. -/
def cross [Arithmetic α] (u v : PlaneVector α) : α := u.x * v.y - u.y * v.x

/-- The length of a vector. -/
def length [Scalar α] (v : PlaneVector α) : Except Fault α :=
  root (larger (v.x * v.x + v.y * v.y) 0.0)

/-- The length of a vector, or the smallest one. -/
def safeLength [Scalar α] (v : PlaneVector α) : Except Fault α :=
  v.length.map (larger · smallestLength)

end PlaneVector

/-- The distance of two points. -/
def distance [Scalar α] (a b : PlaneVector α) : Except Fault α := (b.minus a).length

/-- The angle between minus and plus half a turn that equals the given one up to whole turns. -/
def wrapAngle [Scalar α] (angle : α) : Except Fault α := do
  .ok (direction (← sine angle) (← cosine angle))

/-- The frame of a conic: its center, the unit vector towards its focus, that vector turned by a
quarter, and the distance of the focus. A focus at the center counts as lying in the direction of
the first axis. -/
structure ConicFrame (α : Type) where
  center : PlaneVector α
  along : PlaneVector α
  across : PlaneVector α
  focal : α

/-- The frame of a conic with the given center and focus. -/
def ConicFrame.of [Scalar α] (center focus : PlaneVector α) : Except Fault (ConicFrame α) := do
  let axis := focus.minus center
  let focal ← axis.length
  let along := if atMost focal smallestLength then ⟨1.0, 0.0⟩ else axis.dividedBy focal
  .ok ⟨center, along, along.turned, focal⟩

/-- The point at `a` along and `b` across the axis of a frame. -/
def ConicFrame.point [Scalar α] (frame : ConicFrame α) (a b : α) : PlaneVector α :=
  (frame.center.plus (.times a frame.along)).plus (.times b frame.across)

end Drafting
