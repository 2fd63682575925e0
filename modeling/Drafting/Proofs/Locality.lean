import Drafting.Proofs.Refusal
import Drafting.Relation.Catalog

/-!
# Relations read their own slots only

The rows of a relation depend on the values in the slots that it names and on nothing else: two ways
to read that agree on these slots give the same rows, refusals included. The relation that a
built-in kind states of its operands names slots of these operands only.
-/

namespace Drafting

/-- The slots that a point names. -/
def PointSlots.reads : PointSlots → List Int
  | slots x y => [x, y]
  | missing _ => []

/-- The slots that a line names. -/
def LineSlots.reads (line : LineSlots) : List Int := line.start.reads ++ line.finish.reads

/-- The slots that a circle names. -/
def CircleSlots.reads (circle : CircleSlots) : List Int := circle.center.reads ++ [circle.radius]

/-- The slots that the ends of an arc name. -/
def ArcEndSlots.reads (ends : ArcEndSlots) : List Int :=
  ends.start.reads ++ ends.finish.reads ++ [ends.startAngle, ends.endAngle]

/-- The slots that a conic names. -/
def ConicSlots.reads (conic : ConicSlots) : List Int :=
  conic.center.reads ++ conic.focus.reads ++ [conic.minorRadius]

/-- The slots that a parabola names. -/
def ParabolaSlots.reads (parabola : ParabolaSlots) : List Int :=
  parabola.vertex.reads ++ parabola.focus.reads

/-- The slots that the ends of a spline name. -/
def SplineEndSlots.reads (ends : SplineEndSlots) : List Int :=
  ends.start.reads ++ ends.finish.reads ++ ends.firstPole.reads ++ ends.lastPole.reads

/-- The slots that a relation names. -/
def Relation.reads : Relation → List Int
  | equal a b => [a, b]
  | difference a b c | proportional a b c => [a, b, c]
  | coordinateX p value | coordinateY p value => p.reads ++ [value]
  | coincident p q | horizontalPoints p q | verticalPoints p q => p.reads ++ q.reads
  | pointDistance p q value | pointAngle p q value => p.reads ++ q.reads ++ [value]
  | lineDistance p line value => p.reads ++ line.reads ++ [value]
  | pointOnLine p line | pointOnBisector p line => p.reads ++ line.reads
  | parallel l m | perpendicular l m | midpointOnLine l m | equalLength l m => l.reads ++ m.reads
  | lineAngle l m value => l.reads ++ m.reads ++ [value]
  | horizontalLine line | verticalLine line => line.reads
  | pointOnCircle p circle => p.reads ++ circle.reads
  | circleRadius circle value | circleDiameter circle value => circle.reads ++ [value]
  | equalRadius c d | externalTangent c d | internalTangent c d => c.reads ++ d.reads
  | lineTangent line circle => line.reads ++ circle.reads
  | arcLength circle ends value => circle.reads ++ ends.reads ++ [value]
  | arcRules circle ends => circle.reads ++ ends.reads
  | pointOnEllipse p conic | pointOnHyperbola p conic => p.reads ++ conic.reads
  | ellipseArcRules conic ends | hyperbolaArcRules conic ends => conic.reads ++ ends.reads
  | pointOnParabola p parabola => p.reads ++ parabola.reads
  | parabolaArcRules parabola ends => parabola.reads ++ ends.reads
  | splineEndRules ends => ends.reads

section Agreement

variable {α β : Type} {slots : List Int} {read read' : SlotReader α}
  (agree : ∀ slot ∈ slots, read slot = read' slot)

include agree

/-- The abscissa of a point is read alike. -/
theorem PointSlots.x_congr {p : PointSlots} (inside : p.reads ⊆ slots) (next : α → Except Fault β) :
    (p.x >>= fun slot => read slot >>= next) = p.x >>= fun slot => read' slot >>= next := by
  cases p with
  | slots x y =>
    show (read x >>= next) = (read' x >>= next)
    rw [agree x (inside (by simp [reads]))]
  | missing kind => rfl

/-- The ordinate of a point is read alike. -/
theorem PointSlots.y_congr {p : PointSlots} (inside : p.reads ⊆ slots) (next : α → Except Fault β) :
    (p.y >>= fun slot => read slot >>= next) = p.y >>= fun slot => read' slot >>= next := by
  cases p with
  | slots x y =>
    show (read y >>= next) = (read' y >>= next)
    rw [agree y (inside (by simp [reads]))]
  | missing kind => rfl

/-- A point is read alike. -/
theorem PointSlots.vector_congr {p : PointSlots} (inside : p.reads ⊆ slots) :
    p.vector read = p.vector read' := by
  unfold vector
  simp only [x_congr agree inside, y_congr agree inside]

variable [Scalar α]

/-- A line is read alike. -/
theorem LineSlots.directed_congr {line : LineSlots} (start : line.start.reads ⊆ slots)
    (finish : line.finish.reads ⊆ slots) : line.directed read = line.directed read' := by
  unfold directed
  rw [PointSlots.vector_congr agree start, PointSlots.vector_congr agree finish]

/-- The ends of an arc are read alike. -/
theorem ArcEndSlots.rows_congr {ends : ArcEndSlots} (start : ends.start.reads ⊆ slots)
    (finish : ends.finish.reads ⊆ slots) (startAngle : ends.startAngle ∈ slots)
    (endAngle : ends.endAngle ∈ slots) (curve : α → Except Fault (PlaneVector α)) :
    ends.rows read curve = ends.rows read' curve := by
  unfold rows
  rw [agree _ startAngle, agree _ endAngle, PointSlots.vector_congr agree start,
    PointSlots.vector_congr agree finish]

/-- The rows of a relation are read alike. -/
theorem Relation.rows_congr {relation : Relation} (inside : relation.reads ⊆ slots) :
    relation.rows read = relation.rows read' := by
  cases relation <;>
    simp only [reads, LineSlots.reads, CircleSlots.reads, ArcEndSlots.reads, ConicSlots.reads,
      ParabolaSlots.reads, SplineEndSlots.reads, List.append_subset, List.cons_subset] at inside <;>
    simp only [rows, agree, inside, PointSlots.x_congr agree, PointSlots.y_congr agree,
      PointSlots.vector_congr agree, LineSlots.directed_congr agree, ArcEndSlots.rows_congr agree]

end Agreement

/-- A view that stands for a point names slots of its own only. -/
theorem View.reads_slots_subset (view : View) : view.slots.reads ⊆ view.indices := by
  obtain ⟨figure, binding⟩ := view
  cases figure with
  | point x y => exact List.Subset.refl _
  | _ => exact List.nil_subset _

namespace Operand

variable {operand : Operand}

/-- A scalar is a slot of its operand. -/
@[grind →] theorem scalar?_mem {slot : Int} (role : operand.scalar? = some slot) :
    slot ∈ operand.slots := by
  cases operand with
  | scalar own =>
    obtain rfl : own = slot := Option.some.inj role
    exact List.mem_singleton_self _
  | view v => cases role

/-- A point names slots of its operand. -/
@[grind →] theorem point?_subset {point : PointSlots} (role : operand.point? = some point) :
    point.reads ⊆ operand.slots := by
  obtain ⟨⟨figure, binding⟩⟩ | slot := operand
  · cases figure <;> cases role
    exact List.Subset.refl _
  · cases role

/-- A line names slots of its operand. -/
@[grind →] theorem line?_subset {line : LineSlots} (role : operand.line? = some line) :
    line.reads ⊆ operand.slots := by
  obtain ⟨⟨figure, binding⟩⟩ | slot := operand
  · cases figure <;> cases role
    next start finish =>
      exact List.append_subset.mpr
        ⟨List.subset_append_of_subset_left _ start.reads_slots_subset,
          List.subset_append_of_subset_right _ finish.reads_slots_subset⟩
  · cases role

/-- A circle names slots of its operand. -/
@[grind →] theorem circle?_subset {circle : CircleSlots} (role : operand.circle? = some circle) :
    circle.reads ⊆ operand.slots := by
  obtain ⟨⟨figure, binding⟩⟩ | slot := operand
  · cases figure <;> cases role
    all_goals
      simp only [CircleSlots.reads, slots, View.indices, Figure.indices]
      grind [View.reads_slots_subset]
  · cases role

/-- The ends of an arc name slots of their operand. -/
@[grind →] theorem arcEnds?_subset {ends : ArcEndSlots} (role : operand.arcEnds? = some ends) :
    ends.reads ⊆ operand.slots := by
  obtain ⟨⟨figure, binding⟩⟩ | slot := operand
  · cases figure <;> cases role
    all_goals
      simp only [ArcEndSlots.reads, slots, View.indices, Figure.indices]
      grind [View.reads_slots_subset]
  · cases role

/-- A conic names slots of its operand. -/
@[grind →] theorem conic?_subset {conic : ConicSlots} (role : operand.conic? = some conic) :
    conic.reads ⊆ operand.slots := by
  obtain ⟨⟨figure, binding⟩⟩ | slot := operand
  · cases figure <;> cases role
    all_goals
      simp only [ConicSlots.reads, slots, View.indices, Figure.indices]
      grind [View.reads_slots_subset]
  · cases role

/-- A parabola names slots of its operand. -/
@[grind →] theorem parabola?_subset {parabola : ParabolaSlots}
    (role : operand.parabola? = some parabola) :
    parabola.reads ⊆ operand.slots := by
  obtain ⟨⟨figure, binding⟩⟩ | slot := operand
  · cases figure <;> cases role
    all_goals
      simp only [ParabolaSlots.reads, slots, View.indices, Figure.indices]
      grind [View.reads_slots_subset]
  · cases role

/-- The ends of a spline name slots of their operand. -/
@[grind →] theorem splineEnds?_subset {ends : SplineEndSlots}
    (role : operand.splineEnds? = some ends) :
    ends.reads ⊆ operand.slots := by
  obtain ⟨⟨figure, binding⟩⟩ | slot := operand
  · cases figure with
    | bspline spline =>
      simp only [splineEnds?, figure?] at role
      split at role
      next first last begins ends =>
        cases role
        have first_pole := List.mem_of_head? begins
        have last_pole := List.mem_of_getLast? ends
        simp only [SplineEndSlots.reads, slots, View.indices, Figure.indices, Spline.block]
        grind [Point.slots, Point.indices, PointSlots.reads]
      next => cases role
    | _ => cases role
  · cases role

end Operand

namespace BuiltinKind

variable {kind : BuiltinKind} {operands : List Operand} {relation : Relation}

/-- Which relation a kind states of operands in the roles that it has places for. -/
inductive States : BuiltinKind → List Operand → Relation → Prop
  | equal {a b : Operand} {x y : Int} (first : a.scalar? = some x) (last : b.scalar? = some y) :
    States .equal [a, b] (.equal x y)
  | difference {a b c : Operand} {x y z : Int} (first : a.scalar? = some x)
    (second : b.scalar? = some y) (last : c.scalar? = some z) :
    States .difference [a, b, c] (.difference x y z)
  | proportional {a b c : Operand} {x y z : Int} (first : a.scalar? = some x)
    (second : b.scalar? = some y) (last : c.scalar? = some z) :
    States .proportional [a, b, c] (.proportional x y z)
  | coordinateX {a b : Operand} {x : PointSlots} {y : Int} (first : a.point? = some x)
    (last : b.scalar? = some y) : States .coordinateX [a, b] (.coordinateX x y)
  | coordinateY {a b : Operand} {x : PointSlots} {y : Int} (first : a.point? = some x)
    (last : b.scalar? = some y) : States .coordinateY [a, b] (.coordinateY x y)
  | coincident {a b : Operand} {x y : PointSlots} (first : a.point? = some x)
    (second : b.point? = some y) : States .coincident [a, b] (.coincident x y)
  | pointDistance {a b c : Operand} {x y : PointSlots} {z : Int} (first : a.point? = some x)
    (second : b.point? = some y) (last : c.scalar? = some z) :
    States .pointDistance [a, b, c] (.pointDistance x y z)
  | pointAngle {a b c : Operand} {x y : PointSlots} {z : Int} (first : a.point? = some x)
    (second : b.point? = some y) (last : c.scalar? = some z) :
    States .pointAngle [a, b, c] (.pointAngle x y z)
  | lineDistance {a b c : Operand} {x : PointSlots} {y : LineSlots} {z : Int}
    (first : a.point? = some x) (second : b.line? = some y) (last : c.scalar? = some z) :
    States .lineDistance [a, b, c] (.lineDistance x y z)
  | pointOnLine {a b : Operand} {x : PointSlots} {y : LineSlots} (first : a.point? = some x)
    (second : b.line? = some y) : States .pointOnLine [a, b] (.pointOnLine x y)
  | pointOnBisector {a b : Operand} {x : PointSlots} {y : LineSlots} (first : a.point? = some x)
    (second : b.line? = some y) : States .pointOnBisector [a, b] (.pointOnBisector x y)
  | parallel {a b : Operand} {x y : LineSlots} (first : a.line? = some x)
    (second : b.line? = some y) : States .parallel [a, b] (.parallel x y)
  | perpendicular {a b : Operand} {x y : LineSlots} (first : a.line? = some x)
    (second : b.line? = some y) : States .perpendicular [a, b] (.perpendicular x y)
  | lineAngle {a b c : Operand} {x y : LineSlots} {z : Int} (first : a.line? = some x)
    (second : b.line? = some y) (last : c.scalar? = some z) :
    States .lineAngle [a, b, c] (.lineAngle x y z)
  | midpointOnLine {a b : Operand} {x y : LineSlots} (first : a.line? = some x)
    (second : b.line? = some y) : States .midpointOnLine [a, b] (.midpointOnLine x y)
  | horizontalLine {a : Operand} {x : LineSlots} (only : a.line? = some x) :
    States .horizontalLine [a] (.horizontalLine x)
  | verticalLine {a : Operand} {x : LineSlots} (only : a.line? = some x) :
    States .verticalLine [a] (.verticalLine x)
  | horizontalPoints {a b : Operand} {x y : PointSlots} (first : a.point? = some x)
    (second : b.point? = some y) : States .horizontalPoints [a, b] (.horizontalPoints x y)
  | verticalPoints {a b : Operand} {x y : PointSlots} (first : a.point? = some x)
    (second : b.point? = some y) : States .verticalPoints [a, b] (.verticalPoints x y)
  | equalLength {a b : Operand} {x y : LineSlots} (first : a.line? = some x)
    (second : b.line? = some y) : States .equalLength [a, b] (.equalLength x y)
  | pointOnCircle {a b : Operand} {x : PointSlots} {y : CircleSlots} (first : a.point? = some x)
    (second : b.circle? = some y) : States .pointOnCircle [a, b] (.pointOnCircle x y)
  | circleRadius {a b : Operand} {x : CircleSlots} {y : Int} (first : a.circle? = some x)
    (last : b.scalar? = some y) : States .circleRadius [a, b] (.circleRadius x y)
  | circleDiameter {a b : Operand} {x : CircleSlots} {y : Int} (first : a.circle? = some x)
    (last : b.scalar? = some y) : States .circleDiameter [a, b] (.circleDiameter x y)
  | equalRadius {a b : Operand} {x y : CircleSlots} (first : a.circle? = some x)
    (second : b.circle? = some y) : States .equalRadius [a, b] (.equalRadius x y)
  | lineTangent {a b : Operand} {x : LineSlots} {y : CircleSlots} (first : a.line? = some x)
    (second : b.circle? = some y) : States .lineTangent [a, b] (.lineTangent x y)
  | externalTangent {a b : Operand} {x y : CircleSlots} (first : a.circle? = some x)
    (second : b.circle? = some y) : States .externalTangent [a, b] (.externalTangent x y)
  | internalTangent {a b : Operand} {x y : CircleSlots} (first : a.circle? = some x)
    (second : b.circle? = some y) : States .internalTangent [a, b] (.internalTangent x y)
  | arcLength {a v : Operand} {circle : CircleSlots} {ends : ArcEndSlots} {x : Int}
    (round : a.circle? = some circle) (tips : a.arcEnds? = some ends) (last : v.scalar? = some x) :
    States .arcLength [a, v] (.arcLength circle ends x)
  | arcRules {a : Operand} {circle : CircleSlots} {ends : ArcEndSlots}
    (round : a.circle? = some circle) (tips : a.arcEnds? = some ends) :
    States .arcRules [a] (.arcRules circle ends)
  | pointOnEllipse {a b : Operand} {x : PointSlots} {y : ConicSlots} (first : a.point? = some x)
    (second : b.conic? = some y) : States .pointOnEllipse [a, b] (.pointOnEllipse x y)
  | ellipseArcRules {a : Operand} {conic : ConicSlots} {ends : ArcEndSlots}
    (curved : a.conic? = some conic) (tips : a.arcEnds? = some ends) :
    States .ellipseArcRules [a] (.ellipseArcRules conic ends)
  | pointOnHyperbola {a b : Operand} {x : PointSlots} {y : ConicSlots} (first : a.point? = some x)
    (second : b.conic? = some y) : States .pointOnHyperbola [a, b] (.pointOnHyperbola x y)
  | hyperbolaArcRules {a : Operand} {conic : ConicSlots} {ends : ArcEndSlots}
    (curved : a.conic? = some conic) (tips : a.arcEnds? = some ends) :
    States .hyperbolaArcRules [a] (.hyperbolaArcRules conic ends)
  | pointOnParabola {a b : Operand} {x : PointSlots} {y : ParabolaSlots} (first : a.point? = some x)
    (second : b.parabola? = some y) : States .pointOnParabola [a, b] (.pointOnParabola x y)
  | parabolaArcRules {a : Operand} {parabola : ParabolaSlots} {ends : ArcEndSlots}
    (curved : a.parabola? = some parabola) (tips : a.arcEnds? = some ends) :
    States .parabolaArcRules [a] (.parabolaArcRules parabola ends)
  | splineEndRules {a : Operand} {x : SplineEndSlots} (only : a.splineEnds? = some x) :
    States .splineEndRules [a] (.splineEndRules x)

/-- The relation of a kind is looked up in one of five tables, by what it relates. This is what all
of them say. -/
theorem states_of_relation? (stated : kind.relation? operands = some relation) :
    kind.States operands relation := by
  unfold relation? at stated
  simp only [Option.orElse_eq_orElse, Option.orElse_eq_or, Option.or_eq_some_iff] at stated
  rcases stated with stated | ⟨-, stated | ⟨-, stated | ⟨-, stated | ⟨-, stated⟩⟩⟩⟩
  all_goals
    first
    | unfold scalarRelation? at stated
    | unfold pointRelation? at stated
    | unfold lineRelation? at stated
    | unfold circleRelation? at stated
    | unfold curveRelation? at stated
    split at stated <;>
      simp only [Option.bind_eq_bind, Option.bind_eq_some_iff, Option.some.injEq, reduceCtorEq]
        at stated
  all_goals grind [States]

/-- The relation that a built-in kind states of its operands names slots of them only. -/
theorem relation?_subset (stated : kind.relation? operands = some relation) :
    relation.reads ⊆ operands.flatMap Operand.slots := by
  cases states_of_relation? stated
  all_goals grind [Relation.reads]

end BuiltinKind

end Drafting
