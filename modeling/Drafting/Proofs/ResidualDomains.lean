import Drafting.Proofs.ConvergedApply
import Drafting.Proofs.ApplyOutcome
import Drafting.Proofs.Exactness

/-!
# Where residuals have values

Most relations have rows wherever their slots can be read: lengths and distances are never refused,
and a line without a length divides by the smallest one. A few take a function of what they read
that has no value everywhere. An angle is wrapped by its sine and cosine, an arc takes the circular
or hyperbolic functions of its two parameters, and a point on a conic takes the second power of the
focal distance. `Relation.InDomain` says for each relation which values it needs, and a constraint
of a built-in kind between points has rows at a vector exactly if its relation is in its domain
there.
-/

namespace Drafting

/-- The points that bound a line. -/
def LineSlots.points (line : LineSlots) : List PointSlots := [line.start, line.finish]

/-- The points at the ends of an arc. -/
def ArcEndSlots.points (ends : ArcEndSlots) : List PointSlots := [ends.start, ends.finish]

/-- The points of a conic. -/
def ConicSlots.points (conic : ConicSlots) : List PointSlots := [conic.center, conic.focus]

/-- The points of a parabola. -/
def ParabolaSlots.points (parabola : ParabolaSlots) : List PointSlots :=
  [parabola.vertex, parabola.focus]

/-- The points at the ends of a spline. -/
def SplineEndSlots.points (ends : SplineEndSlots) : List PointSlots :=
  [ends.start, ends.finish, ends.firstPole, ends.lastPole]

namespace Relation

/-- The points whose coordinates a relation reads. -/
def points : Relation → List PointSlots
  | equal .. | difference .. | proportional .. => []
  | circleRadius .. | circleDiameter .. | equalRadius .. | arcLength .. => []
  | coordinateX p _ | coordinateY p _ => [p]
  | coincident p q | pointDistance p q _ | pointAngle p q _ | horizontalPoints p q
  | verticalPoints p q => [p, q]
  | lineDistance p line _ | pointOnLine p line | pointOnBisector p line => p :: line.points
  | parallel l m | perpendicular l m | lineAngle l m _ | midpointOnLine l m | equalLength l m =>
    l.points ++ m.points
  | horizontalLine line | verticalLine line => line.points
  | pointOnCircle p circle => [p, circle.center]
  | lineTangent line circle => line.points ++ [circle.center]
  | externalTangent c d | internalTangent c d => [c.center, d.center]
  | arcRules circle ends => circle.center :: ends.points
  | pointOnEllipse p conic | pointOnHyperbola p conic => p :: conic.points
  | ellipseArcRules conic ends | hyperbolaArcRules conic ends => conic.points ++ ends.points
  | pointOnParabola p parabola => p :: parabola.points
  | parabolaArcRules parabola ends => parabola.points ++ ends.points
  | splineEndRules ends => ends.points

/-- What a relation takes for points are points. -/
def Pointed (relation : Relation) : Prop := ∀ p ∈ relation.points, p.Given

end Relation

section Values

variable (value : Int → Float)

/-- The point that stands in its slots. -/
def PointSlots.at : PointSlots → PlaneVector Float
  | slots x y => ⟨value x, value y⟩
  | missing _ => ⟨0.0, 0.0⟩

/-- The vector from the start of a line to its end. -/
def LineSlots.along (line : LineSlots) : PlaneVector Float :=
  (line.finish.at value).minus (line.start.at value)

/-- An angle has a cosine and a sine. -/
def HasCircular (angle : Float) : Prop := Answers (cosine angle) ∧ Answers (sine angle)

/-- A parameter has a hyperbolic cosine and sine. -/
def HasHyperbolic (parameter : Float) : Prop :=
  Answers (cosineHyperbolic parameter) ∧ Answers (sineHyperbolic parameter)

/-- Every function that a relation takes of the values in its slots has a value there. -/
def Relation.InDomain : Relation → Prop
  | pointAngle p q angle =>
    let d := (q.at value).minus (p.at value)
    HasCircular (direction d.y d.x - value angle)
  | lineAngle l m angle =>
    let u := l.along value
    let v := m.along value
    HasCircular (direction (u.cross v) (u.dot v) - value angle)
  | arcRules _ ends | ellipseArcRules _ ends =>
    HasCircular (value ends.startAngle) ∧ HasCircular (value ends.endAngle)
  | hyperbolaArcRules _ ends =>
    HasHyperbolic (value ends.startAngle) ∧ HasHyperbolic (value ends.endAngle)
  | pointOnEllipse _ conic =>
    ∃ focal, distance (conic.center.at value) (conic.focus.at value) = .ok focal ∧
      ∃ focalSquare, square focal = .ok focalSquare ∧
        Answers (root (value conic.minorRadius * value conic.minorRadius + focalSquare))
  | pointOnHyperbola _ conic =>
    ∃ focal, distance (conic.center.at value) (conic.focus.at value) = .ok focal ∧
      Answers (square focal)
  | _ => True

end Values

section Readings

variable {value : Int → Float}

namespace PointSlots

variable {p : PointSlots} (given : p.Given)

include given

/-- A point has a slot for its abscissa. -/
theorem x_ok : ∃ slot, p.x = .ok slot := by
  cases p with
  | slots x y => exact ⟨x, rfl⟩
  | missing kind => cases given

/-- A point has a slot for its ordinate. -/
theorem y_ok : ∃ slot, p.y = .ok slot := by
  cases p with
  | slots x y => exact ⟨y, rfl⟩
  | missing kind => cases given

/-- A point is read from its slots. -/
theorem vector_eq_at : p.vector (fun slot => .ok (value slot)) = .ok (p.at value) := by
  cases p with
  | slots x y => rfl
  | missing kind => cases given

end PointSlots

/-- A line between points is read from their slots. -/
theorem LineSlots.directed_eq_along {line : LineSlots} (start : line.start.Given)
    (finish : line.finish.Given) :
    line.directed (fun slot => .ok (value slot)) = .ok (line.start.at value, line.along value) := by
  unfold directed
  rw [PointSlots.vector_eq_at start, PointSlots.vector_eq_at finish]
  rfl

/-- A point has a signed distance from a line. -/
theorem signedDistance_ok (point : PlaneVector Float)
    (line : PlaneVector Float × PlaneVector Float) : ∃ x, signedDistance point line = .ok x := by
  obtain ⟨x, measured⟩ := line.2.safeLength_ok
  exact ⟨_, bind_eq_ok.mpr ⟨x, measured, rfl⟩⟩

/-- Two vectors have a product relative to their lengths. -/
theorem relative_ok (product : PlaneVector Float → PlaneVector Float → Float)
    (u v : PlaneVector Float) : ∃ x, relative product u v = .ok x := by
  obtain ⟨x, first⟩ := u.safeLength_ok
  obtain ⟨y, second⟩ := v.safeLength_ok
  exact ⟨_, bind_eq_ok.mpr ⟨x, first, bind_eq_ok.mpr ⟨y, second, rfl⟩⟩⟩

/-- A point has a distance from each focus of a conic. -/
theorem focalDistances_ok (point center focus : PlaneVector Float) :
    ∃ near far, focalDistances point center focus = .ok (near, far) := by
  obtain ⟨x, near⟩ := distance_ok focus point
  obtain ⟨y, far⟩ := distance_ok ((PlaneVector.times 2.0 center).minus focus) point
  exact ⟨x, y, bind_eq_ok.mpr ⟨x, near, bind_eq_ok.mpr ⟨y, far, rfl⟩⟩⟩

/-- A hyperbola has a major radius. -/
theorem hyperbolicMajor_ok (focalSquare minor : Float) :
    ∃ x, hyperbolicMajor focalSquare minor = .ok x := root_ok (larger_zero_not_below _)

/-- A conic has a frame. -/
theorem ConicFrame.of_ok (center focus : PlaneVector Float) :
    ∃ frame, ConicFrame.of center focus = .ok frame := by
  obtain ⟨x, measured⟩ := (focus.minus center).length_ok
  exact ⟨_, bind_eq_ok.mpr ⟨x, measured, rfl⟩⟩

/-- An angle can be wrapped exactly if it has a cosine and a sine. -/
theorem wrapAngle_ok_iff {angle : Float} :
    (∃ x, wrapAngle angle = .ok x) ↔ HasCircular angle := by
  show Answers (wrapAngle angle) ↔ Answers (cosine angle) ∧ Answers (sine angle)
  exact answers_bind_bind_ok.trans and_comm

/-- The ends of an arc miss its curve by some rows exactly if the curve has a point at both
parameters. -/
theorem ArcEndSlots.answers_rows_iff {ends : ArcEndSlots} (start : ends.start.Given)
    (finish : ends.finish.Given) (curve : Float → Except Fault (PlaneVector Float)) :
    Answers (ends.rows (fun slot => .ok (value slot)) curve) ↔
      Answers (curve (value ends.startAngle)) ∧ Answers (curve (value ends.endAngle)) := by
  have unfolded : ends.rows (fun slot => .ok (value slot)) curve =
      (curve (value ends.startAngle) >>= fun first =>
        curve (value ends.endAngle) >>= fun last =>
          .ok [(first.minus (ends.start.at value)).x, (first.minus (ends.start.at value)).y,
            (last.minus (ends.finish.at value)).x, (last.minus (ends.finish.at value)).y]) := by
    unfold rows
    simp only [PointSlots.vector_eq_at start, PointSlots.vector_eq_at finish, ok_bind]
  rw [unfolded]
  exact answers_bind_bind_ok

/-- A relation between points has rows exactly where it is in its domain. -/
theorem Relation.answers_rows_iff {relation : Relation} (pointed : relation.Pointed) :
    Answers (relation.rows fun slot => .ok (value slot)) ↔ relation.InDomain value := by
  unfold Pointed at pointed
  cases relation <;>
    simp only [points, LineSlots.points, ArcEndSlots.points, ConicSlots.points,
      ParabolaSlots.points, SplineEndSlots.points, List.cons_append, List.nil_append,
      List.forall_mem_cons] at pointed <;>
    simp [rows, InDomain, answers_bind, answers_ok, pointed, PointSlots.x_ok, PointSlots.y_ok,
      PointSlots.vector_eq_at, LineSlots.directed_eq_along, PlaneVector.length_ok, distance_ok,
      lineDistance_ok, signedDistance_ok, relative_ok, focalDistances_ok, hyperbolicMajor_ok,
      ConicFrame.of_ok, root_squares_ok, wrapAngle_ok_iff, ArcEndSlots.answers_rows_iff]
  -- What is left are the functions of arcs and conics, in the words of the domain.
  all_goals exact Iff.rfl

/-- A relation between points has rows at a vector with a slot for all that it reads exactly if it
is in its domain there. -/
theorem Relation.answers_at_iff {relation : Relation} (pointed : relation.Pointed)
    {vector : Array Float} (existing : ∀ slot ∈ relation.reads, InStore vector.size slot) :
    Answers (relation.rows (slotsOf vector)) ↔ relation.InDomain (valueAt vector) := by
  have read := @Relation.rows_congr Float relation.reads (slotsOf vector)
    (fun slot => .ok (valueAt vector slot))
    (fun slot there => slotsOf_eq_valueAt (existing slot there)) _ relation (List.Subset.refl _)
  rw [read]
  exact relation.answers_rows_iff pointed

end Readings

namespace Operand

variable {operand : Operand}

/-- A circle around a point has the slots of one. -/
@[grind →] theorem circle?_given {circle : CircleSlots} (role : operand.circle? = some circle)
    (pointed : operand.Pointed) : circle.center.Given := by
  obtain ⟨⟨figure, binding⟩⟩ | slot := operand
  · cases figure <;> cases role
    all_goals exact View.given_slots (pointed _ (by simp [Figure.parts]))
  · cases role

/-- The ends of an arc between points have the slots of points. -/
@[grind →] theorem arcEnds?_given {ends : ArcEndSlots} (role : operand.arcEnds? = some ends)
    (pointed : operand.Pointed) : ends.start.Given ∧ ends.finish.Given := by
  obtain ⟨⟨figure, binding⟩⟩ | slot := operand
  · cases figure <;> cases role
    all_goals
      exact ⟨View.given_slots (pointed _ (by simp [Figure.parts])),
        View.given_slots (pointed _ (by simp [Figure.parts]))⟩
  · cases role

/-- A conic has the slots of points for its center and its focus, if they are points. -/
@[grind →] theorem conic?_given {conic : ConicSlots} (role : operand.conic? = some conic)
    (pointed : operand.Pointed) : conic.center.Given ∧ conic.focus.Given := by
  obtain ⟨⟨figure, binding⟩⟩ | slot := operand
  · cases figure <;> cases role
    all_goals
      exact ⟨View.given_slots (pointed _ (by simp [Figure.parts])),
        View.given_slots (pointed _ (by simp [Figure.parts]))⟩
  · cases role

/-- A parabola has the slots of points for its vertex and its focus, if they are points. -/
@[grind →] theorem parabola?_given {parabola : ParabolaSlots}
    (role : operand.parabola? = some parabola) (pointed : operand.Pointed) :
    parabola.vertex.Given ∧ parabola.focus.Given := by
  obtain ⟨⟨figure, binding⟩⟩ | slot := operand
  · cases figure <;> cases role
    all_goals
      exact ⟨View.given_slots (pointed _ (by simp [Figure.parts])),
        View.given_slots (pointed _ (by simp [Figure.parts]))⟩
  · cases role

/-- The ends of a spline and its outermost poles are points. -/
@[grind →] theorem splineEnds?_given {ends : SplineEndSlots}
    (role : operand.splineEnds? = some ends) :
    ends.start.Given ∧ ends.finish.Given ∧ ends.firstPole.Given ∧ ends.lastPole.Given := by
  obtain ⟨⟨figure, binding⟩⟩ | slot := operand
  · cases figure with
    | bspline spline =>
      simp only [splineEnds?, figure?] at role
      split at role
      · cases role
        exact ⟨trivial, trivial, trivial, trivial⟩
      · cases role
    | _ => cases role
  · cases role

end Operand

/-- The kind that states a relation. -/
def Relation.kind : Relation → BuiltinKind
  | equal .. => .equal
  | difference .. => .difference
  | proportional .. => .proportional
  | coordinateX .. => .coordinateX
  | coordinateY .. => .coordinateY
  | coincident .. => .coincident
  | pointDistance .. => .pointDistance
  | pointAngle .. => .pointAngle
  | lineDistance .. => .lineDistance
  | pointOnLine .. => .pointOnLine
  | pointOnBisector .. => .pointOnBisector
  | parallel .. => .parallel
  | perpendicular .. => .perpendicular
  | lineAngle .. => .lineAngle
  | midpointOnLine .. => .midpointOnLine
  | horizontalLine .. => .horizontalLine
  | verticalLine .. => .verticalLine
  | horizontalPoints .. => .horizontalPoints
  | verticalPoints .. => .verticalPoints
  | equalLength .. => .equalLength
  | pointOnCircle .. => .pointOnCircle
  | circleRadius .. => .circleRadius
  | circleDiameter .. => .circleDiameter
  | equalRadius .. => .equalRadius
  | lineTangent .. => .lineTangent
  | externalTangent .. => .externalTangent
  | internalTangent .. => .internalTangent
  | arcLength .. => .arcLength
  | arcRules .. => .arcRules
  | pointOnEllipse .. => .pointOnEllipse
  | ellipseArcRules .. => .ellipseArcRules
  | pointOnHyperbola .. => .pointOnHyperbola
  | hyperbolaArcRules .. => .hyperbolaArcRules
  | pointOnParabola .. => .pointOnParabola
  | parabolaArcRules .. => .parabolaArcRules
  | splineEndRules .. => .splineEndRules

namespace BuiltinKind

variable {kind : BuiltinKind} {operands : List Operand} {relation : Relation}

/-- The relation that a kind states is of that kind, and between points if its operands are. -/
theorem kind_of_relation? (stated : kind.relation? operands = some relation)
    (pointed : ∀ operand ∈ operands, operand.Pointed) :
    relation.kind = kind ∧ relation.Pointed := by
  cases states_of_relation? stated
  all_goals
    grind [Relation.kind, Relation.Pointed, Relation.points, LineSlots.points, ArcEndSlots.points,
      ConicSlots.points, ParabolaSlots.points, SplineEndSlots.points]

/-- A name belongs to one kind. -/
theorem ofName?_name (kind : BuiltinKind) : ofName? kind.name = some kind := by
  cases kind <;> rfl

/-- The kinds whose residual takes a function that may have no value. -/
def delicate : List BuiltinKind :=
  [pointAngle, lineAngle, arcRules, pointOnEllipse, ellipseArcRules, pointOnHyperbola,
    hyperbolaArcRules]

end BuiltinKind

/-- A relation of any other kind is in its domain everywhere. -/
theorem Relation.inDomain_of_kind {relation : Relation}
    (plain : relation.kind ∉ BuiltinKind.delicate) (value : Int → Float) :
    relation.InDomain value := by
  cases relation <;> first | trivial | exact absurd (by simp [kind, BuiltinKind.delicate]) plain

/-- A relation has at least one row. -/
theorem Relation.count_pos (relation : Relation) : 0 < relation.count := by
  unfold count
  split <;> decide

namespace Constraint

variable {c : Constraint} {vector : Array Float}

/-- What the kind of a constraint states of its operands is in its domain at a vector. -/
def InDomain (c : Constraint) (vector : Array Float) : Prop :=
  ∀ (kind : BuiltinKind) (relation : Relation), c.kind = kind.name →
    kind.relation? c.operands = some relation → relation.InDomain (valueAt vector)

/-- A constraint between points that states the relation of its kind has rows at a vector with a
slot for all that it reads exactly if it is in its domain there. -/
theorem answers_rows_iff {kind : BuiltinKind} {relation : Relation} (name : c.kind = kind.name)
    (stated : kind.relation? c.operands = some relation) (block : c.block = relation.block)
    (exact : c.Exact) (pointed : ∀ operand ∈ c.operands, operand.Pointed)
    (existing : ∀ operand ∈ c.operands, ∀ index ∈ operand.slots, InStore vector.size index) :
    Answers (c.rows vector) ↔ c.InDomain vector := by
  have reads : ∀ slot ∈ relation.reads, InStore vector.size slot := by
    intro slot read
    obtain ⟨operand, given, among⟩ :=
      List.mem_flatMap.mp (BuiltinKind.relation?_subset stated read)
    exact existing operand given slot among
  rw [exact.rows_eq, answers_map, block, Relation.block, answers_map,
    relation.answers_at_iff (BuiltinKind.kind_of_relation? stated pointed).2 reads]
  constructor
  · intro inside other same named states
    have kinds : some other = some kind := by
      rw [← BuiltinKind.ofName?_name, ← BuiltinKind.ofName?_name, ← named, name]
    cases kinds
    rw [stated] at states
    exact Option.some.inj states ▸ inside
  · exact fun inside => inside kind relation name stated

/-- A constraint that relates points has rows at a vector with a slot for all that it reads exactly
if it is in its domain there. -/
theorem Relates.answers_rows_iff (relates : c.Relates) (exact : c.Exact)
    (pointed : ∀ operand ∈ c.operands, operand.Pointed)
    (existing : ∀ operand ∈ c.operands, ∀ index ∈ operand.slots, InStore vector.size index) :
    Answers (c.rows vector) ↔ c.InDomain vector := by
  obtain ⟨kind, relation, name, stated, block, -⟩ := relates
  exact Constraint.answers_rows_iff name stated block exact pointed existing

/-- A constraint that states a relation has at least one row. -/
theorem Relates.rows_ne_nil (relates : c.Relates) {rows : List Float}
    (evaluated : c.rows vector = .ok rows) : rows ≠ [] := by
  obtain ⟨kind, relation, -, -, block, -⟩ := relates
  unfold Constraint.rows at evaluated
  rw [block] at evaluated
  obtain ⟨values, read, rest⟩ := bind_eq_ok.mp evaluated
  unfold Relation.block at read
  cases found : relation.rows (slotsOf vector) with
  | error fault =>
    rw [found] at read
    cases read
  | ok values =>
    rw [found] at read
    cases read
    have positive : 0 < values.length := relation.counts_rows _ values found ▸ relation.count_pos
    dsimp only at rest
    split at rest
    · cases rest
    · cases rest
      intro bare
      have none : values = [] := List.map_eq_nil_iff.mp bare
      rw [none] at positive
      exact absurd positive (Nat.lt_irrefl 0)

end Constraint

/-- Constraints have rows together if each has. -/
theorem answers_stackedRows {constraints : List Constraint} {vector : Array Float} :
    Answers (stackedRows constraints vector) ↔ ∀ c ∈ constraints, Answers (c.rows vector) :=
  answers_bind_ok.trans answers_mapM

namespace Sketch

variable {sketch after : Sketch}

/-- Whatever constraints name exists and is what it stands for: slots are apart, measured slots are
literals, constraints relate operands between points, and they have as many rows as they declare. -/
structure Readable (sketch : Sketch) : Prop where
  sound : sketch.Sound
  own : sketch.MeasuresOwn
  standard : sketch.Standard
  exact : ∀ c ∈ sketch.constraints, c.Exact

/-- A new sketch is readable. -/
theorem readable_start (identity : Nat) (options : SolveOptions) (journal : Journal) :
    (start identity options journal).Readable :=
  ⟨sound_start .., List.forall_mem_nil _, standard_start .., List.forall_mem_nil _⟩

/-- Every change by built-in kinds and views of points keeps a sketch readable. -/
theorem Readable.change (readable : sketch.Readable) (change : Change .pointed sketch after) :
    after.Readable := by
  refine ⟨readable.sound.change change, readable.own.change change,
    readable.standard.change change (fun _ known => known) (fun _ offered => offered), ?_⟩
  cases change with
  | constrained modifiers tag known offered named built =>
    intro c registered
    rcases List.mem_append.mp registered with before | last
    · exact readable.exact c before
    · rw [List.mem_singleton.mp last]
      obtain ⟨kind, rfl⟩ := readable.standard.stated.exists_toKind known named
      exact kind.exact _ _ built
  | removed => exact fun c registered => readable.exact c (List.mem_of_mem_filter registered)
  | cleared => exact List.forall_mem_nil _
  | _ => exact readable.exact

/-- Every sketch that is reached by built-in kinds and views of points is readable. -/
theorem Reached.readable (reached : sketch.Reached .pointed) : sketch.Readable :=
  reached.invariant readable_start Readable.change

namespace Readable

variable (readable : sketch.Readable) {vector : Array Float}

include readable

/-- A registered constraint has rows at a vector of the right size exactly if it is in its domain
there. -/
theorem answers_rows_iff (size : vector.size = sketch.store.size) {c : Constraint}
    (registered : c ∈ sketch.constraints) : Answers (c.rows vector) ↔ c.InDomain vector := by
  refine (readable.standard.relates c registered).answers_rows_iff (readable.exact c registered)
    (readable.standard.operands c registered) fun operand given index among => ?_
  rw [size]
  exact readable.sound.operands c registered operand given index among

/-- Registered constraints have rows together exactly if each is in its domain. -/
theorem answers_stackedRows_iff (size : vector.size = sketch.store.size)
    {constraints : List Constraint} (known : ∀ c ∈ constraints, c ∈ sketch.constraints) :
    Answers (stackedRows constraints vector) ↔ ∀ c ∈ constraints, c.InDomain vector := by
  rw [answers_stackedRows]
  exact forall₂_congr fun c there => readable.answers_rows_iff size (known c there)

/-- Only a registered constraint of a delicate kind may be outside its domain. -/
theorem delicate_of_not_inDomain {c : Constraint} (registered : c ∈ sketch.constraints)
    (outside : ¬ c.InDomain vector) : ∃ kind ∈ BuiltinKind.delicate, c.kind = kind.name := by
  by_contra plain
  refine outside fun kind relation name stated => ?_
  have same := (BuiltinKind.kind_of_relation? stated (readable.standard.operands c registered)).1
  exact relation.inDomain_of_kind (fun among => plain ⟨kind, same ▸ among, name⟩) _

end Readable

end Sketch

end Drafting
