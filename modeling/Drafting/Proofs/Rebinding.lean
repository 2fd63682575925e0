import Drafting.Relation.Catalog
import Drafting.Relation.Template

/-!
# Other bindings

Where a view was bound decides whether a store accepts it, and nothing else: with other bindings a
view has the same kind, the same slots and the same parts, and the built-in kinds state the same
relations of it.
-/

namespace Drafting

variable (f : Binding → Binding)

/-- A point with another binding. -/
def Point.rebound (p : Point) : Point := { p with binding := p.binding.map f }

/-- A spline with other bindings. -/
def Spline.rebound (s : Spline) : Spline :=
  { s with
    start := s.start.rebound f, finish := s.finish.rebound f, poles := s.poles.map (·.rebound f) }

mutual

/-- A figure with other bindings. -/
def Figure.rebound : Figure → Figure
  | .point x y => .point x y
  | .line start finish => .line start.rebound finish.rebound
  | .circle center radius => .circle center.rebound radius
  | .arc center start finish startAngle endAngle radius =>
    .arc center.rebound start.rebound finish.rebound startAngle endAngle radius
  | .ellipse center focus minorRadius => .ellipse center.rebound focus.rebound minorRadius
  | .arcOfEllipse center focus start finish startAngle endAngle minorRadius =>
    .arcOfEllipse center.rebound focus.rebound start.rebound finish.rebound startAngle endAngle
      minorRadius
  | .hyperbola center focus minorRadius => .hyperbola center.rebound focus.rebound minorRadius
  | .arcOfHyperbola center focus start finish startAngle endAngle minorRadius =>
    .arcOfHyperbola center.rebound focus.rebound start.rebound finish.rebound startAngle endAngle
      minorRadius
  | .parabola vertex focus => .parabola vertex.rebound focus.rebound
  | .arcOfParabola vertex focus start finish startAngle endAngle =>
    .arcOfParabola vertex.rebound focus.rebound start.rebound finish.rebound startAngle endAngle
  | .bspline spline => .bspline (spline.rebound f)

/-- A view with other bindings. -/
def View.rebound : View → View
  | ⟨figure, binding⟩ => ⟨figure.rebound, binding.map f⟩

end

/-- An operand with other bindings. -/
def Operand.rebound : Operand → Operand
  | view v => view (v.rebound f)
  | scalar slot => scalar slot

variable {f}

namespace Spline

/-- Another binding leaves the block of a spline. -/
@[simp] theorem block_rebound (s : Spline) : (s.rebound f).block = s.block := by
  simp only [block, rebound, List.flatMap_map]
  rfl

/-- Another binding leaves the counts of a spline. -/
@[simp] theorem shape_rebound (s : Spline) : (s.rebound f).shape = s.shape := by
  simp [shape, rebound]

end Spline

namespace Figure

/-- Other bindings leave the kind. -/
@[simp] theorem kind_rebound (figure : Figure) : (figure.rebound f).kind = figure.kind := by
  cases figure <;> simp [rebound, kind]

/-- Other bindings leave the own block. -/
@[simp] theorem ownIndices_rebound (figure : Figure) :
    (figure.rebound f).ownIndices = figure.ownIndices := by
  cases figure <;> simp [rebound, ownIndices]

/-- Other bindings leave the counts. -/
@[simp] theorem shape?_rebound (figure : Figure) : (figure.rebound f).shape? = figure.shape? := by
  cases figure <;> simp [rebound, shape?]

/-- The parts get the other bindings as well. -/
@[simp] theorem parts_rebound (figure : Figure) :
    (figure.rebound f).parts = figure.parts.map (·.rebound f) := by
  cases figure <;> simp [rebound, parts, Spline.rebound, Point.rebound, Point.toView, View.rebound]

end Figure

mutual

/-- Other bindings leave the slots of a figure. -/
@[simp] theorem Figure.indices_rebound : (figure : Figure) →
    (figure.rebound f).indices = figure.indices
  | .point .. | .bspline _ => by simp [Figure.rebound, Figure.indices]
  | .line start finish => by
    simp [Figure.rebound, Figure.indices, start.indices_rebound, finish.indices_rebound]
  | .circle center _ => by simp [Figure.rebound, Figure.indices, center.indices_rebound]
  | .arc center start finish .. => by
    simp [Figure.rebound, Figure.indices, center.indices_rebound, start.indices_rebound,
      finish.indices_rebound]
  | .ellipse center focus _ | .hyperbola center focus _ | .parabola center focus => by
    simp [Figure.rebound, Figure.indices, center.indices_rebound, focus.indices_rebound]
  | .arcOfEllipse center focus start finish .. | .arcOfHyperbola center focus start finish ..
  | .arcOfParabola center focus start finish .. => by
    simp [Figure.rebound, Figure.indices, center.indices_rebound, focus.indices_rebound,
      start.indices_rebound, finish.indices_rebound]

/-- Other bindings leave the slots of a view. -/
@[simp] theorem View.indices_rebound : (view : View) → (view.rebound f).indices = view.indices
  | ⟨figure, _⟩ => by simp [View.rebound, View.indices, figure.indices_rebound]

end

namespace View

/-- The figure of a view gets the other bindings as well. -/
@[simp] theorem figure_rebound (view : View) :
    (view.rebound f).figure = view.figure.rebound f := by
  cases view
  rfl

/-- The binding of a view is the other one. -/
@[simp] theorem binding_rebound (view : View) :
    (view.rebound f).binding = view.binding.map f := by
  cases view
  rfl

/-- Other bindings leave the kind. -/
@[simp] theorem kind_rebound (view : View) : (view.rebound f).kind = view.kind := by
  simp [kind]

/-- Other bindings leave the own block. -/
@[simp] theorem ownIndices_rebound (view : View) :
    (view.rebound f).ownIndices = view.ownIndices := by
  simp [ownIndices]

/-- Other bindings leave the counts. -/
@[simp] theorem shape?_rebound (view : View) : (view.rebound f).shape? = view.shape? := by
  simp [shape?]

/-- Other bindings leave the slots of a view that stands for a point. -/
@[simp] theorem slots_rebound (view : View) : (view.rebound f).slots = view.slots := by
  obtain ⟨figure, binding⟩ := view
  cases figure <;> rfl

end View

namespace Operand

variable (operand : Operand)

/-- An operand with other bindings is named alike. -/
@[simp] theorem describe_rebound : (operand.rebound f).describe = operand.describe := by
  cases operand <;> simp [rebound, describe]

/-- Other bindings leave the slots. -/
@[simp] theorem slots_rebound : (operand.rebound f).slots = operand.slots := by
  cases operand <;> simp [rebound, slots]

/-- Other bindings leave a scalar. -/
@[simp] theorem scalar?_rebound : (operand.rebound f).scalar? = operand.scalar? := by
  cases operand <;> rfl

/-- Other bindings leave a point. -/
@[simp] theorem point?_rebound : (operand.rebound f).point? = operand.point? := by
  obtain ⟨⟨figure, binding⟩⟩ | slot := operand
  · cases figure <;> rfl
  · rfl

/-- Other bindings leave a line. -/
@[simp] theorem line?_rebound : (operand.rebound f).line? = operand.line? := by
  obtain ⟨⟨figure, binding⟩⟩ | slot := operand
  · cases figure <;> simp [rebound, line?, figure?, Figure.rebound]
  · rfl

/-- Other bindings leave a circle. -/
@[simp] theorem circle?_rebound : (operand.rebound f).circle? = operand.circle? := by
  obtain ⟨⟨figure, binding⟩⟩ | slot := operand
  · cases figure <;> simp [rebound, circle?, figure?, Figure.rebound]
  · rfl

/-- Other bindings leave the ends of an arc. -/
@[simp] theorem arcEnds?_rebound : (operand.rebound f).arcEnds? = operand.arcEnds? := by
  obtain ⟨⟨figure, binding⟩⟩ | slot := operand
  · cases figure <;> simp [rebound, arcEnds?, figure?, Figure.rebound]
  · rfl

/-- Other bindings leave a conic. -/
@[simp] theorem conic?_rebound : (operand.rebound f).conic? = operand.conic? := by
  obtain ⟨⟨figure, binding⟩⟩ | slot := operand
  · cases figure <;> simp [rebound, conic?, figure?, Figure.rebound]
  · rfl

/-- Other bindings leave a parabola. -/
@[simp] theorem parabola?_rebound : (operand.rebound f).parabola? = operand.parabola? := by
  obtain ⟨⟨figure, binding⟩⟩ | slot := operand
  · cases figure <;> simp [rebound, parabola?, figure?, Figure.rebound]
  · rfl

/-- Other bindings leave the ends of a spline. -/
@[simp] theorem splineEnds?_rebound : (operand.rebound f).splineEnds? = operand.splineEnds? := by
  obtain ⟨⟨figure, binding⟩⟩ | slot := operand
  · cases figure with
    | bspline spline =>
      simp only [rebound, splineEnds?, figure?, View.figure_rebound, Figure.rebound, Spline.rebound,
        List.head?_map, List.getLast?_map]
      cases spline.poles.head? <;> cases spline.poles.getLast? <;> rfl
    | _ => rfl
  · rfl

end Operand

namespace BuiltinKind

/-- A built-in kind states the same relation of operands with other bindings. -/
theorem relation?_rebound (kind : BuiltinKind) (operands : List Operand) :
    kind.relation? (operands.map (·.rebound f)) = kind.relation? operands := by
  rcases operands with _ | ⟨a, _ | ⟨b, _ | ⟨c, _ | ⟨d, rest⟩⟩⟩⟩ <;> cases kind <;>
    simp only [List.map_cons, List.map_nil, relation?, scalarRelation?, pointRelation?,
      lineRelation?, circleRelation?, curveRelation?, Operand.scalar?_rebound,
      Operand.point?_rebound, Operand.line?_rebound, Operand.circle?_rebound,
      Operand.arcEnds?_rebound, Operand.conic?_rebound, Operand.parabola?_rebound,
      Operand.splineEnds?_rebound]

end BuiltinKind

/-- A builder does not look at bindings: with other ones it builds the same. -/
def IgnoresBindings (build : List Operand → Except Fault Block) : Prop :=
  ∀ (f : Binding → Binding) operands, build (operands.map (·.rebound f)) = build operands

/-- A built-in kind does not look at bindings. -/
theorem BuiltinKind.ignoresBindings (kind : BuiltinKind) :
    IgnoresBindings kind.toKind.build := by
  intro f operands
  unfold toKind
  dsimp only
  rw [relation?_rebound]

/-- The builder of a template does not look at bindings. -/
theorem BlockTemplate.ignoresBindings (template : BlockTemplate) (size : Nat) :
    IgnoresBindings (template.build size) := by
  intro f operands
  unfold build
  rw [List.flatMap_map]
  simp only [Operand.slots_rebound]

/-- A catalog is impartial if none of its kinds looks at bindings and the name of a built-in kind
means that kind. -/
structure Catalog.Impartial (catalog : Catalog) : Prop where
  ignores : ∀ kind ∈ catalog.kinds, IgnoresBindings kind.build
  builtin : ∀ kind : BuiltinKind, catalog.find? kind.name = some kind.toKind

end Drafting
