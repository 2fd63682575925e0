import Drafting.Proofs.Locality
import Drafting.Proofs.Roots

/-!
# Readings that are never refused

A relation that states an amount, a step or a ratio or a length but no angle, has one row, and where
its slots can be read that row has a value. Only an angle is wrapped by its sine and cosine, which
have none where the angle is infinite.
-/

namespace Drafting

/-- A point is a point. -/
def PointSlots.Given : PointSlots → Prop
  | slots .. => True
  | missing _ => False

/-- The parts of a view are points. -/
def View.Pointed (view : View) : Prop := ∀ part ∈ view.figure.parts, part.kind = .point

/-- The parts of an operand are points. -/
def Operand.Pointed : Operand → Prop
  | view v => v.Pointed
  | scalar _ => True

/-- The view of a point stands for one. -/
theorem View.given_slots {view : View} (point : view.kind = .point) : view.slots.Given := by
  obtain ⟨figure, binding⟩ := view
  cases figure with
  | point x y => trivial
  | _ => cases point

/-- A relation states an amount that is no angle, of points that are points. -/
def Relation.StatesAmount : Relation → Prop
  | equal .. | difference .. | proportional .. => True
  | coordinateX point _ | coordinateY point _ => point.Given
  | pointDistance p q _ => p.Given ∧ q.Given
  | lineDistance point line _ => point.Given ∧ line.start.Given ∧ line.finish.Given
  | circleRadius .. | circleDiameter .. | arcLength .. => True
  | _ => False

section Readable

variable {read : SlotReader Float}

/-- A point that can be read has coordinates. -/
theorem PointSlots.vector_ok {p : PointSlots} (given : p.Given)
    (readable : ∀ slot ∈ p.reads, ∃ x, read slot = .ok x) : ∃ v, p.vector read = .ok v := by
  cases p with
  | missing kind => cases given
  | slots x y =>
    obtain ⟨a, abscissa⟩ := readable x (by simp [reads])
    obtain ⟨b, ordinate⟩ := readable y (by simp [reads])
    exact ⟨⟨a, b⟩, bind_eq_ok.mpr ⟨x, rfl, bind_eq_ok.mpr ⟨a, abscissa,
      bind_eq_ok.mpr ⟨y, rfl, bind_eq_ok.mpr ⟨b, ordinate, rfl⟩⟩⟩⟩⟩

/-- A line between points that can be read has a direction. -/
theorem LineSlots.directed_ok {line : LineSlots} (start : line.start.Given)
    (finish : line.finish.Given) (readable : ∀ slot ∈ line.reads, ∃ x, read slot = .ok x) :
    ∃ directed, line.directed read = .ok directed := by
  obtain ⟨s, begins⟩ := PointSlots.vector_ok start
    fun slot there => readable slot (List.mem_append_left _ there)
  obtain ⟨f, ends⟩ := PointSlots.vector_ok finish
    fun slot there => readable slot (List.mem_append_right _ there)
  exact ⟨_, bind_eq_ok.mpr ⟨s, begins, bind_eq_ok.mpr ⟨f, ends, rfl⟩⟩⟩

/-- A point has a distance from a line. -/
theorem lineDistance_ok (point : PlaneVector Float) (line : PlaneVector Float × PlaneVector Float) :
    ∃ x, lineDistance point line = .ok x := by
  obtain ⟨x, measured⟩ := line.2.safeLength_ok
  exact ⟨_, bind_eq_ok.mpr ⟨x, measured, rfl⟩⟩

/-- The row of a relation that states an amount has a value. -/
theorem Relation.rows_of_statesAmount {relation : Relation} (states : relation.StatesAmount)
    (readable : ∀ slot ∈ relation.reads, ∃ x, read slot = .ok x) :
    ∃ x, relation.rows read = .ok [x] := by
  cases relation with
  | equal a b =>
    obtain ⟨x, first⟩ := readable a (by simp [reads])
    obtain ⟨y, second⟩ := readable b (by simp [reads])
    exact ⟨_, bind_eq_ok.mpr ⟨x, first, bind_eq_ok.mpr ⟨y, second, rfl⟩⟩⟩
  | difference a b amount =>
    obtain ⟨x, first⟩ := readable a (by simp [reads])
    obtain ⟨y, second⟩ := readable b (by simp [reads])
    obtain ⟨z, third⟩ := readable amount (by simp [reads])
    exact ⟨_, bind_eq_ok.mpr ⟨y, second, bind_eq_ok.mpr ⟨x, first,
      bind_eq_ok.mpr ⟨z, third, rfl⟩⟩⟩⟩
  | proportional a b ratio =>
    obtain ⟨x, first⟩ := readable a (by simp [reads])
    obtain ⟨y, second⟩ := readable b (by simp [reads])
    obtain ⟨z, third⟩ := readable ratio (by simp [reads])
    exact ⟨_, bind_eq_ok.mpr ⟨y, second, bind_eq_ok.mpr ⟨z, third,
      bind_eq_ok.mpr ⟨x, first, rfl⟩⟩⟩⟩
  | coordinateX point value =>
    cases point with
    | missing kind => cases states
    | slots x y =>
      obtain ⟨a, abscissa⟩ := readable x (by simp [reads, PointSlots.reads])
      obtain ⟨b, amount⟩ := readable value (by simp [reads])
      exact ⟨_, bind_eq_ok.mpr ⟨x, rfl, bind_eq_ok.mpr ⟨a, abscissa,
        bind_eq_ok.mpr ⟨b, amount, rfl⟩⟩⟩⟩
  | coordinateY point value =>
    cases point with
    | missing kind => cases states
    | slots x y =>
      obtain ⟨a, ordinate⟩ := readable y (by simp [reads, PointSlots.reads])
      obtain ⟨b, amount⟩ := readable value (by simp [reads])
      exact ⟨_, bind_eq_ok.mpr ⟨y, rfl, bind_eq_ok.mpr ⟨a, ordinate,
        bind_eq_ok.mpr ⟨b, amount, rfl⟩⟩⟩⟩
  | pointDistance p q value =>
    obtain ⟨u, first⟩ := PointSlots.vector_ok states.1
      fun slot there => readable slot (by simp [reads, there])
    obtain ⟨v, second⟩ := PointSlots.vector_ok states.2
      fun slot there => readable slot (by simp [reads, there])
    obtain ⟨b, amount⟩ := readable value (by simp [reads])
    obtain ⟨a, between⟩ := distance_ok u v
    exact ⟨_, bind_eq_ok.mpr ⟨u, first, bind_eq_ok.mpr ⟨v, second,
      bind_eq_ok.mpr ⟨a, between, bind_eq_ok.mpr ⟨b, amount, rfl⟩⟩⟩⟩⟩
  | lineDistance point line value =>
    obtain ⟨l, along⟩ := LineSlots.directed_ok states.2.1 states.2.2
      fun slot there => readable slot (by simp [reads, there])
    obtain ⟨v, placed⟩ := PointSlots.vector_ok states.1
      fun slot there => readable slot (by simp [reads, there])
    obtain ⟨b, amount⟩ := readable value (by simp [reads])
    obtain ⟨a, between⟩ := lineDistance_ok v l
    exact ⟨_, bind_eq_ok.mpr ⟨l, along, bind_eq_ok.mpr ⟨v, placed,
      bind_eq_ok.mpr ⟨a, between, bind_eq_ok.mpr ⟨b, amount, rfl⟩⟩⟩⟩⟩
  | circleRadius circle value =>
    obtain ⟨a, radius⟩ := readable circle.radius (by simp [reads, CircleSlots.reads])
    obtain ⟨b, amount⟩ := readable value (by simp [reads])
    exact ⟨_, bind_eq_ok.mpr ⟨a, radius, bind_eq_ok.mpr ⟨b, amount, rfl⟩⟩⟩
  | circleDiameter circle value =>
    obtain ⟨a, radius⟩ := readable circle.radius (by simp [reads, CircleSlots.reads])
    obtain ⟨b, amount⟩ := readable value (by simp [reads])
    exact ⟨_, bind_eq_ok.mpr ⟨a, radius, bind_eq_ok.mpr ⟨b, amount, rfl⟩⟩⟩
  | arcLength circle ends value =>
    obtain ⟨a, radius⟩ := readable circle.radius (by simp [reads, CircleSlots.reads])
    obtain ⟨e, finish⟩ := readable ends.endAngle (by simp [reads, ArcEndSlots.reads])
    obtain ⟨s, start⟩ := readable ends.startAngle (by simp [reads, ArcEndSlots.reads])
    obtain ⟨b, amount⟩ := readable value (by simp [reads])
    exact ⟨_, bind_eq_ok.mpr ⟨a, radius, bind_eq_ok.mpr ⟨e, finish,
      bind_eq_ok.mpr ⟨s, start, bind_eq_ok.mpr ⟨b, amount, rfl⟩⟩⟩⟩⟩
  | _ => cases states

end Readable

namespace Operand

variable {operand : Operand}

/-- An operand that stands for a point has a point's slots. -/
@[grind →] theorem point?_given {point : PointSlots} (role : operand.point? = some point) :
    point.Given := by
  obtain ⟨⟨figure, binding⟩⟩ | slot := operand
  · cases figure <;> cases role
    trivial
  · cases role

/-- An operand that stands for a line between points has the slots of points. -/
@[grind →] theorem line?_given {line : LineSlots} (role : operand.line? = some line)
    (pointed : operand.Pointed) : line.start.Given ∧ line.finish.Given := by
  obtain ⟨⟨figure, binding⟩⟩ | slot := operand
  · cases figure <;> cases role
    exact ⟨View.given_slots (pointed _ (by simp [Figure.parts])),
      View.given_slots (pointed _ (by simp [Figure.parts]))⟩
  · cases role

end Operand

namespace BuiltinKind

variable {kind : BuiltinKind} {operands : List Operand} {relation : Relation}

/-- What a kind with a scalar place states is an amount, unless it is an angle. -/
theorem relation?_statesAmount (stated : kind.relation? operands = some relation)
    (scalar : .scalar ∈ kind.slots) (plain : kind ≠ .pointAngle ∧ kind ≠ .lineAngle)
    (pointed : ∀ operand ∈ operands, operand.Pointed) : relation.StatesAmount := by
  cases states_of_relation? stated
  all_goals grind [Relation.StatesAmount, slots]

end BuiltinKind

end Drafting
