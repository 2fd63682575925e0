import Drafting.Proofs.Footprint

/-!
# What an amount is compared with

A relation that states an amount other than an angle compares it with a quantity: its one row is the
quantity minus the amount. The amount is the last operand, and as it is measured only if it was
given by a literal, its slot is one that no operand before it refers to. So the quantity does not
change with the amount.
-/

namespace Drafting

/-- A slot that was written is read as what was written. -/
theorem slotsOf_setIfInBounds_self {α : Type} {vector : Array α} {slot : Nat}
    (inside : slot < vector.size) (value : α) :
    slotsOf (vector.setIfInBounds slot value) slot = .ok value := by
  have existing : (0 : Int) ≤ slot := Int.natCast_nonneg slot
  unfold slotsOf
  rw [if_neg (Int.not_lt.mpr existing)]
  dsimp only
  rw [Int.toNat_natCast, Array.getElem?_setIfInBounds_self_of_lt inside]
  exact if_pos existing

/-- Another slot is read as before. -/
theorem slotsOf_setIfInBounds_ne {α : Type} {vector : Array α} {slot : Nat} {index : Int}
    (positive : 0 ≤ index) (apart : (slot : Int) ≠ index) (value : α) :
    slotsOf (vector.setIfInBounds slot value) index = slotsOf vector index :=
  slotsOf_congr Array.size_setIfInBounds positive
    (Array.getElem?_setIfInBounds_ne (by omega))

namespace Relation

/-- The slot of the amount that a relation compares with a quantity. -/
def amount? : Relation → Option Int
  | equal _ b => some b
  | difference _ _ amount => some amount
  | coordinateX _ value | coordinateY _ value => some value
  | pointDistance _ _ distance | lineDistance _ _ distance => some distance
  | circleRadius _ radius => some radius
  | circleDiameter _ diameter => some diameter
  | arcLength _ _ length => some length
  | _ => none

/-- The quantity that a relation compares with its amount. -/
def quantity {α : Type} [Scalar α] (read : SlotReader α) : Relation → Except Fault α
  | equal a _ => read a
  | difference a b _ => do .ok ((← read b) - (← read a))
  | coordinateX point _ => do .ok (← read (← point.x))
  | coordinateY point _ => do .ok (← read (← point.y))
  | pointDistance p q _ => do .ok (← distance (← p.vector read) (← q.vector read))
  | lineDistance point line _ => do
    let line ← line.directed read
    .ok (← Drafting.lineDistance (← point.vector read) line)
  | circleRadius circle _ => read circle.radius
  | circleDiameter circle _ => do .ok (2.0 * (← read circle.radius))
  | arcLength circle ends _ => do
    let radius ← read circle.radius
    .ok (radius * ((← read ends.endAngle) - (← read ends.startAngle)))
  | _ => .error (.arithmetic .emptySequence)

variable {α : Type} [Scalar α] {relation : Relation}

/-- The row of a relation with an amount is its quantity minus the amount. -/
theorem rows_of_amount {slot : Int} (states : relation.amount? = some slot)
    (read : SlotReader α) :
    relation.rows read = (do .ok [(← relation.quantity read) - (← read slot)]) := by
  cases relation <;> cases states <;> simp only [rows, quantity, bind_assoc, ok_bind]

/-- The quantity of a relation reads all its slots but the last. -/
theorem quantity_congr {slots : List Int} {read read' : SlotReader α}
    (agree : ∀ slot ∈ slots, read slot = read' slot) (inside : relation.reads.dropLast ⊆ slots) :
    relation.quantity read = relation.quantity read' := by
  cases relation <;>
    simp only [reads, LineSlots.reads, CircleSlots.reads, ArcEndSlots.reads,
      ← List.append_assoc, List.dropLast_concat, List.append_subset, List.cons_subset,
      List.dropLast_cons_cons] at inside <;>
    simp only [quantity, agree, inside, PointSlots.x_congr agree, PointSlots.y_congr agree,
      PointSlots.vector_congr agree, LineSlots.directed_congr agree]

/-- The first row of a relation at a parameter vector. -/
def firstRow (relation : Relation) (vector : Array α) : Except Fault α := do
  match ← relation.rows (slotsOf vector) with
  | row :: _ => .ok row
  | [] => .error (.arithmetic (.slotBeyondVector 0 0))

/-- Where the slot of its amount is no other of its slots, the first row of a relation is its
quantity minus whatever is written into that slot. -/
theorem firstRow_setIfInBounds {slot : Nat} (states : relation.amount? = some (slot : Int))
    {vector : Array α} (inside : slot < vector.size)
    (apart : (slot : Int) ∉ relation.reads.dropLast)
    (positive : ∀ index ∈ relation.reads.dropLast, 0 ≤ index) (value : α) :
    relation.firstRow (vector.setIfInBounds slot value) =
      (relation.quantity (slotsOf vector)).map (· - value) := by
  have same : relation.quantity (slotsOf (vector.setIfInBounds slot value)) =
      relation.quantity (slotsOf vector) := by
    refine quantity_congr (fun index read => ?_) (List.Subset.refl _)
    refine slotsOf_setIfInBounds_ne (positive index read) ?_ value
    rintro rfl
    exact apart read
  unfold firstRow
  rw [rows_of_amount states, same, slotsOf_setIfInBounds_self inside]
  cases relation.quantity (slotsOf vector) <;> rfl

end Relation

/-- A constraint that is built from a relation reads the first row of the relation. -/
theorem Constraint.reading_of_block {c : Constraint} {relation : Relation}
    (built : c.block = relation.block) : c.reading = relation.firstRow := by
  funext vector
  unfold Constraint.reading Relation.firstRow
  rw [built]
  unfold Relation.block
  cases relation.rows (slotsOf vector) with
  | error fault => rfl
  | ok rows => cases rows <;> rfl

/-- An operand that stands for a scalar is one. -/
theorem Operand.eq_scalar {operand : Operand} {slot : Int} (role : operand.scalar? = some slot) :
    operand = .scalar slot := by
  cases operand with
  | scalar own => exact congrArg _ (Option.some.inj role)
  | view v => cases role

namespace BuiltinKind

variable {kind : BuiltinKind} {operands : List Operand} {relation : Relation}

/-- The last of some operands is the scalar in the measured place of a kind. A relation reads it
last, and before it slots of the operands before. -/
structure EndsIn (kind : BuiltinKind) (operands : List Operand) (relation : Relation)
    (front : List Operand) (slot : Int) : Prop where
  operands : operands = front ++ [.scalar slot]
  place : kind.toKind.valueSlot = some front.length
  last : relation.reads.getLast? = some slot
  before : relation.reads.dropLast ⊆ front.flatMap Operand.slots

/-- A relation of a kind with a place for a scalar ends in it. -/
theorem relation?_endsIn (scalar : .scalar ∈ kind.slots)
    (stated : kind.relation? operands = some relation) :
    ∃ front slot, kind.EndsIn operands relation front slot := by
  cases states_of_relation? stated
  case equal a _ _ y _ last | coordinateX a _ _ y _ last | coordinateY a _ _ y _ last
      | circleRadius a _ _ y _ last | circleDiameter a _ _ y _ last =>
    exact ⟨[a], y, Operand.eq_scalar last ▸ rfl, rfl, by simp [Relation.reads],
      by grind [Relation.reads]⟩
  case arcLength a _ _ _ y _ _ last =>
    exact ⟨[a], y, Operand.eq_scalar last ▸ rfl, rfl, by simp [Relation.reads],
      by grind [Relation.reads]⟩
  case difference a b _ _ _ z _ _ last | proportional a b _ _ _ z _ _ last
      | pointDistance a b _ _ _ z _ _ last | pointAngle a b _ _ _ z _ _ last
      | lineDistance a b _ _ _ z _ _ last | lineAngle a b _ _ _ z _ _ last =>
    exact ⟨[a, b], z, Operand.eq_scalar last ▸ rfl, rfl, by simp [Relation.reads],
      by grind [Relation.reads]⟩
  -- The other kinds relate geometry only.
  all_goals simp [slots] at scalar

/-- The kinds that compare a quantity with the amount that they state. -/
def comparing : List BuiltinKind :=
  [equal, difference, coordinateX, coordinateY, pointDistance, lineDistance, circleRadius,
    circleDiameter, arcLength]

/-- A kind that compares has a place for the amount. -/
theorem scalar_of_comparing (among : kind ∈ comparing) : .scalar ∈ kind.slots := by
  revert kind
  decide

/-- A relation of a kind that compares has its amount in the slot that it reads last. -/
theorem amount?_of_comparing (among : kind ∈ comparing)
    (stated : kind.relation? operands = some relation) :
    relation.amount? = relation.reads.getLast? := by
  cases states_of_relation? stated <;> simp [comparing] at among
  all_goals simp [Relation.amount?, Relation.reads]

/-- Of three scalars the second is stated to be proportional to the first. -/
theorem eq_proportional (stated : proportional.relation? operands = some relation) :
    ∃ a b ratio, relation = .proportional a b ratio := by
  cases states_of_relation? stated
  exact ⟨_, _, _, rfl⟩

end BuiltinKind

/-- An earlier slot is no slot of operands that are placed later, unless it was resolved. -/
theorem place_apart {next slot : Nat} {resolved : List Resolved} (earlier : slot < next)
    (apart : ∀ operand, .operand operand ∈ resolved → (slot : Int) ∉ operand.slots)
    {operand : Operand} (placed : operand ∈ placedOperands next resolved) :
    (slot : Int) ∉ operand.slots := by
  rcases mem_placedOperands placed with given | ⟨new, allocated, rfl⟩
  · exact apart operand given
  · rw [owned_place] at allocated
    have bounds := List.mem_range'_1.mp allocated
    intro among
    have equal := Int.ofNat.inj (List.mem_singleton.mp among)
    omega

/-- The slot that a literal gets is that of its own operand and of no other one. -/
theorem place_alone {next slot : Nat} {resolved : List Resolved}
    (below : ∀ operand, .operand operand ∈ resolved → ∀ index ∈ operand.slots, index < (next : Int))
    {i : Nat} {item : Allocated} (there : (place next resolved)[i]? = some item)
    (owned : item.owned = some slot) :
    next ≤ slot ∧ item.operand = .scalar slot ∧ ∀ j other, (place next resolved)[j]? = some other →
      j ≠ i → (slot : Int) ∉ other.operand.slots := by
  induction resolved generalizing next i with
  | nil => cases there
  | cons first rest ih =>
    have later : ∀ operand, .operand operand ∈ rest → ∀ index ∈ operand.slots,
        index < (next : Int) := fun operand given => below operand (List.mem_cons_of_mem _ given)
    cases first with
    | operand operand =>
      cases i with
      | zero =>
        cases there
        cases owned
      | succ i =>
        obtain ⟨beyond, itself, alone⟩ := ih later there
        refine ⟨beyond, itself, fun j other found apart among => ?_⟩
        cases j with
        | zero =>
          cases found
          have existing := below operand List.mem_cons_self slot among
          omega
        | succ j => exact alone j other found (fun same => apart (congrArg _ same)) among
    | literal x =>
      cases i with
      | zero =>
        cases there
        cases owned
        refine ⟨Nat.le_refl _, rfl, fun j other found apart among => ?_⟩
        cases j with
        | zero => exact apart rfl
        | succ j =>
          refine place_apart (Nat.lt_succ_self slot) (fun operand given among => ?_)
            (List.mem_map_of_mem (List.mem_of_getElem? found)) among
          exact Int.lt_irrefl _ (later operand given slot among)
      | succ i =>
        have further : ∀ operand, .operand operand ∈ rest → ∀ index ∈ operand.slots,
            index < ((next + 1 : Nat) : Int) := by
          intro operand given index among
          have existing := later operand given index among
          omega
        obtain ⟨beyond, itself, alone⟩ := ih further there
        refine ⟨by omega, itself, fun j other found apart among => ?_⟩
        cases j with
        | zero =>
          cases found
          have equal := Int.ofNat.inj (List.mem_singleton.mp among)
          omega
        | succ j => exact alone j other found (fun same => apart (congrArg _ same)) among

/-- The slot that a constraint measures is that of the operand in the measured place of its kind,
and of no other one. -/
def Constraint.MeasuresAlone (c : Constraint) : Prop :=
  ∀ slot, c.valueSlot = some slot → ∃ place, c.operands[place]? = some (.scalar slot) ∧
    (∀ kind : BuiltinKind, c.kind = kind.name → kind.toKind.valueSlot = some place) ∧
      ∀ other operand, c.operands[other]? = some operand → other ≠ place →
        (slot : Int) ∉ operand.slots

namespace Sketch

variable {sketch after : Sketch} {scope : Scope}

/-- The constraints of a sound and genuine sketch measure slots that are theirs alone. -/
structure Measures (sketch : Sketch) : Prop where
  sound : sketch.Sound
  genuine : sketch.Genuine
  alone : ∀ c ∈ sketch.constraints, c.MeasuresAlone

/-- A constraint that is registered measures a slot that is its alone. -/
theorem Measures.nextConstraint (measures : sketch.Measures) {kind : Value}
    {operands : List Value} {spec : ConstraintKind} {resolved : List Resolved}
    (named : sketch.resolveRequest kind operands = .ok (spec, resolved)) (modifiers : Modifiers)
    (tag : Int) (block : Block) :
    (sketch.nextConstraint spec resolved modifiers tag block).MeasuresAlone := by
  intro slot measured
  obtain ⟨position, valued, found⟩ := Option.bind_eq_some_iff.mp measured
  obtain ⟨item, there, owned⟩ := Option.bind_eq_some_iff.mp found
  obtain ⟨-, itself, alone⟩ := place_alone
    (fun operand given index among => (measures.sound.resolved named given index among).2)
    there owned
  refine ⟨position, ?_, fun builtin name => ?_, fun other operand given apart => ?_⟩
  · show ((place sketch.store.size resolved).map _)[position]? = _
    rw [List.getElem?_map, there, Option.map_some, itself]
  · -- The kind that was looked up has this name, which means the built-in kind.
    have same : spec.name = builtin.name := name
    have looked := Catalog.find?_of_lookup (resolveRequest_cases named).1
    rw [same, measures.genuine.catalog builtin] at looked
    cases looked
    exact valued
  · obtain ⟨allocated, among, rfl⟩ := Option.map_eq_some_iff.mp
      ((List.getElem?_map ..).symm.trans given)
    exact alone other allocated among apart

/-- A new sketch has no constraints. -/
theorem measures_start (identity : Nat) (options : SolveOptions) (journal : Journal) :
    (start identity options journal).Measures :=
  ⟨sound_start identity options journal, genuine_start identity options journal,
    List.forall_mem_nil _⟩

/-- Every change leaves constraints that measure slots of their own. -/
theorem Measures.change (measures : sketch.Measures) (change : Change scope sketch after) :
    after.Measures := by
  refine ⟨measures.sound.change change, measures.genuine.change change, ?_⟩
  cases change with
  | constrained modifiers tag _ _ named =>
    intro c registered
    rcases List.mem_append.mp registered with before | last
    · exact measures.alone c before
    · rw [List.mem_singleton.mp last]
      exact measures.nextConstraint named modifiers tag _
  | removed => exact fun c there => measures.alone c (List.mem_of_mem_filter there)
  | cleared => exact List.forall_mem_nil _
  | _ => exact measures.alone

/-- The constraints of every sketch that is reached measure slots of their own. -/
theorem Reached.measures (reached : sketch.Reached scope) : sketch.Measures :=
  reached.invariant measures_start Measures.change

end Sketch

end Drafting
