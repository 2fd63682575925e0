import Drafting.Proofs.Ownership

/-!
# Literals are private

As long as operands are given by reference, that is by an identifier, a literal, a name or a
property but never by a view, nothing comes to refer to the slot of a literal but the constraint
that owns it: no geometry, no other constraint. A view could name any slot.
-/

namespace Drafting

/-- Operands are given by reference and kinds by the name of a built-in one. -/
def Scope.byReference : Scope where
  operand value := ∀ view, value ≠ .view view
  kind value := ∃ kind : BuiltinKind, value = .text kind.name
  int _ _ := nofun
  rules name ruled := by
    simp only [List.mem_cons, List.not_mem_nil, or_false] at ruled
    rcases ruled with rfl | rfl | rfl | rfl | rfl
    · exact ⟨.arcRules, rfl⟩
    · exact ⟨.ellipseArcRules, rfl⟩
    · exact ⟨.hyperbolaArcRules, rfl⟩
    · exact ⟨.parabolaArcRules, rfl⟩
    · exact ⟨.splineEndRules, rfl⟩

/-- A constraint refers to no slot that another one owns. -/
def Constraint.Ignores (c other : Constraint) : Prop :=
  ∀ slot ∈ other.owned, ∀ operand ∈ c.operands, (slot : Int) ∉ operand.slots

/-- Two constraints refer to no slot that the other one owns. -/
def Constraint.Apart (c other : Constraint) : Prop := c.Ignores other ∧ other.Ignores c

/-- Being apart is mutual. -/
instance : Std.Symm Constraint.Apart := ⟨fun _ _ apart => ⟨apart.2, apart.1⟩⟩

/-- The slot that a constraint measures is the slot of one of its literals. -/
theorem measuredSlot_mem {position : Option Nat} {allocated : List Allocated} {slot : Nat}
    (measured : measuredSlot position allocated = some slot) :
    slot ∈ allocated.filterMap (·.owned) := by
  unfold measuredSlot at measured
  simp only [Option.bind_eq_bind, Option.bind_eq_some_iff] at measured
  obtain ⟨place, -, item, there, owned⟩ := measured
  exact List.mem_filterMap.mpr ⟨item, List.mem_of_getElem? there, owned⟩

/-- A key that is found is found under an integer. -/
theorem Value.lookup_eq_some {α : Type} {value : Value} {find? : Int → Option α} {found : α}
    (looked : value.lookup find? = .ok (some found)) : ∃ key, find? key = some found := by
  obtain ⟨⟨⟩, -, answered⟩ := bind_eq_ok.mp looked
  obtain ⟨key, -, there⟩ := Option.bind_eq_some_iff.mp (Except.ok.inj answered)
  exact ⟨key, there⟩

namespace Sketch

variable {sketch after : Sketch} {scope : Scope}

/-- A point that is found by an identifier is a registered geometry. -/
theorem mem_of_registered {id : Value} {view : View}
    (found : findPoint.registered sketch id = .ok view) :
    ∃ entry ∈ sketch.table.entries, entry.view = view := by
  obtain ⟨there, got, checked⟩ := bind_eq_ok.mp found
  obtain ⟨seen, looked, answered⟩ := bind_eq_ok.mp got
  cases seen with
  | none => cases answered
  | some entry =>
    cases answered
    by_cases point : entry.view.kind = .point
    · rw [if_pos point] at checked
      cases checked
      obtain ⟨key, listed⟩ := Value.lookup_eq_some looked
      exact ⟨entry, (GeometryTable.find?_eq_some listed).1, rfl⟩
    · rw [if_neg point] at checked
      cases checked

/-- A point that is found by reference is a registered geometry. -/
theorem findPoint_byReference {value : Value} {view : View} (reference : ∀ view, value ≠ .view view)
    (found : sketch.findPoint value = .ok view) :
    ∃ entry ∈ sketch.table.entries, entry.view = view := by
  cases value with
  | view given => exact absurd rfl (reference given)
  | _ => exact mem_of_registered found

/-- The slot of a literal is private to the constraint that owns it. -/
structure Private (sketch : Sketch) : Prop where
  views : ∀ entry ∈ sketch.table.entries, ∀ c ∈ sketch.constraints, ∀ slot ∈ c.owned,
    (slot : Int) ∉ entry.view.indices
  operands : sketch.constraints.Pairwise Constraint.Apart
  measured : ∀ c ∈ sketch.constraints, ∀ slot, c.valueSlot = some slot → slot ∈ c.owned

/-- A new sketch has no literals. -/
theorem private_start (identity : Nat) (options : SolveOptions) (journal : Journal) :
    (start identity options journal).Private where
  views := List.forall_mem_nil _
  operands := .nil
  measured := List.forall_mem_nil _

/-- Dropping keeps literals private, and so does what changes neither geometry nor constraints. -/
theorem Private.mono (apart : sketch.Private)
    (entries : after.table.entries.Sublist sketch.table.entries)
    (constraints : after.constraints.Sublist sketch.constraints) : after.Private where
  views entry there c registered :=
    apart.views entry (entries.subset there) c (constraints.subset registered)
  operands := apart.operands.sublist constraints
  measured c registered := apart.measured c (constraints.subset registered)

/-- A geometry that is drawn by reference refers to no literal. -/
theorem Private.drawn (apart : sketch.Private) (sound : sketch.Sound) {view : View}
    {values : List Float} (draws : sketch.Draws .byReference values.length view) (fixed : Bool)
    (slotTag tag : Int) :
    Private { sketch with
      store := (sketch.store.append values fixed slotTag).2
      table := sketch.table.reserveId.2.insert sketch.table.nextId view tag } where
  views entry there c registered slot owned := by
    rcases List.mem_append.mp there with before | new
    · exact apart.views entry before c registered slot owned
    · rw [List.mem_singleton.mp new]
      have existing := sound.slotsApart.literals c registered slot owned
      have outside : (slot : Int) ∉ view.ownIndices := by
        rw [draws.own]
        intro inside
        obtain ⟨other, allocated, same⟩ := List.mem_map.mp inside
        have bounds := List.mem_range'_1.mp allocated
        have equal := Int.ofNat.inj same
        omega
      intro among
      rcases View.mem_indices_cases among with own | ⟨part, part_of, lent⟩
      · exact outside own
      · rcases draws.parts part part_of with ⟨value, reference, found⟩ | ⟨-, own⟩
        · obtain ⟨known, before, rfl⟩ := findPoint_byReference reference found
          exact apart.views known before c registered slot owned lent
        · exact outside (own slot lent)
  operands := apart.operands
  measured := apart.measured

/-- The operands of a constraint that is registered by reference refer to no literal of another
constraint. -/
theorem Private.placed (apart : sketch.Private) (sound : sketch.Sound) {kind : Value}
    {operands : List Value} {spec : ConstraintKind} {resolved : List Resolved}
    (offered : ∀ operand ∈ operands, Scope.byReference.operand operand)
    (named : sketch.resolveRequest kind operands = .ok (spec, resolved)) {c : Constraint}
    (registered : c ∈ sketch.constraints) {slot : Nat} (owned : slot ∈ c.owned) :
    ∀ operand ∈ placedOperands sketch.store.size resolved, (slot : Int) ∉ operand.slots := by
  intro operand given among
  have existing := sound.slotsApart.literals c registered slot owned
  rcases mem_placedOperands given with before | ⟨literal, new, rfl⟩
  · obtain ⟨-, -, all⟩ := resolveRequest_cases named
    obtain ⟨place, value, there, resolves⟩ := Resolves.of_mem all before
    rcases resolves.slots_cases with ⟨pair, defined, same⟩ | ⟨entry, known, lent⟩ |
      ⟨view, rfl, -⟩
    · rw [same, List.mem_singleton] at among
      rw [Int.ofNat.inj among] at owned
      exact sound.slotsApart.literal_parameter c registered pair defined owned
    · exact apart.views entry known c registered slot owned (lent slot among)
    · exact absurd rfl (offered _ there view)
  · rw [owned_place] at new
    have bounds := List.mem_range'_1.mp new
    have equal := Int.ofNat.inj (List.mem_singleton.mp among)
    omega

/-- A constraint that is registered by reference keeps literals private. -/
theorem Private.constrained (apart : sketch.Private) (sound : sketch.Sound) {kind : Value}
    {operands : List Value} {spec : ConstraintKind} {resolved : List Resolved}
    (offered : ∀ operand ∈ operands, Scope.byReference.operand operand)
    (named : sketch.resolveRequest kind operands = .ok (spec, resolved)) (modifiers : Modifiers)
    (tag : Int) (block : Block) :
    Private (sketch.withConstraint spec resolved modifiers tag block) := by
  have new : ∀ slot ∈ (sketch.nextConstraint spec resolved modifiers tag block).owned,
      sketch.store.size ≤ slot := by
    intro slot owned
    have allocated : slot ∈ List.range' sketch.store.size (literals resolved).length :=
      owned_place .. ▸ owned
    exact (List.mem_range'_1.mp allocated).1
  have below {slot : Nat} (existing : InStore sketch.store.size (slot : Int)) :
      slot < sketch.store.size := Int.ofNat_lt.mp existing.2
  constructor
  · intro entry there c registered slot owned among
    rcases List.mem_append.mp registered with before | last
    · exact apart.views entry there c before slot owned among
    · rw [List.mem_singleton.mp last] at owned
      have beyond := new slot owned
      have existing := below (sound.views entry there slot among)
      omega
  · refine List.pairwise_append.mpr ⟨apart.operands, List.pairwise_singleton _ _, ?_⟩
    intro c registered other last
    rw [List.mem_singleton.mp last]
    constructor
    · intro slot owned operand given among
      have beyond := new slot owned
      have existing := below (sound.operands c registered operand given slot among)
      omega
    · intro slot owned
      exact apart.placed sound offered named registered owned
  · intro c registered slot measures
    rcases List.mem_append.mp registered with before | last
    · exact apart.measured c before slot measures
    · rw [List.mem_singleton.mp last] at measures ⊢
      exact measuredSlot_mem measures

/-- Every change by reference keeps literals private. -/
theorem Private.change (apart : sketch.Private) (sound : sketch.Sound)
    (change : Change .byReference sketch after) : after.Private := by
  cases change with
  | drawn values fixed slotTag tag draws => exact apart.drawn sound draws fixed slotTag tag
  | constrained modifiers tag _ offered named =>
    exact apart.constrained sound offered named modifiers tag _
  | removed => exact apart.mono (.refl _) List.filter_sublist
  | dropped => exact apart.mono List.filter_sublist (.refl _)
  | cleared => exact ⟨List.forall_mem_nil _, .nil, List.forall_mem_nil _⟩
  | _ => exact apart.mono (.refl _) (.refl _)

end Sketch

end Drafting
