import Drafting.Proofs.RequestEffects

/-!
# Which slots a removal retires

Constraints and geometries are removed if their tag equals the tag that is given. Slots are retired
if they have its integer part for a tag. For an integer, and for a number that equals one, both are
the same test; a number that is not finite has no integer part and is refused. A number with a
fraction equals no tag at all, so it removes nothing, and yet the slots with its integer part for a
tag are retired. So it is with a text that reads as an integer.
-/

namespace Drafting

namespace Value

variable {tag : Value} {n : Int}

/-- The integer that a number equals is its integer part. -/
theorem toInteger_of_integerKey? (key : tag.integerKey? = some n) : tag.toInteger = .ok n := by
  have part {x : Float} (key : integerOfReal? x = some n) : integerPart x = .ok n := by
    unfold integerOfReal? at key
    unfold integerPart
    cases finite : BinaryFloat.ofFloat? x with
    | none =>
      rw [finite] at key
      cases key
    | some parts =>
      rw [finite] at key
      dsimp only at key ⊢
      by_cases whole : parts.ratio.1 % parts.ratio.2 = 0
      · rw [if_pos whole] at key
        exact congrArg Except.ok (Option.some.inj key)
      · rw [if_neg whole] at key
        cases key
  cases tag with
  | int m => exact congrArg Except.ok (Option.some.inj key)
  | bool b => exact congrArg Except.ok (Option.some.inj key)
  | float x | entry x => exact part key
  | _ => cases key

/-- A tag that is read equals its integer part and nothing else, or it equals no integer. -/
theorem IsTag.equalsInteger_cases (isTag : tag.IsTag) (read : tag.toInteger = .ok n) :
    (∀ m, tag.equalsInteger m = .ok (decide (m = n))) ∨ ∀ m, tag.equalsInteger m = .ok false := by
  cases key : tag.integerKey? with
  | some m =>
    have same : m = n := Except.ok.inj ((toInteger_of_integerKey? key).symm.trans read)
    refine .inl fun m' => ?_
    rw [isTag.equalsInteger, key, same]
    simp [eq_comm]
  | none =>
    refine .inr fun m => ?_
    rw [isTag.equalsInteger, key]
    rfl

end Value

namespace Sketch

variable {sketch : Sketch} {tag : Value} {n : Int}

/-- Whether nothing in a sketch has a tag: no constraint, no geometry and no slot. -/
structure Unused (sketch : Sketch) (n : Int) : Prop where
  constraints : ∀ c ∈ sketch.constraints, c.tag ≠ n
  entries : ∀ entry ∈ sketch.table.entries, entry.tag ≠ n
  slots : ∀ (place : Nat) (slot : Slot), sketch.store.slots[place]? = some slot → slot.tag ≠ n

/-- To leave out a tag that nothing has changes nothing. -/
theorem withoutTag_of_unused (unused : sketch.Unused n) : sketch.withoutTag n = sketch := by
  have constraints : sketch.constraints.filter (·.tag ≠ n) = sketch.constraints :=
    List.filter_eq_self.mpr fun c there => decide_eq_true (unused.constraints c there)
  have entries : sketch.table.entries.filter (·.tag = n) = [] :=
    List.filter_eq_nil_iff.mpr fun entry there => by simpa using unused.entries entry there
  have table : (sketch.table.drop []).2 = sketch.table := by
    simp [GeometryTable.drop]
  have store : sketch.store.retireTag n = ([], sketch.store) :=
    Store.retireTag_of_retired fun place slot there same =>
      absurd same (unused.slots place slot there)
  unfold withoutTag
  rw [constraints, entries, table, store]

/-- To remove a tag that equals no integer removes no constraint and no geometry; the slots that
have its integer part for a tag are retired all the same. -/
theorem outcome_removeTag_fraction (ready : sketch.Ready)
    (read : tag.toInteger = .ok n) (nothing : ∀ m, tag.equalsInteger m = .ok false) :
    ∃ journal, (Session.removeTag tag).outcome sketch = (.ok [],
      Sketch.withJournal { sketch with store := (sketch.store.retireTag n).2 } journal) := by
  obtain ⟨journal, removed⟩ :=
    Session.outcome_removeTag_of_equals ready.toNumbered nothing read (ready.tolerates tag)
  have table : (sketch.table.drop []).2 = sketch.table := by
    simp [GeometryTable.drop]
  refine ⟨journal, removed.trans ?_⟩
  simp [table]

end Sketch

/-- To remove a tag that cannot be read as an integer is refused, and nothing changes. If the tag
equals an integer, exactly the constraints and the geometries that have this integer for a tag are
removed and exactly the slots that have it are held fixed and retired, and where nothing has it only
the journal differs afterwards. A tag that is read but equals nothing, one with a fraction or a
text, removes nothing; then the slots that are held fixed and retired are those that have the
integer it is read as for a tag. -/
theorem removeTag_retires {sketch : Sketch} (reached : sketch.Reached .all) {tag : Value}
    (isTag : tag.IsTag) :
    (∃ fault, tag.toInteger = .error fault ∧ (∀ m, tag.equalsInteger m = .ok false) ∧
        (Session.removeTag tag).outcome sketch = (.error fault, sketch)) ∨
      (∃ n ids after, tag.toInteger = .ok n ∧
        (∀ m, tag.equalsInteger m = .ok (decide (m = n))) ∧
        (Session.removeTag tag).outcome sketch = (.ok ids, after) ∧ sketch.Removal n ids after ∧
        (sketch.Unused n → ids = [] ∧ ∃ journal, after = sketch.withJournal journal)) ∨
      ∃ n journal, tag.toInteger = .ok n ∧ (∀ m, tag.equalsInteger m = .ok false) ∧
        (Session.removeTag tag).outcome sketch =
          (.ok [],
            Sketch.withJournal { sketch with store := (sketch.store.retireTag n).2 } journal) ∧
        ∀ place : Nat, (sketch.store.retireTag n).2.slots[place]? =
          sketch.store.slots[place]?.map fun slot =>
            if slot.tag = n then { slot with fixed := true, retired := true } else slot := by
  have ready := reached.ready
  have tagged := reached.tagged
  cases read : tag.toInteger with
  | error fault =>
    have nothing (m : Int) : tag.equalsInteger m = .ok false := by
      rw [isTag.equalsInteger, Value.integerKey?_of_unread read]
      rfl
    refine .inl ⟨fault, rfl, nothing, ?_⟩
    rw [Session.outcome_removeTag_unread ready.toNumbered nothing read]
    simp
  | ok n =>
    right
    rcases isTag.equalsInteger_cases read with equals | nothing
    · obtain ⟨journal, removed⟩ :=
        Session.outcome_removeTag_whole ready.toNumbered equals read (ready.tolerates tag)
      refine .inl ⟨n, _, _, rfl, equals, removed,
        Sketch.removal_withoutTag ready.toNumbered tagged n journal,
        fun unused => ⟨?_, journal, ?_⟩⟩
      · rw [List.filter_eq_nil_iff.mpr fun c there => by simpa using unused.constraints c there]
        rfl
      · rw [Sketch.withoutTag_of_unused unused]
    · obtain ⟨journal, removed⟩ := Sketch.outcome_removeTag_fraction ready read nothing
      exact .inr ⟨n, journal, rfl, nothing, removed, tagged.slots_retireTag n⟩

/-- A request for a point whose slots are free and have the tag one. -/
def taggedPoint : List Request :=
  [.addPoint (.float 0.0) (.float 0.0) (.bool false) (.int 1)]

/-- To remove the tag one and a half from a sketch with a point of the tag one leaves the point
registered and holds its slots fixed. -/
theorem removeTag_retires_fraction :
    let sketch := (Sketch.start 0 .standard .silent).afterAll taggedPoint
    sketch.Reached .all ∧ (Value.float 1.5).IsTag ∧ sketch.store.freeIndices = [0, 1] ∧
      (Value.float 1.5).equalsInteger 1 = .ok false ∧
      ∃ after, (Session.removeTag (.float 1.5)).outcome sketch = (.ok [], after) ∧
        after.table = sketch.table ∧ after.store.freeIndices = [] := by
  intro sketch
  have reached : sketch.Reached .all :=
    ⟨0, .standard, .silent, taggedPoint, fun request _ => request.within_all, rfl⟩
  have isTag : (Value.float 1.5).IsTag := trivial
  have unequal : (Value.float 1.5).equalsInteger 1 = .ok false := by
    rw [isTag.equalsInteger]
    exact congrArg Except.ok (by decide +kernel)
  have read : (Value.float 1.5).toInteger = .ok 1 := by
    have same : (Value.float 1.5).toInteger.toOption = some 1 := by decide +kernel
    cases answered : (Value.float 1.5).toInteger with
    | error fault =>
      rw [answered] at same
      cases same
    | ok n =>
      rw [answered] at same
      exact congrArg Except.ok (Option.some.inj same)
  have held : (sketch.store.retireTag 1).2.freeIndices = [] := by decide +kernel
  refine ⟨reached, isTag, by decide +kernel, unequal, ?_⟩
  rcases removeTag_retires reached isTag with
    ⟨fault, unread, -⟩ | ⟨n, _, _, whole, equals, -⟩ | ⟨n, journal, whole, -, removed, -⟩
  · cases read.symm.trans unread
  · cases read.symm.trans whole
    cases unequal.symm.trans (equals 1)
  · cases read.symm.trans whole
    exact ⟨_, removed, rfl, held⟩

end Drafting
