import Drafting.Proofs.Refusal
import Drafting.Proofs.Session
import Drafting.Proofs.Slots
import Drafting.Sketch.Constraining

/-!
# Measurements

Measuring looks at every constraint in order and writes lines to the journal, no more. It is refused
at the first constraint that cannot be measured. Storing what was measured then writes to the slots
that constraints measure, and to no others.
-/

namespace Drafting

/-- A search ends if every reading has a value. -/
theorem searchZero_ok {α : Type} [Arithmetic α] {reading : α → Except Fault α}
    (total : ∀ value, ∃ x, reading value = .ok x) (steps : Nat) (value : α) :
    ∃ search, searchZero reading steps value = .ok search := by
  induction steps generalizing value with
  | zero => exact ⟨_, rfl⟩
  | succ steps ih =>
    unfold searchZero
    obtain ⟨here, first⟩ := total value
    rw [first, ok_bind]
    by_cases done : atMost (magnitude here) measureTolerance
    · rw [if_pos done]
      exact ⟨_, rfl⟩
    · rw [if_neg done]
      dsimp only
      obtain ⟨there, second⟩ := total (value + 1e-7 * larger 1.0 (magnitude value))
      rw [second, ok_bind]
      split
      · exact ⟨_, rfl⟩
      · exact ih _

namespace Constraint

variable {c : Constraint}

/-- A constraint that measures a slot does not drive and has one row, and the slot is its value. -/
theorem measuredSlot?_eq_some {slot : Nat} (measures : c.measuredSlot? = .ok (some slot)) :
    c.modifiers.driving.truth = .ok false ∧ c.size = 1 ∧ c.valueSlot = some slot := by
  unfold measuredSlot? at measures
  obtain ⟨drives, counted, rest⟩ := bind_eq_ok.mp measures
  by_cases skipped : drives || c.size ≠ 1
  · rw [if_pos skipped] at rest
    cases rest
  · rw [if_neg skipped] at rest
    have slotted := pure_eq_ok.mp rest
    simp only [Bool.or_eq_true, decide_eq_true_eq, not_or, Bool.not_eq_true, not_not] at skipped
    rw [skipped.1] at counted
    exact ⟨counted, skipped.2, slotted⟩

/-- A constraint can be measured at a parameter vector: whether it drives is known, and if it
measures a slot, the search for the value of that slot ends. -/
def Measurable (c : Constraint) (vector : Array Float) : Prop :=
  ∃ slot, c.measuredSlot? = .ok slot ∧
    ∀ place, slot = some place → ∃ search, c.measure place vector = .ok search

/-- Whether a constraint can be measured is found by measuring it. -/
instance (c : Constraint) (vector : Array Float) : Decidable (c.Measurable vector) :=
  match looked : c.measuredSlot? with
  | .error fault => .isFalse fun ⟨slot, found, _⟩ => by
      rw [looked] at found
      cases found
  | .ok none => .isTrue ⟨none, looked, nofun⟩
  | .ok (some slot) =>
    match searched : c.measure slot vector with
    | .error fault => .isFalse fun ⟨_, found, searches⟩ => by
        rw [looked] at found
        cases found
        obtain ⟨search, ended⟩ := searches slot rfl
        rw [searched] at ended
        cases ended
    | .ok search => .isTrue ⟨some slot, looked, fun _ same => by
        cases same
        exact ⟨search, searched⟩⟩

/-- A constraint can be measured if it is known whether it drives, its slot exists, and every
reading has a value. -/
theorem measurable_of_reading {vector : Array Float} {drives : Bool}
    (known : c.modifiers.driving.truth = .ok drives)
    (inside : ∀ slot, c.valueSlot = some slot → slot < vector.size)
    (total : ∀ slot, c.size = 1 → c.valueSlot = some slot →
      ∀ value, ∃ x, c.readingOf slot vector value = .ok x) : c.Measurable vector := by
  have looked : c.measuredSlot? = .ok (if drives || c.size ≠ 1 then none else c.valueSlot) := by
    unfold measuredSlot?
    rw [known, ok_bind]
    split <;> rfl
  refine ⟨_, looked, fun place measured => ?_⟩
  rw [measured] at looked
  obtain ⟨-, single, slot⟩ := measuredSlot?_eq_some looked
  unfold measure
  rw [Array.getElem?_eq_getElem (inside place slot)]
  exact searchZero_ok (total place single slot) measureSteps _

end Constraint

namespace Session

variable {vector : Array Float} {measured : List (Nat × Float)} {sketch : Sketch}

/-- The slots of some measurements with a further one. -/
theorem mem_withMeasurement {slot : Nat} {value : Float} {pair : Nat × Float}
    (there : pair ∈ withMeasurement measured slot value) :
    pair.1 = slot ∨ ∃ known ∈ measured, known.1 = pair.1 := by
  unfold withMeasurement at there
  split at there
  · obtain ⟨known, among, rfl⟩ := List.mem_map.mp there
    exact .inr ⟨known, among, rfl⟩
  · rcases List.mem_append.mp there with known | new
    · exact .inr ⟨pair, known, rfl⟩
    · rw [List.mem_singleton.mp new]
      exact .inl rfl

/-- Measuring a constraint answers what its search found and writes to the journal at most. -/
theorem outcome_measureOne (vector : Array Float) (c : Constraint) (slot : Nat) (sketch : Sketch) :
    ∃ journal, (measureOne vector c slot).outcome sketch =
      ((c.measure slot vector).map (·.value), sketch.withJournal journal) := by
  unfold measureOne
  rw [outcome_liftM_bind]
  cases c.measure slot vector with
  | error fault => exact ⟨sketch.journal, rfl⟩
  | ok search =>
    dsimp only
    by_cases stuck : search.stuck
    · rw [if_pos stuck]
      exact ⟨_, rfl⟩
    · rw [if_neg stuck]
      exact ⟨sketch.journal, rfl⟩

/-- One more constraint is measured, or cannot be. -/
theorem outcome_measureNext_cases (vector : Array Float) (measured : List (Nat × Float))
    (c : Constraint) (sketch : Sketch) :
    (∃ fault journal, (measureNext vector measured c).outcome sketch =
        (.error fault, sketch.withJournal journal) ∧ ¬ c.Measurable vector) ∨
      ∃ more journal, (measureNext vector measured c).outcome sketch =
          (.ok more, sketch.withJournal journal) ∧ c.Measurable vector ∧
        ∀ pair ∈ more, c.measuredSlot? = .ok (some pair.1) ∨
          ∃ known ∈ measured, known.1 = pair.1 := by
  unfold measureNext
  rw [outcome_liftM_bind]
  cases looked : c.measuredSlot? with
  | error fault =>
    refine .inl ⟨fault, sketch.journal, rfl, ?_⟩
    rintro ⟨slot, found, -⟩
    rw [looked] at found
    cases found
  | ok slot =>
    cases slot with
    | none =>
      refine .inr ⟨measured, sketch.journal, rfl, ⟨none, looked, fun _ impossible => ?_⟩,
        fun pair known => .inr ⟨pair, known, rfl⟩⟩
      cases impossible
    | some slot =>
      obtain ⟨journal, went⟩ := outcome_measureOne vector c slot sketch
      dsimp only
      rw [outcome_bind, went]
      cases searched : c.measure slot vector with
      | error fault =>
        refine .inl ⟨fault, journal, rfl, ?_⟩
        rintro ⟨_, found, searches⟩
        rw [looked] at found
        cases found
        obtain ⟨search, ended⟩ := searches slot rfl
        rw [searched] at ended
        cases ended
      | ok search =>
        refine .inr ⟨_, journal, rfl, ⟨some slot, looked, ?_⟩, fun pair there => ?_⟩
        · rintro _ ⟨⟩
          exact ⟨search, searched⟩
        · rcases mem_withMeasurement there with rfl | known
          · exact .inl rfl
          · exact .inr known

/-- Some constraints are measured one after the other, or one of them cannot be. -/
theorem outcome_foldlM_measureNext_cases (vector : Array Float) (constraints : List Constraint)
    (measured : List (Nat × Float)) (sketch : Sketch) :
    (∃ fault journal, (constraints.foldlM (measureNext vector) measured).outcome sketch =
        (.error fault, sketch.withJournal journal) ∧ ∃ c ∈ constraints, ¬ c.Measurable vector) ∨
      ∃ more journal, (constraints.foldlM (measureNext vector) measured).outcome sketch =
          (.ok more, sketch.withJournal journal) ∧ (∀ c ∈ constraints, c.Measurable vector) ∧
        ∀ pair ∈ more, (∃ c ∈ constraints, c.measuredSlot? = .ok (some pair.1)) ∨
          ∃ known ∈ measured, known.1 = pair.1 := by
  induction constraints generalizing measured sketch with
  | nil =>
    exact .inr ⟨measured, sketch.journal, rfl, List.forall_mem_nil _,
      fun pair known => .inr ⟨pair, known, rfl⟩⟩
  | cons c rest ih =>
    rw [List.foldlM_cons, outcome_bind]
    rcases outcome_measureNext_cases vector measured c sketch with
      ⟨fault, journal, refused, fails⟩ | ⟨middle, journal, went, first, slots⟩
    · rw [refused]
      exact .inl ⟨fault, journal, rfl, c, List.mem_cons_self, fails⟩
    rw [went]
    rcases ih middle (sketch.withJournal journal) with
      ⟨fault, later, refused, other, among, fails⟩ | ⟨more, later, ended, others, laterSlots⟩
    · exact .inl ⟨fault, later, refused, other, List.mem_cons_of_mem _ among, fails⟩
    · refine .inr ⟨more, later, ended, List.forall_mem_cons.mpr ⟨first, others⟩,
        fun pair there => ?_⟩
      rcases laterSlots pair there with ⟨other, among, measures⟩ | ⟨known, before, same⟩
      · exact .inl ⟨other, List.mem_cons_of_mem _ among, measures⟩
      · rcases slots known before with measures | earlier
        · exact .inl ⟨c, List.mem_cons_self, same ▸ measures⟩
        · exact .inr (same ▸ earlier)

/-- All constraints are measured, or one of them cannot be. -/
theorem outcome_measure_cases (vector : Array Float) (sketch : Sketch) :
    (∃ fault journal, (measure vector).outcome sketch =
        (.error fault, sketch.withJournal journal) ∧
          ∃ c ∈ sketch.constraints, ¬ c.Measurable vector) ∨
      ∃ measured journal, (measure vector).outcome sketch =
          (.ok measured, sketch.withJournal journal) ∧
        (∀ c ∈ sketch.constraints, c.Measurable vector) ∧
        ∀ pair ∈ measured, ∃ c ∈ sketch.constraints, c.measuredSlot? = .ok (some pair.1) := by
  unfold measure
  rw [outcome_get_bind]
  rcases outcome_foldlM_measureNext_cases vector sketch.constraints [] sketch with
    refused | ⟨measured, journal, went, all, slots⟩
  · exact .inl refused
  · refine .inr ⟨measured, journal, went, all, fun pair there => ?_⟩
    rcases slots pair there with measures | ⟨known, impossible, -⟩
    · exact measures
    · cases impossible

/-- A measured value is stored if it is finite and its slot exists. -/
theorem outcome_commitMeasurement_cases (slot : Nat) (value : Float) (sketch : Sketch) :
    (∃ fault, (commitMeasurement slot value).outcome sketch = (.error fault, sketch) ∧
        ¬ slot < sketch.store.size) ∨
      (commitMeasurement slot value).outcome sketch = (.ok (), sketch) ∨
      (commitMeasurement slot value).outcome sketch =
        (.ok (), { sketch with store := (sketch.store.write slot value).mark slot true }) := by
  unfold commitMeasurement
  by_cases finite : value.isFinite
  · rw [if_pos finite]
    unfold setSlot
    rw [outcome_get_bind]
    rw [Store.set_finite _ slot finite]
    by_cases inside : slot < sketch.store.size
    · rw [if_pos inside]
      exact .inr (.inr rfl)
    · rw [if_neg inside]
      exact .inl ⟨_, rfl, inside⟩
  · rw [if_neg finite]
    exact .inr (.inl rfl)

end Session

end Drafting
