import Drafting.Proofs.LastSolution
import Drafting.Relation.Template

/-!
# Applying half way

A solution is written before the constraints that only measure are measured, and a refusal takes
nothing back. So applying is all or nothing as long as every constraint can be measured at the
store with the solution in it, and stops half way where one cannot. A constraint that has rows at a
vector need not be measurable there: the search for its value asks it for a first row at further
vectors too, and a bare number, which counts as a row elsewhere, has none.
-/

namespace Drafting

section Looks

variable {α : Type} [Arithmetic α]

/-- The values at which a search takes readings, up to the first one that is refused. -/
def looks (reading : α → Except Fault α) : Nat → α → List α
  | 0, _ => []
  | steps + 1, value =>
    let step := 1e-7 * larger 1.0 (magnitude value)
    match reading value with
    | .error _ => [value]
    | .ok here =>
      if atMost (magnitude here) measureTolerance then [value]
      else
        match reading (value + step) with
        | .error _ => [value, value + step]
        | .ok there =>
          let slope := (there - here) / step
          if atMost (magnitude slope) measureTolerance then [value, value + step]
          else value :: (value + step) :: looks reading steps (value + step - step - here / slope)

/-- A search ends exactly if every reading that it takes has a value. -/
theorem answers_searchZero {reading : α → Except Fault α} {steps : Nat} {value : α} :
    Answers (searchZero reading steps value) ↔
      ∀ x ∈ looks reading steps value, Answers (reading x) := by
  induction steps generalizing value with
  | zero => exact ⟨fun _ => List.forall_mem_nil _, fun _ => answers_ok _⟩
  | succ steps ih =>
    have refuses {x : α} {fault : Fault} (refused : reading x = .error fault) :
        ¬ Answers (reading x) := by
      rintro ⟨answer, read⟩
      cases refused.symm.trans read
    have answers {x answer : α} (read : reading x = .ok answer) : Answers (reading x) :=
      ⟨answer, read⟩
    unfold searchZero looks
    cases first : reading value with
    | error fault =>
      refine iff_of_false ?_ fun all => refuses first (all value List.mem_cons_self)
      rintro ⟨_, ⟨⟩⟩
    | ok here =>
      rw [ok_bind]
      dsimp only
      by_cases done : atMost (magnitude here) measureTolerance
      · rw [if_pos done, if_pos done]
        exact iff_of_true (answers_ok _) (List.forall_mem_singleton.mpr (answers first))
      rw [if_neg done, if_neg done]
      cases second : reading (value + 1e-7 * larger 1.0 (magnitude value)) with
      | error fault =>
        refine iff_of_false ?_ fun all => refuses second (all _ (by simp))
        rintro ⟨_, ⟨⟩⟩
      | ok there =>
        rw [ok_bind]
        dsimp only
        split
        · refine iff_of_true (answers_ok _) ?_
          rw [List.forall_mem_cons, List.forall_mem_singleton]
          exact ⟨answers first, answers second⟩
        · rw [ih, List.forall_mem_cons, List.forall_mem_cons]
          exact ⟨fun later => ⟨answers first, answers second, later⟩, fun all => all.2.2⟩

end Looks

namespace Constraint

variable {c : Constraint} {vector : Array Float} {slot : Nat}

/-- A first row can be read exactly where the block gives a row of numbers that is not empty. -/
theorem answers_reading : Answers (c.reading vector) ↔
    ∃ first rest, c.block (slotsOf vector) = .ok (.rows (first :: rest)) := by
  unfold reading
  rw [answers_bind]
  constructor
  · rintro ⟨value, given, first, read⟩
    match value, read with
    | .rows (first :: rest), _ => exact ⟨first, rest, given⟩
  · rintro ⟨first, rest, given⟩
    exact ⟨_, given, answers_ok first⟩

/-- A slot can be measured exactly if it exists and every reading of the search has a value. -/
theorem answers_measure : Answers (c.measure slot vector) ↔
    ∃ value, vector[slot]? = some value ∧
      ∀ x ∈ looks (c.readingOf slot vector) measureSteps value,
        Answers (c.readingOf slot vector x) := by
  unfold measure
  cases there : vector[slot]? with
  | none =>
    refine iff_of_false ?_ fun ⟨_, impossible, _⟩ => nomatch impossible
    rintro ⟨search, ended⟩
    obtain ⟨_, -, impossible⟩ := bind_eq_ok.mp ended
    cases impossible
  | some value =>
    dsimp only
    rw [answers_searchZero]
    constructor
    · exact fun all => ⟨value, rfl, all⟩
    · rintro ⟨_, ⟨⟩, all⟩
      exact all

/-- A constraint that does not drive can be measured exactly if the search for its value, if it has
one, asks it for a first row only where its block gives one. -/
theorem measurable_iff_looks (idle : c.modifiers.driving.truth = .ok false) :
    c.Measurable vector ↔ ∀ slot, c.size = 1 → c.valueSlot = some slot →
      ∃ value, vector[slot]? = some value ∧
        ∀ x ∈ looks (c.readingOf slot vector) measureSteps value,
          ∃ first rest,
            c.block (slotsOf (vector.setIfInBounds slot x)) = .ok (.rows (first :: rest)) := by
  have looked : c.measuredSlot? = .ok (if c.size ≠ 1 then none else c.valueSlot) := by
    unfold measuredSlot?
    rw [idle, ok_bind, Bool.false_or]
    by_cases single : c.size = 1
    · rw [if_neg (not_not.mpr single), if_neg (by simp [single])]
      rfl
    · rw [if_pos single, if_pos (by simp [single])]
      rfl
  have each (slot : Nat) := @answers_measure c vector slot
  simp only [readingOf, answers_reading] at each
  unfold Measurable
  rw [looked]
  by_cases single : c.size = 1
  · rw [if_neg (not_not.mpr single)]
    constructor
    · rintro ⟨_, ⟨⟩, searches⟩ slot - mine
      exact (each slot).mp (searches slot mine)
    · exact fun all => ⟨_, rfl, fun slot mine => (each slot).mpr (all slot single mine)⟩
  · rw [if_pos single]
    exact iff_of_true ⟨none, rfl, fun _ mine => by cases mine⟩ fun _ wrong => absurd wrong single

/-- A constraint whose block gives a bare number has a row there and cannot be measured. -/
theorem unmeasurable_of_bare {x : Float} (idle : c.modifiers.driving.truth = .ok false)
    (single : c.size = 1) (mine : c.valueSlot = some slot)
    (bare : c.block (slotsOf vector) = .ok (.bare x)) :
    c.rows vector = .ok [x * c.modifiers.scale] ∧ ¬ c.Measurable vector := by
  constructor
  · unfold rows
    rw [bare, ok_bind]
    dsimp only [BlockValue.toRows]
    rw [if_neg (by simp [single])]
    rfl
  · rw [measurable_iff_looks idle]
    intro all
    obtain ⟨value, there, given⟩ := all slot single mine
    obtain ⟨inside, rfl⟩ := Array.getElem?_eq_some_iff.mp there
    -- The first look is at the vector itself.
    have first : vector[slot] ∈ looks (c.readingOf slot vector) measureSteps vector[slot] := by
      unfold measureSteps looks
      dsimp only
      split
      · exact List.mem_cons_self
      · split
        · exact List.mem_cons_self
        · split
          · exact List.mem_cons_self
          · split <;> exact List.mem_cons_self
    obtain ⟨_, _, row⟩ := given _ first
    rw [Array.setIfInBounds_def, dif_pos inside, Array.set_getElem_self, bare] at row
    cases row

end Constraint

namespace Session

variable {sketch : Sketch} {bestEffort : Value}

/-- Without a solution that can be written, applying changes nothing but the journal. -/
theorem outcome_apply_idle (idle : ∀ slots values,
      sketch.applicable? bestEffort = .ok (some (slots, values)) →
        Store.checkRow slots values.length values ≠ .ok ()) :
    ∃ answer journal, (apply bestEffort).outcome sketch = (answer, sketch.withJournal journal) := by
  obtain ⟨journal, ⟨fault, refused, -⟩ | ⟨nothing, -⟩ | ⟨slots, values, pending, written⟩⟩ :=
    outcome_apply_cases bestEffort sketch
  · exact ⟨_, journal, refused⟩
  · exact ⟨_, journal, nothing⟩
  · rcases written with ⟨fault, refused, -⟩ | ⟨-, fits⟩
    · exact ⟨_, journal, refused⟩
    · exact absurd fits (idle slots values pending)

/-- A solution that can be written is written. Then either every constraint can be measured, and the
answer is yes, or one cannot, and applying is refused with nothing else done. -/
theorem outcome_apply_writing {slots : List Nat} {values : List Float}
    (pending : sketch.applicable? bestEffort = .ok (some (slots, values)))
    (fits : Store.checkRow slots values.length values = .ok ()) :
    (∃ store journal,
      (apply bestEffort).outcome sketch = (.ok true, { sketch with store, journal }) ∧
        ∀ c ∈ sketch.constraints, c.Measurable (sketch.written slots values).store.snapshot) ∨
      ∃ fault journal, (apply bestEffort).outcome sketch =
          (.error fault, (sketch.written slots values).withJournal journal) ∧
        ∃ c ∈ sketch.constraints,
          ¬ c.Measurable (sketch.written slots values).store.snapshot := by
  obtain ⟨journal, ⟨_, -, impossible⟩ | ⟨-, impossible⟩ | ⟨slots', values', same, outcome⟩⟩ :=
    outcome_apply_cases bestEffort sketch
  · cases pending.symm.trans impossible
  · cases pending.symm.trans impossible
  cases pending.symm.trans same
  rcases outcome with ⟨_, -, impossible⟩ | ⟨applied, -⟩
  · cases fits.symm.trans impossible
  rw [applied, outcome_discard_bind]
  rcases outcome_commitMeasurements_cases (sketch.written slots values).store.snapshot
      ((sketch.written slots values).withJournal journal) with
    ⟨fault, later, refused, fails⟩ | ⟨measured, later, went, all, measures⟩
  · rw [refused]
    exact .inr ⟨fault, later, rfl, fails⟩
  · -- What was measured is a slot of the vector, so storing it is not refused.
    have inside : ∀ pair ∈ measured, pair.1 < (sketch.written slots values).store.size := by
      intro pair there
      obtain ⟨c, registered, slot⟩ := measures pair there
      obtain ⟨_, looked, searches⟩ := all c registered
      cases slot.symm.trans looked
      obtain ⟨value, present, -⟩ := Constraint.answers_measure.mp (searches pair.1 rfl)
      have short := (Array.getElem?_eq_some_iff.mp present).1
      rwa [Store.size_snapshot] at short
    obtain ⟨store, stored, -, -⟩ := @outcome_commitMeasurement_forM measured
      (((sketch.written slots values).withJournal journal).withJournal later) inside
    rw [went, outcome_bind, stored]
    exact .inl ⟨store, later, rfl, all⟩

end Session

/-- Applying is all or nothing as far as constraints can be measured, in every sketch. If no
solution can be written, nothing but the journal changes. If one can, it is written first: then
either every constraint can be measured with it, and the answer is yes, or one cannot, and the
refusal leaves exactly the solution written. So if every constraint can be measured with every
solution that is pending, a refusal changes nothing but the journal. A constraint that does not
drive can be measured at a vector exactly if its block gives a row wherever the search for its value
looks, which is never so at a vector where it gives a bare number, although that counts as a row. -/
theorem apply_wholly_or_halfway (sketch : Sketch) (bestEffort : Value) :
    ((∀ slots values, sketch.applicable? bestEffort = .ok (some (slots, values)) →
        Store.checkRow slots values.length values ≠ .ok ()) →
      ∃ answer journal, (Session.apply bestEffort).outcome sketch =
        (answer, { sketch with journal })) ∧
    (∀ slots values, sketch.applicable? bestEffort = .ok (some (slots, values)) →
      Store.checkRow slots values.length values = .ok () →
      let filled := sketch.written slots values
      ((∀ c ∈ sketch.constraints, c.Measurable filled.store.snapshot) →
        ∃ store journal, (Session.apply bestEffort).outcome sketch =
          (.ok true, { sketch with store, journal })) ∧
      ((∃ c ∈ sketch.constraints, ¬ c.Measurable filled.store.snapshot) →
        ∃ fault journal, (Session.apply bestEffort).outcome sketch =
          (.error fault, { sketch with store := filled.store, journal }))) ∧
    ((∀ slots values, sketch.applicable? bestEffort = .ok (some (slots, values)) →
        ∀ c ∈ sketch.constraints, c.Measurable (sketch.written slots values).store.snapshot) →
      ∀ fault after, (Session.apply bestEffort).outcome sketch = (.error fault, after) →
        ∃ journal, after = { sketch with journal }) ∧
    ∀ (c : Constraint) (vector : Array Float), c.modifiers.driving.truth = .ok false →
      (c.Measurable vector ↔ ∀ slot, c.size = 1 → c.valueSlot = some slot →
        ∃ value, vector[slot]? = some value ∧
          ∀ x ∈ looks (c.readingOf slot vector) measureSteps value,
            ∃ first rest,
              c.block (slotsOf (vector.setIfInBounds slot x)) = .ok (.rows (first :: rest))) ∧
      ∀ slot x, c.size = 1 → c.valueSlot = some slot → c.block (slotsOf vector) = .ok (.bare x) →
        c.rows vector = .ok [x * c.modifiers.scale] ∧ ¬ c.Measurable vector := by
  refine ⟨Session.outcome_apply_idle, fun slots values pending fits => ⟨fun all => ?_,
    fun ⟨c, registered, fails⟩ => ?_⟩, fun all fault after refused => ?_,
    fun c vector idle => ⟨Constraint.measurable_iff_looks idle,
      fun slot x => Constraint.unmeasurable_of_bare idle⟩⟩
  · rcases Session.outcome_apply_writing pending fits with
      ⟨store, journal, applied, -⟩ | ⟨_, _, -, c, registered, fails⟩
    · exact ⟨store, journal, applied⟩
    · exact absurd (all c registered) fails
  · rcases Session.outcome_apply_writing pending fits with
      ⟨_, _, -, all⟩ | ⟨fault, journal, refused, -⟩
    · exact absurd (all c registered) fails
    · exact ⟨fault, journal, refused⟩
  · by_cases idle : ∀ slots values, sketch.applicable? bestEffort = .ok (some (slots, values)) →
      Store.checkRow slots values.length values ≠ .ok ()
    · obtain ⟨answer, journal, went⟩ := Session.outcome_apply_idle idle
      cases refused.symm.trans went
      exact ⟨journal, rfl⟩
    · push Not at idle
      obtain ⟨slots, values, pending, fits⟩ := idle
      rcases Session.outcome_apply_writing pending fits with
        ⟨_, _, applied, -⟩ | ⟨_, _, -, c, registered, fails⟩
      · cases refused.symm.trans applied
      · exact absurd (all slots values pending c registered) fails

/-- A kind whose block gives the bare value of its only scalar, a free parameter, a literal of that
kind that only measures, and a solve that shifts the parameter. -/
def bareMeasuring : List Request :=
  [.registerKind (.text "bare") [.text "scalar"] (.int 1) BlockTemplate.bare.build,
    .addParameter (.text "a") (.float 0.0) (.bool false) (.int 0),
    .addConstraint (.text "bare") [.float 3.0] (.bool false) (.bool false) (.float 1.0) (.int 0),
    .solve shifter (.text "dogleg")]

/-- Applying is refused with the parameter already shifted. -/
theorem apply_wholly_or_halfway_bare :
    let sketch := (Sketch.start 0 .standard .silent).afterAll bareMeasuring
    sketch.store.snapshot = #[0.0, 3.0] ∧
      ∃ fault store journal, (Session.apply (.bool false)).outcome sketch =
          (.error fault, { sketch with store, journal }) ∧ store.snapshot = #[2.0, 3.0] := by
  intro sketch
  have before : sketch.store.snapshot = #[0.0, 3.0] := by decide +kernel
  have pending : sketch.applicable? (.bool false) = .ok (some ([0], [2.0])) := by
    have same : (sketch.applicable? (.bool false)).toOption = some (some ([0], [2.0])) := by
      decide +kernel
    cases found : sketch.applicable? (.bool false) with
    | error fault =>
      rw [found] at same
      cases same
    | ok solution =>
      rw [found] at same
      cases same
      rfl
  have fits : Store.checkRow [0] [(2.0 : Float)].length [2.0] = .ok () := by
    unfold Store.checkRow
    rw [if_neg (by decide), if_pos (by decide +kernel)]
  have filled : (sketch.written [0] [2.0]).store.snapshot = #[2.0, 3.0] := by decide +kernel
  have fails : ∃ c ∈ sketch.constraints, ¬ c.Measurable #[2.0, 3.0] := by decide +kernel
  obtain ⟨-, writes, -⟩ := apply_wholly_or_halfway sketch (.bool false)
  obtain ⟨fault, journal, refused⟩ := (writes [0] [2.0] pending fits).2 (filled ▸ fails)
  exact ⟨before, fault, _, journal, refused, filled⟩

end Drafting
