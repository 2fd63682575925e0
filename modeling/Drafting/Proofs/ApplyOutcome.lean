import Drafting.Proofs.Privacy

/-!
# What applying does, exactly

Every constraint measures into the slot of a literal of its own, so no two constraints measure into
the same slot. That makes measuring a walk over the constraints, each by itself, and storing what
was measured a write of one value for each slot, in whatever order. Applying is thereby one of a
few pure functions of the sketch: nothing to apply, the solution written and then measured, or the
solution written and a constraint that cannot be measured.
-/

namespace Drafting

/-- What a constraint measures at a parameter vector, if it measures at all: a value and its
slot. -/
def Constraint.measurement (vector : Array Float) (c : Constraint) :
    Except Fault (Option (Nat × Float)) := do
  match ← c.measuredSlot? with
  | none => return none
  | some slot => return some (slot, (← c.measure slot vector).value)

/-- What some constraints measure, in order. -/
def measurements (vector : Array Float) : List Constraint → Except Fault (List (Nat × Float))
  | [] => .ok []
  | c :: rest => do
    let found ← c.measurement vector
    let others ← measurements vector rest
    .ok (found.toList ++ others)

/-- A value stored in a slot and fixed there, unless it is not finite. -/
def Store.commitValue (store : Store) (slot : Nat) (value : Float) : Store :=
  if value.isFinite then (store.write slot value).mark slot true else store

/-- Values stored in slots one after the other. -/
def Store.commit (store : Store) (measured : List (Nat × Float)) : Store :=
  measured.foldl (fun store pair => store.commitValue pair.1 pair.2) store

namespace Constraint

variable {c : Constraint} {vector : Array Float}

/-- A constraint can be measured if its measurement answers. -/
theorem measurable_iff : c.Measurable vector ↔ ∃ found, c.measurement vector = .ok found := by
  unfold Measurable measurement
  cases c.measuredSlot? with
  | error fault => simp [bind, Except.bind]
  | ok slot =>
    rw [ok_bind]
    cases slot with
    | none => simp [pure_eq_ok]
    | some slot =>
      simp only [bind_eq_ok, pure_eq_ok, Except.ok.injEq]
      constructor
      · rintro ⟨_, rfl, searches⟩
        obtain ⟨search, measured⟩ := searches slot rfl
        exact ⟨_, search, measured, rfl⟩
      · rintro ⟨_, search, measured, -⟩
        exact ⟨_, rfl, fun place same => ⟨search, Option.some.inj same ▸ measured⟩⟩

/-- A constraint that measures a value measures it into its slot. -/
theorem measurement_eq_some {slot : Nat} {value : Float} :
    c.measurement vector = .ok (some (slot, value)) ↔
      c.measuredSlot? = .ok (some slot) ∧
        ∃ search, c.measure slot vector = .ok search ∧ search.value = value := by
  unfold measurement
  cases c.measuredSlot? with
  | error fault => simp [bind, Except.bind]
  | ok found =>
    rw [ok_bind]
    cases found with
    | none => simp [pure_eq_ok]
    | some place =>
      simp only [bind_eq_ok, pure_eq_ok, Option.some.injEq, Prod.mk.injEq, Except.ok.injEq]
      constructor
      · rintro ⟨search, measured, rfl, rfl⟩
        exact ⟨rfl, search, measured, rfl⟩
      · rintro ⟨rfl, search, measured, rfl⟩
        exact ⟨search, measured, rfl, rfl⟩

end Constraint

section Measurements

variable {vector : Array Float} {constraints : List Constraint} {measured : List (Nat × Float)}

/-- What is measured of some constraints is the measurement of one of them. -/
theorem mem_measurements (found : measurements vector constraints = .ok measured)
    {pair : Nat × Float} :
    pair ∈ measured ↔ ∃ c ∈ constraints, c.measurement vector = .ok (some pair) := by
  induction constraints generalizing measured with
  | nil =>
    cases found
    simp
  | cons c rest ih =>
    obtain ⟨first, measures, found⟩ := bind_eq_ok.mp found
    obtain ⟨others, later, found⟩ := bind_eq_ok.mp found
    cases found
    rw [List.mem_append, Option.mem_toList, ih later, List.exists_mem_cons_iff, measures,
      Except.ok.injEq]

/-- Some constraints are measured if each of them can be. -/
theorem measurements_ok_iff :
    (∃ measured, measurements vector constraints = .ok measured) ↔
      ∀ c ∈ constraints, c.Measurable vector := by
  induction constraints with
  | nil => exact ⟨fun _ => List.forall_mem_nil _, fun _ => ⟨[], rfl⟩⟩
  | cons c rest ih =>
    rw [List.forall_mem_cons, ← ih, Constraint.measurable_iff]
    constructor
    · rintro ⟨measured, found⟩
      obtain ⟨first, measures, found⟩ := bind_eq_ok.mp found
      obtain ⟨others, later, found⟩ := bind_eq_ok.mp found
      exact ⟨⟨first, measures⟩, others, later⟩
    · rintro ⟨⟨first, measures⟩, others, later⟩
      exact ⟨_, bind_eq_ok.mpr ⟨first, measures, bind_eq_ok.mpr ⟨others, later, rfl⟩⟩⟩

/-- Constraints that are refused to be measured have one among them that cannot be. -/
theorem exists_unmeasurable {fault : Fault}
    (refused : measurements vector constraints = .error fault) :
    ∃ c ∈ constraints, ¬ c.Measurable vector := by
  by_contra none
  obtain ⟨measured, found⟩ := measurements_ok_iff.mpr fun c there =>
    by_contra fun unmeasured => none ⟨c, there, unmeasured⟩
  rw [refused] at found
  cases found

/-- A constraint is measured before those that come after it. -/
theorem measurements_cons (vector : Array Float) (c : Constraint) (rest : List Constraint) :
    measurements vector (c :: rest) =
      c.measurement vector >>= fun found => measurements vector rest >>= fun others =>
        .ok (found.toList ++ others) := rfl

/-- Constraints that come later are measured after those that come before. -/
theorem measurements_append (vector : Array Float) (before later : List Constraint) :
    measurements vector (before ++ later) =
      measurements vector before >>= fun first =>
        (measurements vector later).map fun second => first ++ second := by
  induction before with
  | nil =>
    show measurements vector later = (measurements vector later).map fun second => [] ++ second
    cases measurements vector later <;> rfl
  | cons c rest ih =>
    rw [List.cons_append, measurements_cons, measurements_cons, ih]
    cases c.measurement vector with
    | error fault => rfl
    | ok found =>
      rw [ok_bind, ok_bind]
      cases measurements vector rest with
      | error fault => rfl
      | ok first =>
        rw [ok_bind, ok_bind, ok_bind]
        cases measurements vector later with
        | error fault => rfl
        | ok second => exact congrArg Except.ok (List.append_assoc ..).symm

/-- No two constraints measure into the same slot. -/
def MeasuredApart (constraints : List Constraint) : Prop :=
  constraints.Pairwise fun c other => ∀ slot, c.valueSlot = some slot → other.valueSlot ≠ some slot

/-- What is measured lies in the slots that are the values of constraints. -/
theorem valueSlot_of_measurement {c : Constraint} {pair : Nat × Float}
    (measures : c.measurement vector = .ok (some pair)) : c.valueSlot = some pair.1 :=
  (Constraint.measuredSlot?_eq_some (Constraint.measurement_eq_some.mp measures).1).2.2

/-- No slot is measured twice. -/
theorem nodup_measurements (apart : MeasuredApart constraints)
    (found : measurements vector constraints = .ok measured) : (measured.map (·.1)).Nodup := by
  induction constraints generalizing measured with
  | nil =>
    cases found
    exact List.nodup_nil
  | cons c rest ih =>
    obtain ⟨others, others_apart⟩ := List.pairwise_cons.mp apart
    rw [measurements_cons] at found
    obtain ⟨first, measures, found⟩ := bind_eq_ok.mp found
    obtain ⟨more, later, found⟩ := bind_eq_ok.mp found
    cases found
    cases first with
    | none => exact ih others_apart later
    | some pair =>
      refine List.nodup_cons.mpr ⟨fun again => ?_, ih others_apart later⟩
      obtain ⟨same, there, slot⟩ := List.mem_map.mp again
      obtain ⟨other, among, also⟩ := (mem_measurements later).mp there
      have also_there := valueSlot_of_measurement also
      rw [slot] at also_there
      exact others other among pair.1 (valueSlot_of_measurement measures) also_there

end Measurements

namespace Sketch

variable {sketch after : Sketch} {scope : Scope}

/-- What a constraint measures is the slot of a literal of its own. -/
def MeasuresOwn (sketch : Sketch) : Prop :=
  ∀ c ∈ sketch.constraints, ∀ slot, c.valueSlot = some slot → slot ∈ c.owned

/-- Every change keeps what constraints measure their own. -/
theorem MeasuresOwn.change (own : sketch.MeasuresOwn) (change : Change scope sketch after) :
    after.MeasuresOwn := by
  cases change with
  | constrained modifiers tag known offered named built =>
    intro c registered slot measures
    rcases List.mem_append.mp registered with before | last
    · exact own c before slot measures
    · rw [List.mem_singleton.mp last] at measures ⊢
      exact measuredSlot_mem measures
  | removed kept => exact fun c registered => own c (List.mem_of_mem_filter registered)
  | cleared => exact List.forall_mem_nil _
  | _ => exact own

/-- Constraints that own what they measure measure apart if what they own is apart. -/
theorem MeasuresOwn.apart (own : sketch.MeasuresOwn) (sound : sketch.Sound) :
    MeasuredApart sketch.constraints := by
  refine sound.slotsApart.constraints.imp_of_mem fun {c other} there also apart slot mine others =>
    ?_
  exact apart (own c there slot mine) (own other also slot others)

/-- What constraints measure are slots that exist. -/
theorem MeasuresOwn.inside (own : sketch.MeasuresOwn) (sound : sketch.Sound) {vector : Array Float}
    {measured : List (Nat × Float)}
    (found : measurements vector sketch.constraints = .ok measured) :
    ∀ pair ∈ measured, pair.1 < sketch.store.size := by
  intro pair there
  obtain ⟨c, registered, measures⟩ := (mem_measurements found).mp there
  exact sound.slotsApart.literals c registered _
    (own c registered _ (valueSlot_of_measurement measures))

end Sketch

namespace Store

variable {store : Store}

/-- Storing a value keeps the count of slots. -/
@[simp] theorem size_commitValue (store : Store) (slot : Nat) (value : Float) :
    (store.commitValue slot value).size = store.size := by
  unfold commitValue
  split
  · rw [size_mark, size_write]
  · rfl

/-- Storing a value changes nothing but slots. -/
theorem binding_commitValue (store : Store) (slot : Nat) (value : Float) :
    (store.commitValue slot value).binding = store.binding := by
  unfold commitValue
  split <;> rfl

/-- Storing measurements changes nothing but slots. -/
theorem binding_commit (store : Store) (measured : List (Nat × Float)) :
    (store.commit measured).binding = store.binding := by
  induction measured generalizing store with
  | nil => rfl
  | cons pair rest ih => exact (ih _).trans (binding_commitValue ..)

/-- A finite value is stored and fixed in its slot, and nothing else changes. -/
theorem slots_commitValue (store : Store) (slot place : Nat) (value : Float) :
    (store.commitValue slot value).slots[place]? =
      if slot = place ∧ value.isFinite then
        store.slots[place]?.map fun known => { known with value, fixed := true }
      else store.slots[place]? := by
  unfold commitValue
  by_cases finite : value.isFinite
  · rw [if_pos finite]
    rw [slots_mark, slots_write]
    by_cases same : slot = place
    · rw [if_pos same, if_pos same, if_pos ⟨same, finite⟩, Option.map_map]
      rfl
    · rw [if_neg same, if_neg same, if_neg fun both => same both.1]
  · rw [if_neg finite, if_neg fun both => finite both.2]

/-- A slot for which nothing finite was measured stays as it is. -/
theorem slots_commit_of_idle {measured : List (Nat × Float)} {place : Nat}
    (idle : ∀ pair ∈ measured, pair.1 = place → ¬ pair.2.isFinite) :
    (store.commit measured).slots[place]? = store.slots[place]? := by
  induction measured generalizing store with
  | nil => rfl
  | cons pair rest ih =>
    refine (ih fun other later => idle other (List.mem_cons_of_mem _ later)).trans ?_
    rw [slots_commitValue, if_neg fun both => idle pair List.mem_cons_self both.1 both.2]

/-- A finite measurement is stored and fixed in its slot. -/
theorem slots_commit_of_mem {measured : List (Nat × Float)} {place : Nat} {value : Float}
    (distinct : (measured.map (·.1)).Nodup) (there : (place, value) ∈ measured)
    (finite : value.isFinite) :
    (store.commit measured).slots[place]? =
      store.slots[place]?.map fun slot => { slot with value, fixed := true } := by
  induction measured generalizing store with
  | nil => cases there
  | cons pair rest ih =>
    obtain ⟨new, others⟩ := List.nodup_cons.mp distinct
    rcases List.mem_cons.mp there with rfl | later
    · have idle : ∀ other ∈ rest, other.1 = place → ¬ other.2.isFinite :=
        fun other among same => absurd (List.mem_map.mpr ⟨other, among, same⟩) new
      refine (slots_commit_of_idle idle).trans ?_
      rw [slots_commitValue, if_pos ⟨rfl, finite⟩]
    · have apart : pair.1 ≠ place := fun same =>
        new (List.mem_map.mpr ⟨(place, value), later, same.symm⟩)
      refine (ih others later).trans ?_
      rw [slots_commitValue, if_neg fun both => apart both.1]

end Store

namespace Session

variable {vector : Array Float} {constraints : List Constraint} {sketch : Sketch}

/-- The measurement of a slot that was not measured before comes last. -/
theorem withMeasurement_new {measured : List (Nat × Float)} {slot : Nat}
    (new : slot ∉ measured.map (·.1)) (value : Float) :
    withMeasurement measured slot value = measured ++ [(slot, value)] := by
  have absent : measured.lookup slot = none := by
    rw [List.lookup_eq_none_iff]
    intro pair there
    rw [bne_iff_ne]
    rintro rfl
    exact new (List.mem_map_of_mem there)
  unfold withMeasurement
  rw [absent]
  rfl

/-- One more constraint is measured into a slot that was not measured before. -/
theorem outcome_measureNext {c : Constraint} {measured : List (Nat × Float)}
    (new : ∀ slot, c.valueSlot = some slot → slot ∉ measured.map (·.1)) (sketch : Sketch) :
    ∃ journal, (measureNext vector measured c).outcome sketch =
      ((c.measurement vector).map fun found => measured ++ found.toList,
        sketch.withJournal journal) := by
  unfold measureNext Constraint.measurement
  rw [outcome_liftM_bind]
  cases looked : c.measuredSlot? with
  | error fault => exact ⟨sketch.journal, rfl⟩
  | ok slot =>
    rw [ok_bind]
    cases slot with
    | none =>
      refine ⟨sketch.journal, ?_⟩
      show (Except.ok measured, sketch) = (Except.ok (measured ++ []), sketch)
      rw [List.append_nil]
    | some slot =>
      obtain ⟨journal, went⟩ := outcome_measureOne vector c slot sketch
      refine ⟨journal, ?_⟩
      dsimp only
      rw [outcome_bind, went]
      cases c.measure slot vector with
      | error fault => rfl
      | ok search =>
        have last := withMeasurement_new
          (new slot (Constraint.measuredSlot?_eq_some looked).2.2) search.value
        show (Except.ok (withMeasurement measured slot search.value), _) = _
        rw [last]
        rfl

/-- Constraints that measure apart are measured one after the other. -/
theorem outcome_foldlM_measureNext {measured : List (Nat × Float)}
    (apart : MeasuredApart constraints)
    (new : ∀ c ∈ constraints, ∀ slot, c.valueSlot = some slot → slot ∉ measured.map (·.1))
    (sketch : Sketch) :
    ∃ journal, (constraints.foldlM (measureNext vector) measured).outcome sketch =
      ((measurements vector constraints).map fun found => measured ++ found,
        sketch.withJournal journal) := by
  induction constraints generalizing measured sketch with
  | nil =>
    refine ⟨sketch.journal, ?_⟩
    show (Except.ok measured, sketch) = (Except.ok (measured ++ []), sketch)
    rw [List.append_nil]
  | cons c rest ih =>
    obtain ⟨others, rest_apart⟩ := List.pairwise_cons.mp apart
    obtain ⟨middle, first⟩ := @outcome_measureNext vector c measured
      (new c List.mem_cons_self) sketch
    rw [List.foldlM_cons, outcome_bind, first, measurements_cons]
    cases measures : c.measurement vector with
    | error fault => exact ⟨middle, rfl⟩
    | ok found =>
      have later_new : ∀ other ∈ rest, ∀ slot, other.valueSlot = some slot →
          slot ∉ (measured ++ found.toList).map (·.1) := by
        intro other there slot value again
        rw [List.map_append, List.mem_append] at again
        rcases again with before | here
        · exact new other (List.mem_cons_of_mem _ there) slot value before
        · obtain ⟨pair, mine, rfl⟩ := List.mem_map.mp here
          rw [Option.mem_toList] at mine
          cases mine
          exact others other there _ (valueSlot_of_measurement measures) value
      obtain ⟨journal, went⟩ := ih rest_apart later_new (sketch.withJournal middle)
      refine ⟨journal, went.trans ?_⟩
      rw [ok_bind]
      cases measurements vector rest with
      | error fault => rfl
      | ok more => exact congrArg (fun all => (Except.ok all, _)) (List.append_assoc ..)

/-- Storing a measured value in a slot that exists is never refused. -/
theorem outcome_commitMeasurement {slot : Nat} (inside : slot < sketch.store.size) (value : Float) :
    (commitMeasurement slot value).outcome sketch =
      (.ok (), { sketch with store := sketch.store.commitValue slot value }) := by
  unfold commitMeasurement Store.commitValue
  by_cases finite : value.isFinite
  · rw [if_pos finite, if_pos finite]
    unfold setSlot
    rw [outcome_get_bind, Store.set_finite _ slot finite, if_pos inside]
    rfl
  · rw [if_neg finite, if_neg finite]
    rfl

/-- Storing measurements in slots that exist is never refused. -/
theorem outcome_forM_commitMeasurement {measured : List (Nat × Float)}
    (inside : ∀ pair ∈ measured, pair.1 < sketch.store.size) :
    (measured.forM fun pair => commitMeasurement pair.1 pair.2).outcome sketch =
      (.ok (), { sketch with store := sketch.store.commit measured }) := by
  induction measured generalizing sketch with
  | nil => rfl
  | cons pair rest ih =>
    have steps : ((pair :: rest).forM fun pair => commitMeasurement pair.1 pair.2).outcome sketch =
      (commitMeasurement pair.1 pair.2 >>= fun _ =>
        rest.forM fun pair => commitMeasurement pair.1 pair.2).outcome sketch := rfl
    rw [steps, outcome_bind, outcome_commitMeasurement (inside pair List.mem_cons_self)]
    refine ih fun other later => ?_
    rw [Store.size_commitValue]
    exact inside other (List.mem_cons_of_mem _ later)

/-- Measuring and storing stores the measurements of all constraints, or changes nothing but the
journal if one cannot be measured. -/
theorem outcome_commitMeasurements (own : sketch.MeasuresOwn) (sound : sketch.Sound)
    (vector : Array Float) :
    ∃ journal, (commitMeasurements vector).outcome sketch =
      match measurements vector sketch.constraints with
      | .error fault => (.error fault, sketch.withJournal journal)
      | .ok measured =>
        (.ok measured,
          { sketch with store := sketch.store.commit measured, journal }) := by
  obtain ⟨journal, went⟩ := @outcome_foldlM_measureNext vector sketch.constraints []
    (own.apart sound) (fun _ _ _ _ again => by cases again) sketch
  have walked : (measure vector).outcome sketch =
    ((measurements vector sketch.constraints).map fun found => [] ++ found,
      sketch.withJournal journal) := went
  refine ⟨journal, ?_⟩
  unfold commitMeasurements
  rw [outcome_bind, walked]
  cases found : measurements vector sketch.constraints with
  | error fault => rfl
  | ok measured =>
    have stored := @outcome_forM_commitMeasurement (sketch.withJournal journal) measured
      (own.inside sound found)
    show (do
      measured.forM fun pair => commitMeasurement pair.1 pair.2
      return measured : Session _).outcome (sketch.withJournal journal) = _
    rw [outcome_bind, stored]
    rfl

/-- Applying does nothing, or writes the solution that is pending and then stores the measurements
of all constraints, or writes the solution and is refused for a constraint that cannot be
measured. -/
theorem outcome_apply (own : sketch.MeasuresOwn) (sound : sketch.Sound) (bestEffort : Value) :
    ∃ journal, (apply bestEffort).outcome sketch =
      match sketch.applicable? bestEffort with
      | .error fault => (.error fault, sketch.withJournal journal)
      | .ok none => (.ok false, sketch.withJournal journal)
      | .ok (some (slots, values)) =>
        match Store.checkRow slots values.length values with
        | .error fault => (.error fault, sketch.withJournal journal)
        | .ok _ =>
          match measurements (sketch.written slots values).store.snapshot sketch.constraints with
          | .error fault => (.error fault, (sketch.written slots values).withJournal journal)
          | .ok measured =>
            (.ok true,
              { sketch.written slots values with
                store := (sketch.written slots values).store.commit measured, journal }) := by
  obtain ⟨journal, ⟨fault, refused, cause⟩ | ⟨nothing, cause⟩ |
    ⟨slots, values, pending, ⟨fault, refused, cause⟩ | ⟨applied, cause⟩⟩⟩ :=
      outcome_apply_cases bestEffort sketch
  · rw [cause]
    exact ⟨journal, refused⟩
  · rw [cause]
    exact ⟨journal, nothing⟩
  · rw [pending]
    dsimp only
    rw [cause]
    exact ⟨journal, refused⟩
  · rw [pending]
    dsimp only
    rw [cause, applied, outcome_discard_bind]
    have size : sketch.store.size = (sketch.written slots values).store.size :=
      (Store.size_writeFreeAll ..).symm
    have still : ((sketch.written slots values).withJournal journal).Sound :=
      sound.mono (Nat.le_of_eq size) (.refl _) (.refl _) rfl
    obtain ⟨later, went⟩ := @outcome_commitMeasurements
      ((sketch.written slots values).withJournal journal) own still
      (sketch.written slots values).store.snapshot
    have same : ((sketch.written slots values).withJournal journal).constraints =
      sketch.constraints := rfl
    rw [went, same]
    refine ⟨later, ?_⟩
    cases measurements (sketch.written slots values).store.snapshot sketch.constraints <;> rfl

end Session

end Drafting
