import Drafting.Proofs.ConvergedApply
import Drafting.Proofs.ApplyOutcome

/-!
# Slots behind those that are read

A store may go on with further slots, all of them fixed. Its free slots stay what they were, and so
does what is read in the slots that were there: relations that are stated of these slots have the
same rows, refusals included, so the rows as a function of the free values, their quotients, the
diagnosis and every measurement stay the same too.
-/

namespace Drafting

/-- A store with further slots behind its own. -/
def Store.extended (store : Store) (more : List Slot) : Store :=
  { store with slots := store.slots ++ more.toArray }

namespace Store

variable {store : Store} {more : List Slot}

/-- Further slots count. -/
@[simp] theorem size_extended : (store.extended more).size = store.size + more.length := by
  simp [extended, size]

/-- The values of further slots come last. -/
theorem snapshot_extended :
    (store.extended more).snapshot = store.snapshot ++ (more.map (·.value)).toArray := by
  simp [extended, snapshot]

/-- Slots that were there stay as they are. -/
theorem slots_extended {place : Nat} (inside : place < store.size) :
    (store.extended more).slots[place]? = store.slots[place]? :=
  Array.getElem?_append_left inside

/-- Nothing further changes nothing. -/
theorem extended_nil (store : Store) : store.extended [] = store := by
  simp [extended]

/-- Slots behind further slots are further slots. -/
theorem extended_extended (later : List Slot) :
    (store.extended more).extended later = store.extended (more ++ later) := by
  simp [extended, Array.append_assoc]

/-- A slot that was there is overwritten as if there were no further ones. -/
theorem write_extended {index : Nat} (inside : index < store.size) (value : Float) :
    (store.extended more).write index value = (store.write index value).extended more := by
  have slots : (store.slots ++ more.toArray).modify index (fun slot => { slot with value }) =
      store.slots.modify index (fun slot => { slot with value }) ++ more.toArray := by
    refine Array.ext_getElem? fun place => ?_
    rw [Array.getElem?_modify, Array.getElem?_append, Array.getElem?_append, Array.size_modify,
      Array.getElem?_modify]
    by_cases same : index = place
    · subst same
      have before : index < store.slots.size := inside
      rw [if_pos rfl, if_pos before, if_pos before, if_pos rfl]
    · rw [if_neg same, if_neg same]
  exact congrArg (fun slots => { store with slots }) slots

section Held

variable (held : ∀ slot ∈ more, slot.fixed)

include held

/-- A slot behind those of a store is fixed, if there is one. -/
theorem fixed_of_slots_extended {place : Nat} {slot : Slot} (outside : store.size ≤ place)
    (there : (store.extended more).slots[place]? = some slot) : slot.fixed := by
  have behind : more.toArray[place - store.slots.size]? = some slot := by
    rw [← there]
    exact (Array.getElem?_append_right outside).symm
  exact held slot (List.mem_toArray.mp (Array.mem_of_getElem? behind))

/-- Further slots that are fixed leave the free ones. -/
theorem freeIndices_extended : (store.extended more).freeIndices = store.freeIndices := by
  unfold freeIndices indicesWhere
  rw [size_extended, List.range_add, List.filter_append]
  have before : (List.range store.size).filter
      (fun place => (store.extended more).slots[place]?.any (!·.fixed)) =
        (List.range store.size).filter fun place => store.slots[place]?.any (!·.fixed) :=
    List.filter_congr fun place there => by rw [slots_extended (List.mem_range.mp there)]
  have behind : ((List.range more.length).map (store.size + ·)).filter
      (fun place => (store.extended more).slots[place]?.any (!·.fixed)) = [] := by
    rw [List.filter_eq_nil_iff]
    intro place there free
    obtain ⟨offset, -, rfl⟩ := List.mem_map.mp there
    obtain ⟨slot, found, open_⟩ := (Option.any_eq_true _ _).mp free
    rw [fixed_of_slots_extended held (Nat.le_add_right ..) found] at open_
    cases open_
  rw [before, behind, List.append_nil]

/-- A value offered to a slot is taken as if there were no further slots. -/
theorem writeFree_extended (index : Nat) (value : Float) :
    (store.extended more).writeFree index value =
      ((store.writeFree index value).1, (store.writeFree index value).2.extended more) := by
  unfold writeFree
  by_cases inside : index < store.size
  · rw [slots_extended inside, write_extended inside]
    cases store.slots[index]? with
    | none => rfl
    | some slot =>
      dsimp only
      by_cases fixed : slot.fixed
      · rw [if_pos fixed, if_pos fixed]
      · rw [if_neg fixed, if_neg fixed]
  · have outside := Nat.le_of_not_lt inside
    have absent : store.slots[index]? = none := Array.getElem?_eq_none outside
    rw [absent]
    cases there : (store.extended more).slots[index]? with
    | none => rfl
    | some slot =>
      dsimp only
      rw [if_pos (fixed_of_slots_extended held outside there)]

/-- Values offered to slots are taken as if there were no further slots. -/
theorem writeFreeAll_extended (pairs : List (Nat × Float)) :
    ((store.extended more).writeFreeAll pairs).2 =
      (store.writeFreeAll pairs).2.extended more := by
  induction pairs generalizing store with
  | nil => rfl
  | cons pair rest ih =>
    rw [writeFreeAll_cons, writeFreeAll_cons, writeFree_extended held, ih]

end Held

/-- Storing measurements in two stores that agree on a slot leaves them agreeing there. -/
theorem slots_commit_congr {store other : Store} {place : Nat} (measured : List (Nat × Float))
    (same : store.slots[place]? = other.slots[place]?) :
    (store.commit measured).slots[place]? = (other.commit measured).slots[place]? := by
  induction measured generalizing store other with
  | nil => exact same
  | cons pair rest ih => exact ih (by rw [slots_commitValue, slots_commitValue, same])

end Store

/-- A slot that exists is read alike where further values follow. -/
theorem slotsOf_append {vector more : Array Float} {slot : Int}
    (existing : InStore vector.size slot) :
    slotsOf (vector ++ more) slot = slotsOf vector slot := by
  have inside : slot.toNat < vector.size := (Int.toNat_lt existing.1).mpr existing.2
  unfold slotsOf
  rw [if_neg (Int.not_lt.mpr existing.1), if_neg (Int.not_lt.mpr existing.1)]
  dsimp only
  rw [Array.getElem?_append_left inside, Array.getElem?_eq_getElem inside]
  dsimp only
  rw [if_pos existing.1, if_pos existing.1]

/-- Putting values into slots keeps the count of entries. -/
theorem size_scatter {full filled : Array Float} {slots : List Nat} {values : List Float}
    (put : scatter full slots values = .ok filled) : filled.size = full.size := by
  unfold scatter at put
  split at put
  · cases put
    exact size_scatterEach ..
  · split at put
    · cases put
      exact size_scatterEach ..
    · cases put

section Vectors

variable {full more : Array Float} {slots : List Nat} (inside : ∀ slot ∈ slots, slot < full.size)

include inside

/-- The entries at slots that exist are gathered alike where further values follow. -/
theorem gather_append : gather (full ++ more) slots = gather full slots :=
  List.map_congr_left fun slot there => by
    rw [Array.getD_eq_getD_getElem?, Array.getD_eq_getD_getElem?,
      Array.getElem?_append_left (inside slot there)]

/-- Values are put into slots that exist alike where further values follow. -/
theorem scatterEach_append (values : List Float) :
    scatterEach (full ++ more) slots values = scatterEach full slots values ++ more := by
  unfold scatterEach
  have among : ∀ pair ∈ slots.zip values, pair.1 < full.size :=
    fun pair there => inside _ (List.of_mem_zip there).1
  clear inside
  generalize slots.zip values = pairs at among
  induction pairs generalizing full with
  | nil => rfl
  | cons pair rest ih =>
    obtain ⟨first, others⟩ := List.forall_mem_cons.mp among
    rw [List.foldl_cons, List.foldl_cons]
    dsimp only
    rw [Array.setIfInBounds_append_left first]
    refine ih fun pair there => ?_
    rw [Array.size_setIfInBounds]
    exact others pair there

/-- Values are put into slots that exist, or refused, alike where further values follow. -/
theorem scatter_append (values : List Float) :
    scatter (full ++ more) slots values = (scatter full slots values).map (· ++ more) := by
  unfold scatter
  split
  · rw [scatterEach_append inside]
    rfl
  · split
    · rw [scatterEach_append inside]
      rfl
    · rfl

end Vectors

/-- A constraint states a relation of the first slots, as many as are counted. -/
structure Constraint.StatesWithin (c : Constraint) (size : Nat) : Prop where
  relates : c.Relates
  existing : ∀ operand ∈ c.operands, ∀ slot ∈ operand.slots, InStore size slot

namespace Constraint.StatesWithin

variable {c : Constraint} {vector more : Array Float}

/-- The rows of a constraint are the same where further values follow. -/
theorem rows_append (states : c.StatesWithin vector.size) :
    c.rows (vector ++ more) = c.rows vector :=
  states.relates.rows_congr fun operand given slot among =>
    slotsOf_append (states.existing operand given slot among)

/-- The reading of a constraint is the same where further values follow. -/
theorem reading_append (states : c.StatesWithin vector.size) :
    c.reading (vector ++ more) = c.reading vector := by
  unfold reading
  rw [states.relates.block_congr fun operand given slot among =>
    slotsOf_append (states.existing operand given slot among)]

/-- What a constraint measures in a slot that exists is the same where further values follow. -/
theorem measurement_append (states : c.StatesWithin vector.size)
    (inside : ∀ slot, c.valueSlot = some slot → slot < vector.size) :
    c.measurement (vector ++ more) = c.measurement vector := by
  unfold measurement
  cases looked : c.measuredSlot? with
  | error fault => rfl
  | ok found =>
    cases found with
    | none => rfl
    | some slot =>
      have existing := inside slot (measuredSlot?_eq_some looked).2.2
      have readings : c.readingOf slot (vector ++ more) = c.readingOf slot vector := by
        funext value
        unfold readingOf
        rw [Array.setIfInBounds_append_left existing]
        refine reading_append ⟨states.relates, fun operand given index among => ?_⟩
        rw [Array.size_setIfInBounds]
        exact states.existing operand given index among
      have searches : c.measure slot (vector ++ more) = c.measure slot vector := by
        unfold measure
        rw [readings, Array.getElem?_append_left existing, Array.getElem?_eq_getElem existing]
      rw [ok_bind, ok_bind]
      dsimp only
      rw [searches]

end Constraint.StatesWithin

section Rows

variable {constraints : List Constraint} {full more : Array Float} {free : List Nat}
  (states : ∀ c ∈ constraints, c.StatesWithin full.size)

include states

/-- The rows of several constraints are the same where further values follow. -/
theorem stackedRows_append :
    stackedRows constraints (full ++ more) = stackedRows constraints full :=
  stackedRows_congr fun c there => (states c there).rows_append

/-- What several constraints measure is the same where further values follow. -/
theorem measurements_append_vector
    (inside : ∀ c ∈ constraints, ∀ slot, c.valueSlot = some slot → slot < full.size) :
    measurements (full ++ more) constraints = measurements full constraints := by
  induction constraints with
  | nil => rfl
  | cons c rest ih =>
    rw [measurements_cons, measurements_cons,
      (states c List.mem_cons_self).measurement_append (inside c List.mem_cons_self),
      ih (fun c there => states c (List.mem_cons_of_mem _ there))
        fun c there => inside c (List.mem_cons_of_mem _ there)]

section Free

variable (inside : ∀ slot ∈ free, slot < full.size)

include inside

/-- The rows as a function of the free values are the same where further values follow. -/
theorem freeRows_append :
    freeRows constraints (full ++ more) free = freeRows constraints full free := by
  funext values
  unfold freeRows
  rw [scatter_append inside]
  cases put : scatter full free values with
  | error fault => rfl
  | ok filled =>
    refine @stackedRows_append constraints filled more fun c there => ?_
    rw [size_scatter put]
    exact states c there

/-- The diagnosis is the same where further values follow. -/
theorem diagnose_append (leastSquares : LeastSquares) (options : SolveOptions) :
    diagnose leastSquares constraints (full ++ more) free options =
      diagnose leastSquares constraints full free options := by
  have holding : (constraints.mapM fun c =>
      c.holdsWithin (full ++ more) options.conflictTolerance) =
        constraints.mapM fun c => c.holdsWithin full options.conflictTolerance := by
    refine mapM_congr fun c there => ?_
    unfold Constraint.holdsWithin
    rw [(states c there).rows_append]
  unfold diagnose
  rw [holding, freeRows_append states inside, gather_append inside]

end Free

end Rows

end Drafting
