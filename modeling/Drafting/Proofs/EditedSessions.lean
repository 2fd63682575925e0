import Drafting.Proofs.ApplyOutcome
import Drafting.Proofs.Kinds
import Drafting.Proofs.Steadiness

/-!
# Sessions that reach into the store

The store of a sketch is at hand while a session goes on: slots may be allocated, overwritten and
retired there without the sketch being asked. What is known of every sketch that requests lead to
survives such edits, because it speaks about which slots exist and who refers to them, and never
about values or flags.
-/

namespace Drafting

/-- What can be done to a sketch whose store is at hand: to request something of the sketch, or to
allocate a slot, overwrite one or retire some directly. -/
inductive Edit where
  | ask (request : Request)
  | push (value fixed tag : Value)
  | set (index value fixed : Value)
  | retire (tag : Value)

namespace Edit

/-- Whether an edit stays within a scope. -/
def Within (scope : Scope) : Edit → Prop
  | ask request => request.Within scope
  | _ => True

/-- Whether an edit is neither a solve nor clearing. -/
def IsSteady : Edit → Prop
  | ask request => request.IsSteady
  | _ => True

/-- Whether an edit neither overwrites a slot directly nor clears the sketch. -/
def IsGentle : Edit → Prop
  | ask .clear | set .. => False
  | _ => True

/-- Every edit stays within no restriction. -/
theorem within_all (edit : Edit) : edit.Within .all := by
  cases edit with
  | ask request => exact request.within_all
  | _ => trivial

end Edit

/-- A change of a sketch, or any other values and flags in the slots of its store. -/
inductive Alteration (scope : Scope) (sketch : Sketch) : Sketch → Prop
  | changed {after : Sketch} (change : Change scope sketch after) : Alteration scope sketch after
  | overwritten (store : Store) (size : store.size = sketch.store.size)
    (same : store.binding = sketch.store.binding) : Alteration scope sketch { sketch with store }

namespace Store

/-- Overwriting keeps the count of slots. -/
@[simp] theorem size_set (store : Store) (index value fixed : Value) :
    (store.set index value fixed).2.size = store.size := by
  rcases store.set_cases index value fixed with left | ⟨place, x, left | ⟨flag, left⟩⟩
  · rw [left]
  · rw [left, size_write]
  · rw [left, size_mark, size_write]

end Store

namespace Sketch

variable {sketch after : Sketch} {scope : Scope}

/-- The sketch that an edit leaves, refused or not. -/
def edited (sketch : Sketch) : Edit → Sketch
  | .ask request => sketch.after request
  | .push value fixed tag => ((Session.onStore (·.push value fixed tag)).outcome sketch).2
  | .set index value fixed => ((Session.setSlot index value fixed).outcome sketch).2
  | .retire tag => ((Session.retire tag).outcome sketch).2

/-- The sketch that edits leave, one after the other. -/
def editedAll (sketch : Sketch) (edits : List Edit) : Sketch := edits.foldl edited sketch

/-- Overwriting a slot leaves the others of the sketch alone. -/
theorem edited_set (sketch : Sketch) (index value fixed : Value) :
    sketch.edited (.set index value fixed) =
      { sketch with store := (sketch.store.set index value fixed).2 } := by
  show (Session.outcome _ sketch).2 = _
  unfold Session.setSlot
  rw [Session.outcome_get_bind]
  dsimp only
  rw [Session.outcome_modify_bind, Session.outcome_liftM]

/-- An edit that overwrites nothing directly is a chain of changes. -/
theorem changes_edited {edit : Edit} (within : edit.Within scope)
    (changes : ∀ index value fixed, edit ≠ .set index value fixed) :
    Changes scope sketch (sketch.edited edit) := by
  cases edit with
  | ask request => exact Request.proceeds within sketch
  | push value fixed tag =>
    refine Session.proceeds_onStore (fun before answer store pushed => ?_) sketch
    obtain ⟨x, b, t, -, rfl⟩ := Store.push_eq_ok pushed
    exact .grown [x] b t
  | set index value fixed => exact absurd rfl (changes index value fixed)
  | retire tag => exact Session.proceeds_retire sketch

/-- Every edit is a chain of alterations. -/
theorem alterations_edited {edit : Edit} (within : edit.Within scope) :
    Relation.ReflTransGen (Alteration scope) sketch (sketch.edited edit) := by
  cases edit with
  | set index value fixed =>
    rw [edited_set]
    exact .single (.overwritten _ (Store.size_set ..) (Store.binding_set ..))
  | _ =>
    exact Relation.ReflTransGen.mono (fun _ _ change => Alteration.changed change) _ _
      (changes_edited within nofun)

/-- What every alteration keeps, edits keep. -/
theorem invariant_editedAll {holds : Sketch → Prop} {edits : List Edit}
    (within : ∀ edit ∈ edits, edit.Within scope)
    (kept : ∀ {before after}, holds before → Alteration scope before after → holds after)
    (held : holds sketch) : holds (sketch.editedAll edits) := by
  induction edits generalizing sketch with
  | nil => exact held
  | cons edit rest ih =>
    refine ih (fun later there => within later (List.mem_cons_of_mem _ there)) ?_
    have steps := @alterations_edited sketch scope edit (within edit List.mem_cons_self)
    generalize sketch.edited edit = last at steps
    induction steps with
    | refl => exact held
    | tail _ step held => exact kept held step

/-- A sketch is built by edits within a scope if some of them leave it of a new sketch. -/
def Edited (scope : Scope) (sketch : Sketch) : Prop :=
  ∃ identity options journal edits, (∀ edit ∈ edits, edit.Within scope) ∧
    sketch = (start identity options journal).editedAll edits

/-- What requests by reference lead to, edits with built-in kinds lead to. -/
theorem Reached.edited (reached : sketch.Reached .byReference) : sketch.Edited .builtin := by
  obtain ⟨identity, options, journal, requests, within, rfl⟩ := reached
  refine ⟨identity, options, journal, requests.map .ask, fun edit there => ?_, ?_⟩
  · obtain ⟨request, asked, rfl⟩ := List.mem_map.mp there
    exact (within request asked).builtin
  · unfold afterAll editedAll
    rw [List.foldl_map]
    rfl

/-- What holds of every new sketch and is kept by every alteration holds of every sketch that is
built by edits. -/
theorem Edited.invariant {holds : Sketch → Prop} (edited : sketch.Edited scope)
    (begins : ∀ identity options journal, holds (start identity options journal))
    (kept : ∀ {before after}, holds before → Alteration scope before after → holds after) :
    holds sketch := by
  obtain ⟨identity, options, journal, edits, within, rfl⟩ := edited
  exact invariant_editedAll within kept (begins identity options journal)

/-- Every alteration keeps a sketch sound. -/
theorem Sound.alteration (sound : sketch.Sound) (alteration : Alteration scope sketch after) :
    after.Sound := by
  cases alteration with
  | changed change => exact sound.change change
  | overwritten store size => exact sound.mono (Nat.le_of_eq size.symm) (.refl _) (.refl _) rfl

/-- Every alteration keeps what constraints measure their own. -/
theorem MeasuresOwn.alteration (own : sketch.MeasuresOwn)
    (alteration : Alteration scope sketch after) : after.MeasuresOwn := by
  cases alteration with
  | changed change => exact own.change change
  | overwritten => exact own

/-- Every alteration by reference keeps a sketch orderly. -/
theorem Orderly.alteration (orderly : sketch.Orderly)
    (alteration : Alteration .byReference sketch after) : after.Orderly := by
  cases alteration with
  | changed change => exact orderly.change change
  | overwritten store size =>
    exact ⟨orderly.sound.mono (Nat.le_of_eq size.symm) (.refl _) (.refl _) rfl,
      orderly.apart.mono (.refl _) (.refl _), orderly.standard.mono rfl (.refl _) (.refl _)⟩

end Sketch

namespace Store

variable {store : Store} {place : Nat} {value : Float}

/-- A slot is fixed at a value. -/
def Holds (store : Store) (place : Nat) (value : Float) : Prop :=
  ∃ slot, store.slots[place]? = some slot ∧ slot.value = value ∧ slot.fixed

/-- A slot that is held exists. -/
theorem Holds.inside (holds : store.Holds place value) : place < store.size := by
  obtain ⟨slot, there, -⟩ := holds
  exact (Array.getElem?_eq_some_iff.mp there).1

/-- Appending keeps a slot held. -/
theorem Holds.append (holds : store.Holds place value) (values : List Float) (fixed : Bool)
    (tag : Int) : (store.append values fixed tag).2.Holds place value := by
  obtain ⟨slot, there, rest⟩ := holds
  have inside := (Array.getElem?_eq_some_iff.mp there).1
  refine ⟨slot, ?_, rest⟩
  show (store.slots ++ _)[place]? = _
  rw [Array.getElem?_append_left inside, there]

/-- Retiring keeps a slot held. -/
theorem Holds.retireTag (holds : store.Holds place value) (tag : Int) :
    (store.retireTag tag).2.Holds place value := by
  unfold Store.retireTag
  dsimp only
  generalize store.indicesWhere _ = hits
  induction hits generalizing store with
  | nil => exact holds
  | cons hit rest ih =>
    refine ih ?_
    obtain ⟨slot, there, same, fixed⟩ := holds
    by_cases this : hit = place
    · refine ⟨{ slot with fixed := true, retired := true }, ?_, same, rfl⟩
      rw [slots_retireSlot, if_pos this, there]
      rfl
    · refine ⟨slot, ?_, same, fixed⟩
      rw [slots_retireSlot, if_neg this, there]

/-- Writing to what is free keeps a slot held. -/
theorem Holds.writeFreeAll (holds : store.Holds place value) (pairs : List (Nat × Float)) :
    (store.writeFreeAll pairs).2.Holds place value := by
  induction pairs generalizing store with
  | nil => exact holds
  | cons pair rest ih =>
    rw [writeFreeAll_cons]
    refine ih ?_
    obtain ⟨slot, there, same, fixed⟩ := holds
    refine ⟨slot, ?_, same, fixed⟩
    rw [slots_writeFree]
    by_cases this : pair.1 = place
    · rw [if_pos this, there, Option.map_some]
      unfold Slot.taking
      rw [if_pos fixed]
    · rw [if_neg this, there]

/-- Storing a value elsewhere keeps a slot held. -/
theorem Holds.write_mark (holds : store.Holds place value) {index : Nat} (away : index ≠ place)
    (x : Float) : ((store.write index x).mark index true).Holds place value := by
  obtain ⟨slot, there, rest⟩ := holds
  refine ⟨slot, ?_, rest⟩
  rw [slots_mark, if_neg away, slots_write, if_neg away, there]

end Store

namespace Sketch

variable {sketch after : Sketch} {scope : Scope} {place : Nat} {value : Float}

/-- A slot is fixed at a value and no constraint measures it. -/
structure Pins (sketch : Sketch) (place : Nat) (value : Float) : Prop where
  holds : sketch.store.Holds place value
  idle : ∀ c ∈ sketch.constraints, c.measuredSlot? ≠ .ok (some place)

/-- No change goes back to an earlier generation. -/
theorem generation_change (change : Change scope sketch after) :
    sketch.store.generation ≤ after.store.generation := by
  cases change with
  | cleared => exact Nat.le_succ _
  | retired tag =>
    exact Nat.le_of_eq (congrArg Binding.generation (Store.binding_retireTag ..)).symm
  | applied =>
    exact Nat.le_of_eq (congrArg Binding.generation (Store.binding_writeFreeAll ..)).symm
  | _ => exact Nat.le_refl _

/-- A slot that is fixed and not measured stays so in every change within a generation. -/
theorem Pins.change (pins : sketch.Pins place value) (change : Change scope sketch after)
    (same : after.store.generation = sketch.store.generation) : after.Pins place value := by
  cases change with
  | grown values fixed tag => exact ⟨pins.holds.append .., pins.idle⟩
  | named x fixed tag => exact ⟨pins.holds.append .., pins.idle⟩
  | drawn values fixed slotTag => exact ⟨pins.holds.append .., pins.idle⟩
  | constrained modifiers tag known offered named built =>
    refine ⟨pins.holds.append .., fun c registered measures => ?_⟩
    rcases List.mem_append.mp registered with before | last
    · exact pins.idle c before measures
    · -- What the new constraint measures is a new slot.
      rw [List.mem_singleton.mp last] at measures
      have owned := measuredSlot_mem (Constraint.measuredSlot?_eq_some measures).2.2
      rw [owned_place] at owned
      exact absurd pins.holds.inside (Nat.not_lt.mpr (List.mem_range'_1.mp owned).1)
  | removed kept =>
    exact ⟨pins.holds, fun c registered => pins.idle c (List.mem_of_mem_filter registered)⟩
  | retired tag => exact ⟨pins.holds.retireTag tag, pins.idle⟩
  | cleared => exact absurd same (Nat.succ_ne_self _)
  | applied => exact ⟨pins.holds.writeFreeAll _, pins.idle⟩
  | measured x registered measures =>
    refine ⟨pins.holds.write_mark ?_ x, pins.idle⟩
    rintro rfl
    exact pins.idle _ registered measures
  | _ => exact ⟨pins.holds, pins.idle⟩

/-- No chain of changes goes back to an earlier generation. -/
theorem generation_changes (changes : Changes scope sketch after) :
    sketch.store.generation ≤ after.store.generation := by
  induction changes with
  | refl => exact Nat.le_refl _
  | tail _ last ih => exact Nat.le_trans ih (generation_change last)

/-- A slot that is fixed and not measured stays so in every chain of changes within a
generation. -/
theorem Pins.changes (pins : sketch.Pins place value) (changes : Changes scope sketch after)
    (same : after.store.generation = sketch.store.generation) : after.Pins place value := by
  induction changes with
  | refl => exact pins
  | tail before last ih =>
    have first := generation_changes before
    have second := generation_change last
    exact (ih (by omega)).change last (by omega)

/-- A solve changes nothing in the store. -/
theorem store_after_solve (sketch : Sketch) (backend : Backend) (algorithm : Value) :
    (sketch.after (.solve backend algorithm)).store = sketch.store := by
  show ((Session.solve backend algorithm >>= fun status =>
    pure (Answer.status status)).outcome sketch).2.store = _
  rw [Session.outcome_bind_pure, Session.store_outcome_solve]

/-- An edit that is steady leaves the outcome of the last solve and the generation. -/
theorem steady_edited {edit : Edit} (steady : edit.IsSteady) :
    sketch.Steady (sketch.edited edit) := by
  refine steady_of_steps ?_
  cases edit with
  | ask request => exact Request.steady steady sketch
  | push => exact Session.covers_steady.push sketch
  | set => exact Session.covers_steady.setSlot sketch
  | retire => exact Session.covers_steady.retire sketch

/-- An edit that does not clear begins no generation. -/
theorem binding_edited {edit : Edit} (stays : edit ≠ .ask .clear) :
    (sketch.edited edit).store.binding = sketch.store.binding := by
  by_cases steady : edit.IsSteady
  · exact (steady_edited steady).2
  · cases edit with
    | ask request =>
      cases request with
      | solve backend algorithm =>
        exact congrArg Store.binding (sketch.store_after_solve backend algorithm)
      | clear => exact absurd rfl stays
      | _ => exact absurd trivial steady
    | _ => exact absurd trivial steady

/-- A slot that is fixed and not measured stays so, whatever is done but overwriting it directly
and clearing. -/
theorem Pins.edited {edit : Edit} (pins : sketch.Pins place value) (gentle : edit.IsGentle) :
    (sketch.edited edit).Pins place value := by
  refine pins.changes (changes_edited edit.within_all ?_) ?_
  · rintro index value fixed rfl
    exact gentle
  · refine congrArg Binding.generation (binding_edited ?_)
    rintro rfl
    exact gentle

/-- A slot that is fixed and not measured stays so during any edits that neither overwrite a slot
directly nor clear. -/
theorem Pins.editedAll {edits : List Edit} (pins : sketch.Pins place value)
    (gentle : ∀ edit ∈ edits, edit.IsGentle) : (sketch.editedAll edits).Pins place value := by
  induction edits generalizing sketch with
  | nil => exact pins
  | cons edit rest ih =>
    exact ih (pins.edited (gentle edit List.mem_cons_self)) fun later there =>
      gentle later (List.mem_cons_of_mem _ there)

end Sketch

end Drafting
