import Drafting.Proofs.EditedSessions

/-!
# Handling a sketch together with its store

Whoever has the store of a sketch at hand can drop all its slots beneath the geometry, besides
editing it and besides clearing the sketch as a whole. Either way the store begins its next
generation, and nothing else does that.
-/

namespace Drafting

/-- What can be done to a sketch whose store is at hand: an edit, or to drop all slots directly,
which leaves geometry, constraints and names behind. -/
inductive Handling where
  | edit (edit : Edit)
  | wipe

/-- To clear the whole sketch. -/
def Handling.clear : Handling := .edit (.ask .clear)

namespace Sketch

variable {sketch after : Sketch} {handlings : List Handling}

/-- The sketch that a handling leaves. -/
def handled (sketch : Sketch) : Handling → Sketch
  | .edit edit => sketch.edited edit
  | .wipe => (Session.clearStore.outcome sketch).2

/-- The sketch that handlings leave, one after the other. -/
def handledAll (sketch : Sketch) (handlings : List Handling) : Sketch :=
  handlings.foldl handled sketch

/-- The sketch with all slots dropped, and nothing else. -/
def wiped (sketch : Sketch) : Sketch := { sketch with store := sketch.store.clear }

/-- Dropping the slots writes to the journal besides. -/
theorem handled_wipe (sketch : Sketch) :
    ∃ journal, sketch.handled .wipe = sketch.wiped.withJournal journal := ⟨_, rfl⟩

/-- What every alteration keeps, and dropping the slots if that is done, handlings keep. -/
theorem invariant_handledAll {holds : Sketch → Prop}
    (altered : ∀ {before after}, holds before → Alteration .all before after → holds after)
    (wiped : .wipe ∈ handlings → ∀ {before}, holds before →
      ∀ journal, holds (before.wiped.withJournal journal))
    (held : holds sketch) : holds (sketch.handledAll handlings) := by
  induction handlings generalizing sketch with
  | nil => exact held
  | cons handling rest ih =>
    refine ih (fun there => wiped (List.mem_cons_of_mem _ there)) ?_
    cases handling with
    | wipe =>
      obtain ⟨journal, left⟩ := sketch.handled_wipe
      rw [left]
      exact wiped List.mem_cons_self held journal
    | edit edit =>
      have steps := @alterations_edited sketch .all edit edit.within_all
      show holds (sketch.edited edit)
      generalize sketch.edited edit = last at steps
      induction steps with
      | refl => exact held
      | tail _ step held => exact altered held step

/-- A handling begins a generation of the same store if it drops the slots. -/
theorem binding_handled (sketch : Sketch) (handling : Handling) :
    ∃ begun, (sketch.handled handling).store.binding =
        ⟨sketch.store.identity, sketch.store.generation + begun⟩ ∧
      (begun = 0 ↔ .wipe ≠ handling ∧ .clear ≠ handling) := by
  cases handling with
  | wipe => exact ⟨1, rfl, by simp⟩
  | edit edit =>
    by_cases clears : .ask .clear = edit
    · subst clears
      exact ⟨1, rfl, by simp [Handling.clear]⟩
    · exact ⟨0, binding_edited (Ne.symm clears), by simp [Handling.clear, clears]⟩

/-- Handlings begin as many generations of the same store as they drop its slots. -/
theorem binding_handledAll (sketch : Sketch) (handlings : List Handling) :
    ∃ begun, (sketch.handledAll handlings).store.binding =
        ⟨sketch.store.identity, sketch.store.generation + begun⟩ ∧
      (begun = 0 ↔ .wipe ∉ handlings ∧ .clear ∉ handlings) := by
  induction handlings generalizing sketch with
  | nil => exact ⟨0, rfl, by simp⟩
  | cons handling rest ih =>
    obtain ⟨first, here, count⟩ := sketch.binding_handled handling
    obtain ⟨others, later, count'⟩ := ih (sketch.handled handling)
    have identity : (sketch.handled handling).store.identity = sketch.store.identity :=
      congrArg Binding.store here
    have generation : (sketch.handled handling).store.generation =
        sketch.store.generation + first := congrArg Binding.generation here
    refine ⟨first + others, later.trans ?_, ?_⟩
    · rw [identity, generation, Nat.add_assoc]
    · rw [Nat.add_eq_zero_iff, count, count', and_and_and_comm, List.mem_cons, List.mem_cons,
        not_or, not_or]

/-- Requests alone are a handling. -/
theorem handledAll_ask (sketch : Sketch) (requests : List Request) :
    sketch.handledAll (requests.map fun request => .edit (.ask request)) =
      sketch.afterAll requests := List.foldl_map ..

/-- Requests begin as many generations of the same store as they clear it. -/
theorem binding_afterAll (sketch : Sketch) (requests : List Request) :
    ∃ begun, (sketch.afterAll requests).store.binding =
        ⟨sketch.store.identity, sketch.store.generation + begun⟩ ∧
      (begun = 0 ↔ .clear ∉ requests) := by
  obtain ⟨begun, binding, count⟩ :=
    sketch.binding_handledAll (requests.map fun request => .edit (.ask request))
  rw [handledAll_ask] at binding
  refine ⟨begun, binding, count.trans ?_⟩
  simp [Handling.clear]

end Sketch

end Drafting
