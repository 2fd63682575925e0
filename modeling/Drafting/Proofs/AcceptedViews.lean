import Drafting.Geometry.Binding
import Drafting.Proofs.Refusal

/-!
# Accepted views

A view refers to the slots of its own block and to those of its parts, and to no others. A store
accepts a view if all these slots exist and no part was bound elsewhere, and binding a figure
answers the figure itself, stamped with the store.
-/

namespace Drafting

/-- Whether a slot exists in a store of some size. -/
def InStore (size : Nat) (index : Int) : Prop := 0 ≤ index ∧ index < size

/-- A slot that exists stays when the store grows. -/
theorem InStore.mono {size larger : Nat} {index : Int} (existing : InStore size index)
    (grown : size ≤ larger) : InStore larger index :=
  ⟨existing.1, Int.lt_of_lt_of_le existing.2 (Int.ofNat_le.mpr grown)⟩

namespace Figure

/-- The own block of a figure is among its slots. -/
theorem mem_indices_of_mem_ownIndices {figure : Figure} {index : Int}
    (own : index ∈ figure.ownIndices) : index ∈ figure.indices := by
  cases figure <;> simp_all [ownIndices, indices]

/-- A slot of a figure is its own or one of a part. -/
theorem mem_indices_cases {figure : Figure} {index : Int} (there : index ∈ figure.indices) :
    index ∈ figure.ownIndices ∨ ∃ part ∈ figure.parts, index ∈ part.indices := by
  cases figure <;> simp_all [ownIndices, indices, parts] <;> tauto

/-- The slots of a part are slots of the figure. -/
theorem mem_indices_of_mem_parts {figure : Figure} {part : View} {index : Int}
    (part_of : part ∈ figure.parts) (there : index ∈ part.indices) : index ∈ figure.indices := by
  cases figure with
  | point x y => cases part_of
  | bspline spline =>
    simp only [parts, List.mem_map, List.mem_cons] at part_of
    obtain ⟨p, placed, rfl⟩ := part_of
    have coordinate : index ∈ p.indices := there
    show index ∈ spline.block
    unfold Spline.block
    rcases placed with rfl | rfl | pole
    · simp [coordinate]
    · simp [coordinate]
    · have among := List.mem_flatMap.mpr ⟨p, pole, coordinate⟩
      simp [among]
  | _ =>
    simp only [parts, List.mem_cons, List.not_mem_nil, or_false] at part_of
    grind [indices]

end Figure

/-- The own block of a view is among its slots. -/
theorem View.mem_indices_of_mem_ownIndices {view : View} {index : Int}
    (own : index ∈ view.ownIndices) : index ∈ view.indices := by
  cases view
  exact Figure.mem_indices_of_mem_ownIndices own

/-- A slot of a view is one of its own block or one of a part. -/
theorem View.mem_indices_cases {view : View} {index : Int} (there : index ∈ view.indices) :
    index ∈ view.ownIndices ∨ ∃ part ∈ view.figure.parts, index ∈ part.indices := by
  cases view
  exact Figure.mem_indices_cases there

namespace Store

variable {store : Store}

/-- An index is accepted if its slot exists. -/
theorem checkIndex_eq_ok {index : Int} {place : Nat} :
    store.checkIndex index = .ok place ↔ InStore store.size index ∧ place = index.toNat := by
  unfold checkIndex InStore
  by_cases existing : 0 ≤ index ∧ index < store.size
  · rw [if_pos existing]
    simp [existing, eq_comm]
  · rw [if_neg existing]
    simp [existing]

/-- A part belongs here if it was bound nowhere or here. -/
theorem checkPart_eq_ok {part : View} :
    store.checkPart part = .ok () ↔
      part.binding = none ∨ part.binding = some store.binding := by
  unfold checkPart
  cases part.binding with
  | none => simp
  | some binding =>
    by_cases here : binding = store.binding
    · simp [here]
    · simp [here]

/-- A part that belongs to a store belongs to every store with its binding. -/
theorem checkPart_congr {other : Store} (same : other.binding = store.binding) {part : View} :
    other.checkPart part = .ok () ↔ store.checkPart part = .ok () := by
  rw [checkPart_eq_ok, checkPart_eq_ok, same]

/-- A view is accepted as it is, if its parts belong here and its slots exist. -/
theorem checkView_eq_ok {view found : View} :
    store.checkView view = .ok found ↔
      (∀ part ∈ view.parts, store.checkPart part = .ok ()) ∧
        (∀ index ∈ view.indices, InStore store.size index) ∧ view = found := by
  unfold checkView
  rw [bind_eq_ok]
  constructor
  · rintro ⟨⟨⟩, belong, rest⟩
    obtain ⟨⟨⟩, existing, same⟩ := bind_eq_ok.mp rest
    refine ⟨forM_eq_ok.mp belong, fun index there => ?_, Except.ok.inj same⟩
    obtain ⟨place, checked, -⟩ := bind_eq_ok.mp (forM_eq_ok.mp existing index there)
    exact (checkIndex_eq_ok.mp checked).1
  · rintro ⟨belong, existing, rfl⟩
    refine ⟨(), forM_eq_ok.mpr belong, bind_eq_ok.mpr ⟨(), forM_eq_ok.mpr ?_, rfl⟩⟩
    intro index there
    exact bind_eq_ok.mpr ⟨_, checkIndex_eq_ok.mpr ⟨existing index there, rfl⟩, rfl⟩

/-- Binding a figure answers its view, whose slots exist here. -/
theorem bind_eq_ok_iff {figure : Figure} {view : View} :
    store.bind figure = .ok view ↔
      (∀ part ∈ figure.parts, store.checkPart part = .ok ()) ∧
        (∀ index ∈ figure.indices, InStore store.size index) ∧
          view = ⟨figure, some store.binding⟩ := by
  unfold Store.bind
  rw [bind_eq_ok]
  constructor
  · rintro ⟨found, checked, stamped⟩
    obtain ⟨belong, existing, rfl⟩ := checkView_eq_ok.mp checked
    exact ⟨fun part there => belong part (List.mem_cons_of_mem _ there), existing,
      (Except.ok.inj stamped).symm⟩
  · rintro ⟨belong, existing, rfl⟩
    refine ⟨⟨figure, none⟩, checkView_eq_ok.mpr ⟨?_, existing, rfl⟩, rfl⟩
    intro part there
    rcases List.mem_cons.mp there with rfl | later
    · rfl
    · exact belong part later

end Store

/-- The count of a sequence is that of its items. -/
theorem Value.count_of_toItems {value : Value} {items : List Value}
    (opened : value.toItems = .ok items) : value.count = .ok items.length := by
  unfold toItems at opened
  unfold count
  cases there : value.items? with
  | none =>
    rw [there] at opened
    cases opened
  | some found =>
    rw [there] at opened
    cases opened
    rfl

/-- Counts are accepted if there are two poles at least, a weight for each pole and a multiplicity
for each knot, and the degree is a positive integer. -/
theorem checkSplineCounts_eq_ok {poles weights knots multiplicities : Nat} {degree : Value}
    {number : Int} :
    checkSplineCounts poles weights knots multiplicities degree = .ok number ↔
      2 ≤ poles ∧ weights = poles ∧ multiplicities = knots ∧
        degree.toInteger = .ok number ∧ 1 ≤ number := by
  unfold checkSplineCounts
  by_cases few : poles < 2
  · rw [if_pos few]
    exact iff_of_false nofun fun counted => Nat.not_lt.mpr counted.1 few
  have enough : 2 ≤ poles := Nat.le_of_not_lt few
  by_cases uneven : weights ≠ poles
  · simp only [if_neg few, if_pos uneven]
    exact iff_of_false nofun fun counted => uneven counted.2.1
  have weighed : weights = poles := not_not.mp uneven
  by_cases other : multiplicities ≠ knots
  · simp only [if_neg few, if_neg uneven, if_pos other]
    exact iff_of_false nofun fun counted => other counted.2.2.1
  have repeated : multiplicities = knots := not_not.mp other
  simp only [if_neg few, if_neg uneven, if_neg other]
  cases degree.toInteger with
  | error fault => exact iff_of_false nofun fun counted => nomatch counted.2.2.2.1
  | ok n =>
    rw [ok_bind]
    by_cases low : n < 1
    · rw [if_pos low]
      refine iff_of_false nofun fun counted => ?_
      have same : n = number := Except.ok.inj counted.2.2.2.1
      have positive := counted.2.2.2.2
      omega
    · rw [if_neg low]
      have positive : 1 ≤ n := Int.not_lt.mp low
      constructor
      · intro answered
        cases answered
        exact ⟨enough, weighed, repeated, rfl, positive⟩
      · intro counted
        exact counted.2.2.2.1

end Drafting
