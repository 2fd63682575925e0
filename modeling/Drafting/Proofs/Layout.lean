import Drafting.Proofs.AcceptedViews
import Drafting.Sketch.Drawing

/-!
# The block of a spline

A spline is drawn over one block of new slots: the coordinates of its poles, its weights, its knots,
its start and its end. Reading these places back from a block of consecutive slots gives the block
itself, slot by slot.
-/

namespace Drafting

variable {first size : Nat}

/-- A slot of a block of consecutive slots. -/
theorem blockSlot_range' {place : Nat} (inside : place < size) :
    Session.blockSlot (List.range' first size) place = ((first + place : Nat) : Int) := by
  unfold Session.blockSlot
  rw [List.getD_eq_getElem?_getD, List.getElem?_range' inside, Option.getD_some, Nat.one_mul]

/-- Some slots of a block of consecutive slots. -/
theorem blockSlots_range' {place count : Nat} (inside : place + count ≤ size) :
    Session.blockSlots (List.range' first size) place count =
      (List.range' (first + place) count).map Int.ofNat := by
  unfold Session.blockSlots
  rw [List.drop_range', List.take_range'_of_length_ge (by omega), Nat.mul_one]

/-- The slots of points that were placed one after the other in a block, from some place on. -/
theorem flatMap_indices_placed {start count : Nat} {points : List Point}
    (inside : 2 * (start + count) ≤ size)
    (placed : List.Forall₂ (fun i (p : Point) =>
      p.x = Session.blockSlot (List.range' first size) (2 * i) ∧
        p.y = Session.blockSlot (List.range' first size) (2 * i + 1))
      (List.range' start count) points) :
    points.flatMap Point.indices =
      (List.range' (first + 2 * start) (2 * count)).map Int.ofNat := by
  induction count generalizing start points with
  | zero =>
    cases placed
    rfl
  | succ count ih =>
    rw [List.range'_succ] at placed
    obtain ⟨p, rest, ⟨x, y⟩, later, rfl⟩ := List.forall₂_cons_left_iff.mp placed
    rw [blockSlot_range' (by omega)] at x y
    have others := ih (by omega) later
    have next : first + 2 * (start + 1) = first + 2 * start + 1 + 1 := by omega
    have pair : 2 * (count + 1) = 2 * count + 1 + 1 := by omega
    rw [List.flatMap_cons, others, next, pair, List.range'_succ, List.range'_succ]
    unfold Point.indices
    rw [x, y]
    rfl

/-- The count of the values of a spline's block. -/
theorem SplineCoordinates.length_values (c : SplineCoordinates) (weights knots : List Value) :
    (c.values weights knots).length =
      2 * c.poles.length + weights.length + knots.length + 4 := by
  unfold values
  rw [List.length_append, List.length_append, List.length_append, List.length_flatMap]
  simp [Nat.mul_comm]

/-- The block of a spline whose points, weights and knots were placed one after the other in a
block of new slots is that block. -/
theorem block_placed {spline : Spline} {count weights knots : Nat}
    (full : size = 2 * count + weights + knots + 4)
    (poles : List.Forall₂ (fun i (p : Point) =>
      p.x = Session.blockSlot (List.range' first size) (2 * i) ∧
        p.y = Session.blockSlot (List.range' first size) (2 * i + 1))
      (List.range count) spline.poles)
    (weighed : spline.weights =
      Session.blockSlots (List.range' first size) (2 * count) weights)
    (knotted : spline.knots =
      Session.blockSlots (List.range' first size) (2 * count + weights) knots)
    (start : spline.start.indices = [
      Session.blockSlot (List.range' first size) (2 * count + weights + knots),
      Session.blockSlot (List.range' first size) (2 * count + weights + knots + 1)])
    (finish : spline.finish.indices = [
      Session.blockSlot (List.range' first size) (2 * count + weights + knots + 2),
      Session.blockSlot (List.range' first size) (2 * count + weights + knots + 2 + 1)]) :
    spline.block = (List.range' first size).map Int.ofNat := by
  rw [List.range_eq_range'] at poles
  unfold Spline.block
  rw [flatMap_indices_placed (by omega) poles, weighed, knotted, start, finish,
    blockSlots_range' (by omega), blockSlots_range' (by omega), blockSlot_range' (by omega),
    blockSlot_range' (by omega), blockSlot_range' (by omega), blockSlot_range' (by omega)]
  have ends : List.range' (first + (2 * count + weights + knots)) 4 =
      [first + (2 * count + weights + knots), first + (2 * count + weights + knots + 1),
        first + (2 * count + weights + knots + 2), first + (2 * count + weights + knots + 2 + 1)] :=
    rfl
  have whole : List.range' first size =
      List.range' first (2 * count) ++ List.range' (first + 2 * count) weights ++
        List.range' (first + (2 * count + weights)) knots ++
          List.range' (first + (2 * count + weights + knots)) 4 := by
    rw [full, List.range'_append_1, List.range'_append_1, List.range'_append_1]
  rw [whole, ends]
  simp only [List.map_append, List.append_assoc]
  rfl

end Drafting
