import Drafting.Proofs.PropertyAddressing
import Drafting.Proofs.Splines

/-!
# Reading a spline back

The numbers of a spline are laid out one after the other: the coordinates of its poles, its weights,
its knots, its start and its end. A spline that is added gets a block of new slots at the end of the
store with these numbers in this order, and its view refers to the slots of the block in the same
order. So every number that was given is read back where the view has it, and the coordinates of
the ends are also answered under their names.
-/

namespace Drafting

/-- The numbers of a spline. There are two poles at least, each with a weight, and a multiplicity
for each knot. The ends may be left out. -/
structure SplineNumbers where
  poles : List (Float × Float)
  weights : List Float
  knots : List Float
  multiplicities : List Int
  degree : Int
  periodic : Bool
  start : Option (Float × Float)
  finish : Option (Float × Float)
  enough : 2 ≤ poles.length
  weighed : weights.length = poles.length
  repeated : multiplicities.length = knots.length
  positive : 1 ≤ degree

namespace Value

/-- Whether a value is read as a finite number. -/
def IsReal (value : Value) (x : Float) : Prop := Store.finiteReal value = .ok x

/-- Whether a value is read as a pair of finite numbers. -/
def IsPair (value : Value) (pair : Float × Float) : Prop :=
  ∃ x y, value.toItems = .ok [x, y] ∧ x.IsReal pair.1 ∧ y.IsReal pair.2

/-- Whether a value is read as a pair of finite numbers, or is nothing where there is no pair. -/
def IsPair? (value : Value) : Option (Float × Float) → Prop
  | some pair => value.IsPair pair
  | Option.none => value = none

/-- Whether a value is a sequence, but no record, whose items are read as given members. -/
def Lists {α : Type} (reads : Value → α → Prop) (value : Value) (members : List α) : Prop :=
  (∀ entries, value ≠ .record entries) ∧
    ∃ items, value.toItems = .ok items ∧ List.Forall₂ reads items members

end Value

namespace SplineNumbers

/-- There is a pole. -/
theorem poles_ne_nil (given : SplineNumbers) : given.poles ≠ [] :=
  List.ne_nil_of_length_pos (Nat.lt_of_lt_of_le Nat.two_pos given.enough)

/-- The start, which is the first pole if it was left out. -/
def first (given : SplineNumbers) : Float × Float :=
  given.start.getD (given.poles.head given.poles_ne_nil)

/-- The end, which is the last pole if it was left out. -/
def last (given : SplineNumbers) : Float × Float :=
  given.finish.getD (given.poles.getLast given.poles_ne_nil)

/-- All numbers that are stored, in order. -/
def values (given : SplineNumbers) : List Float :=
  given.poles.flatMap (fun pole => [pole.1, pole.2]) ++ given.weights ++ given.knots ++
    [given.first.1, given.first.2, given.last.1, given.last.2]

/-- The coordinates of the ends by name. -/
def ends (given : SplineNumbers) : List (String × Float) :=
  [("start_x", given.first.1), ("start_y", given.first.2), ("end_x", given.last.1),
    ("end_y", given.last.2)]

/-- Whether the arguments of a request are read as the numbers of a spline. -/
structure ReadFrom (given : SplineNumbers)
    (poles weights knots multiplicities degree periodic start finish : Value) : Prop where
  poles : poles.Lists Value.IsPair given.poles
  weights : weights.Lists Value.IsReal given.weights
  knots : knots.Lists Value.IsReal given.knots
  multiplicities : multiplicities.toIntegers = .ok given.multiplicities
  degree : degree.toInteger = .ok given.degree
  periodic : periodic.truth = .ok given.periodic
  start : start.IsPair? given.start
  finish : finish.IsPair? given.finish

/-- Whether the slots of a spline have given numbers in a store. -/
structure HeldBy (given : SplineNumbers) (store : Store) (spline : Spline) : Prop where
  poles : List.Forall₂
    (fun p pole => store.valueAt p.x = .ok pole.1 ∧ store.valueAt p.y = .ok pole.2)
    spline.poles given.poles
  weights : List.Forall₂ (fun slot x => store.valueAt slot = .ok x) spline.weights given.weights
  knots : List.Forall₂ (fun slot x => store.valueAt slot = .ok x) spline.knots given.knots
  start : store.valueAt spline.start.x = .ok given.first.1 ∧
    store.valueAt spline.start.y = .ok given.first.2
  finish : store.valueAt spline.finish.x = .ok given.last.1 ∧
    store.valueAt spline.finish.y = .ok given.last.2
  multiplicities : spline.multiplicities = given.multiplicities
  degree : spline.degree = given.degree
  periodic : spline.periodic = given.periodic

end SplineNumbers

section Pieces

variable {α β γ δ : Type} {related : α → β → Prop}

/-- Two lists in two pieces, of which the first are as long as each other, are related member by
member only if the pieces are. -/
theorem forall₂_of_append {front rest : List α} {front' rest' : List β}
    (same : front.length = front'.length)
    (whole : List.Forall₂ related (front ++ rest) (front' ++ rest')) :
    List.Forall₂ related front front' ∧ List.Forall₂ related rest rest' := by
  induction front generalizing front' with
  | nil =>
    cases front' with
    | nil => exact ⟨.nil, whole⟩
    | cons => cases same
  | cons member front ih =>
    cases front' with
    | nil => cases same
    | cons member' front' =>
      cases whole with
      | cons here later =>
        obtain ⟨fronts, rests⟩ := ih (Nat.succ.inj same) later
        exact ⟨.cons here fronts, rests⟩

/-- Lists of pairs that are related when they are laid out are related pair by pair. -/
theorem forall₂_of_flatMap_pair (one two : γ → α) (one' two' : δ → β) {pairs : List γ}
    {pairs' : List δ} (same : pairs.length = pairs'.length)
    (laid : List.Forall₂ related (pairs.flatMap fun pair => [one pair, two pair])
      (pairs'.flatMap fun pair => [one' pair, two' pair])) :
    List.Forall₂ (fun pair pair' =>
      related (one pair) (one' pair') ∧ related (two pair) (two' pair')) pairs pairs' := by
  induction pairs generalizing pairs' with
  | nil =>
    cases pairs' with
    | nil => exact .nil
    | cons => cases same
  | cons pair pairs ih =>
    cases pairs' with
    | nil => cases same
    | cons pair' pairs' =>
      rw [List.flatMap_cons, List.flatMap_cons] at laid
      cases laid with
      | cons first later =>
        cases later with
        | cons second later => exact .cons ⟨first, second⟩ (ih (Nat.succ.inj same) later)

/-- The ends of related lists are related. -/
theorem forall₂_ends {members : List α} {members' : List β}
    (whole : List.Forall₂ related members members') (some : members ≠ []) (some' : members' ≠ []) :
    related (members.head some) (members'.head some') ∧
      related (members.getLast some) (members'.getLast some') := by
  induction whole with
  | nil => exact absurd rfl some
  | cons first later ih =>
    refine ⟨first, ?_⟩
    cases later with
    | nil => exact first
    | cons => exact (ih (by simp) (by simp)).2

end Pieces

/-- A spline whose whole block has given numbers has each of them in its place. -/
theorem SplineNumbers.heldBy_of_block {given : SplineNumbers} {store : Store} {spline : Spline}
    (shaped : spline.shape = ⟨given.poles.length, given.weights.length, given.knots.length⟩)
    (block : List.Forall₂ (fun slot x => store.valueAt slot = .ok x) spline.block given.values)
    (multiplicities : spline.multiplicities = given.multiplicities)
    (degree : spline.degree = given.degree) (periodic : spline.periodic = given.periodic) :
    given.HeldBy store spline := by
  have poles : spline.poles.length = given.poles.length :=
    Int.ofNat.inj (congrArg SplineShape.poles shaped)
  have weights : spline.weights.length = given.weights.length :=
    Int.ofNat.inj (congrArg SplineShape.weights shaped)
  have knots : spline.knots.length = given.knots.length :=
    Int.ofNat.inj (congrArg SplineShape.knots shaped)
  unfold Spline.block values at block
  rw [List.append_assoc] at block
  have laid : (spline.poles.flatMap Point.indices).length =
      (given.poles.flatMap fun pole => [pole.1, pole.2]).length := by
    simp [List.length_flatMap, Point.indices, poles]
  obtain ⟨block, ends⟩ := forall₂_of_append (by simp [laid, weights, knots]) block
  obtain ⟨block, knotted⟩ := forall₂_of_append (by simp [laid, weights]) block
  obtain ⟨placed, weighed⟩ := forall₂_of_append laid block
  simp only [Point.indices, List.cons_append, List.nil_append, List.forall₂_cons] at ends
  obtain ⟨startX, startY, finishX, finishY, -⟩ := ends
  exact
    { poles := forall₂_of_flatMap_pair Point.x Point.y Prod.fst Prod.snd poles placed
      weights := weighed
      knots := knotted
      start := ⟨startX, startY⟩
      finish := ⟨finishX, finishY⟩
      multiplicities, degree, periodic }

/-- Two values are read as the numbers of a pair. -/
def ReadsPair (values : Value × Value) (pair : Float × Float) : Prop :=
  values.1.IsReal pair.1 ∧ values.2.IsReal pair.2

/-- What is read as a pair has two items. -/
theorem Value.IsPair.opened {value : Value} {pair : Float × Float} (read : value.IsPair pair) :
    ∃ row values, value.toItems = .ok row ∧ checkPair row = .ok values ∧ ReadsPair values pair := by
  obtain ⟨x, y, opened, first, second⟩ := read
  exact ⟨[x, y], (x, y), opened, rfl, first, second⟩

/-- Items that are read as pairs all have two items. -/
theorem pairs_opened {items : List Value} {pairs : List (Float × Float)}
    (read : List.Forall₂ Value.IsPair items pairs) :
    ∃ rows values, items.mapM Value.toItems = .ok rows ∧ rows.mapM checkPair = .ok values ∧
      List.Forall₂ ReadsPair values pairs := by
  simp only [mapM_eq_ok]
  induction read with
  | nil => exact ⟨[], [], .nil, .nil, .nil⟩
  | cons first _ ih =>
    obtain ⟨row, value, opened, counted, reads⟩ := first.opened
    obtain ⟨rows, values, others, counts, later⟩ := ih
    exact ⟨row :: rows, value :: values, .cons opened others, .cons counted counts,
      .cons reads later⟩

/-- An end of a spline: what is given, or the item of the poles that is chosen instead. -/
def givenEnd (poles value : Value) (choose : List Value → Option Value) : Except Fault Value :=
  match value with
  | .none => endItem poles choose
  | value => .ok value

/-- The coordinates of a spline are found step by step from the poles and the two ends. -/
theorem splineCoordinates_eq (poles start finish : Value) :
    splineCoordinates poles start finish = (do
      let start ← givenEnd poles start List.head?
      let finish ← givenEnd poles finish List.getLast?
      let rows ← (← poles.toItems).mapM Value.toItems
      let start ← start.toItems
      let finish ← finish.toItems
      .ok ⟨← rows.mapM checkPair, ← checkPair start, ← checkPair finish⟩) := by
  unfold splineCoordinates
  cases start <;> cases finish <;> rfl

/-- An end that is given is read as its pair, and one that is left out as the pair of an item of the
poles. -/
theorem givenEnd_eq_ok {value poles : Value} {choose : List Value → Option Value}
    {given : Option (Float × Float)} {pole : Float × Float} {items : List Value} {item : Value}
    (read : value.IsPair? given) (listed : ∀ entries, poles ≠ .record entries)
    (opened : poles.toItems = .ok items) (chosen : choose items = some item)
    (placed : item.IsPair pole) :
    ∃ found, givenEnd poles value choose = .ok found ∧ found.IsPair (given.getD pole) := by
  cases given with
  | none =>
    have absent : value = .none := read
    subst absent
    refine ⟨item, ?_, placed⟩
    unfold givenEnd endItem
    dsimp only
    split
    · exact absurd rfl (listed _)
    · rw [opened, ok_bind, chosen]
  | some pair =>
    have read : value.IsPair pair := read
    refine ⟨value, ?_, read⟩
    unfold givenEnd
    split
    · obtain ⟨_, _, opened, -⟩ := read
      cases opened
    · rfl

namespace SplineNumbers

variable {given : SplineNumbers}
  {poles weights knots multiplicities degree periodic start finish : Value}

/-- The coordinates of a spline are read as those that were given. -/
theorem ReadFrom.coordinates
    (read : given.ReadFrom poles weights knots multiplicities degree periodic start finish) :
    ∃ coordinates, splineCoordinates poles start finish = .ok coordinates ∧
      List.Forall₂ ReadsPair coordinates.poles given.poles ∧
      ReadsPair coordinates.start given.first ∧ ReadsPair coordinates.finish given.last := by
  obtain ⟨listed, items, opened, pairs⟩ := read.poles
  obtain ⟨rows, values, rowsOpened, rowsCounted, placed⟩ := pairs_opened pairs
  have some : items ≠ [] := fun none => given.poles_ne_nil (by
    rw [none] at pairs
    exact List.forall₂_nil_left_iff.mp pairs)
  obtain ⟨headPlaced, lastPlaced⟩ := forall₂_ends pairs some given.poles_ne_nil
  obtain ⟨first, firstChosen, firstPair⟩ :=
    givenEnd_eq_ok read.start listed opened (List.head?_eq_some_head some) headPlaced
  obtain ⟨last, lastChosen, lastPair⟩ :=
    givenEnd_eq_ok read.finish listed opened (List.getLast?_eq_some_getLast some) lastPlaced
  obtain ⟨firstRow, firstValues, firstOpened, firstCounted, firstReads⟩ := firstPair.opened
  obtain ⟨lastRow, lastValues, lastOpened, lastCounted, lastReads⟩ := lastPair.opened
  refine ⟨⟨values, firstValues, lastValues⟩, ?_, placed, firstReads, lastReads⟩
  rw [splineCoordinates_eq, firstChosen, ok_bind, lastChosen, ok_bind, opened, ok_bind, rowsOpened,
    ok_bind, firstOpened, ok_bind, lastOpened, ok_bind, rowsCounted, ok_bind, firstCounted,
    ok_bind, lastCounted, ok_bind]

/-- All values of a spline's block are read as the numbers that were given. -/
theorem reads_values {coordinates : SplineCoordinates} {weightItems knotItems : List Value}
    (poles : List.Forall₂ ReadsPair coordinates.poles given.poles)
    (weights : List.Forall₂ Value.IsReal weightItems given.weights)
    (knots : List.Forall₂ Value.IsReal knotItems given.knots)
    (start : ReadsPair coordinates.start given.first)
    (finish : ReadsPair coordinates.finish given.last) :
    List.Forall₂ Value.IsReal (coordinates.values weightItems knotItems) given.values := by
  have placed : List.Forall₂ Value.IsReal
      (coordinates.poles.flatMap fun pole => [pole.1, pole.2])
      (given.poles.flatMap fun pole => [pole.1, pole.2]) :=
    List.rel_flatMap poles fun _ _ reads => .cons reads.1 (.cons reads.2 .nil)
  have ends : List.Forall₂ Value.IsReal
      [coordinates.start.1, coordinates.start.2, coordinates.finish.1, coordinates.finish.2]
      [given.first.1, given.first.2, given.last.1, given.last.2] :=
    .cons start.1 (.cons start.2 (.cons finish.1 (.cons finish.2 .nil)))
  exact List.rel_append (List.rel_append (List.rel_append placed weights) knots) ends

/-- A spline whose arguments are read is read as its numbers. -/
theorem ReadFrom.readSpline
    (read : given.ReadFrom poles weights knots multiplicities degree periodic start finish)
    {fixed tag : Value} {held : Bool} {number : Int} (flagged : fixed.truth = .ok held)
    (stored : Store.storedTag tag = .ok number) :
    ∃ reading, readSpline poles weights knots multiplicities degree start finish fixed tag =
        .ok reading ∧
      reading.reals = given.values ∧ reading.fixed = held ∧ reading.tag = number ∧
      reading.coordinates.poles.length = given.poles.length ∧
      reading.weights.length = given.weights.length ∧
      reading.knots.length = given.knots.length := by
  obtain ⟨coordinates, found, placed, first, last⟩ := read.coordinates
  obtain ⟨-, poleItems, polesOpened, poleReads⟩ := read.poles
  obtain ⟨-, weightItems, weightsOpened, weighed⟩ := read.weights
  obtain ⟨-, knotItems, knotsOpened, knotted⟩ := read.knots
  obtain ⟨multiplicityItems, multiplicitiesOpened, repeated⟩ :=
    bind_eq_ok.mp read.multiplicities
  have poleCount : poleItems.length = given.poles.length := poleReads.length_eq
  have weightCount : weightItems.length = given.weights.length := weighed.length_eq
  have knotCount : knotItems.length = given.knots.length := knotted.length_eq
  have multiplicityCount : multiplicityItems.length = given.multiplicities.length :=
    (mapM_eq_ok.mp repeated).length_eq
  have counted : checkSplineCounts poleItems.length weightItems.length knotItems.length
      multiplicityItems.length degree = .ok given.degree := by
    rw [poleCount, weightCount, knotCount, multiplicityCount]
    exact checkSplineCounts_eq_ok.mpr
      ⟨given.enough, given.weighed, given.repeated, read.degree, given.positive⟩
  have numbers : (coordinates.values weightItems knotItems).mapM Store.finiteReal =
      .ok given.values :=
    mapM_eq_ok.mpr (reads_values placed weighed knotted first last)
  refine ⟨⟨coordinates, weightItems, knotItems, given.values, held, number⟩, ?_, rfl, rfl, rfl,
    placed.length_eq, weightCount, knotCount⟩
  unfold Drafting.readSpline
  rw [Value.count_of_toItems polesOpened, ok_bind, Value.count_of_toItems weightsOpened, ok_bind,
    Value.count_of_toItems knotsOpened, ok_bind, Value.count_of_toItems multiplicitiesOpened,
    ok_bind, counted, ok_bind, found, ok_bind, weightsOpened, ok_bind, knotsOpened, ok_bind,
    numbers, ok_bind, flagged, ok_bind, stored, ok_bind]

end SplineNumbers

/-- The slots of a block that is appended have the values that were appended. -/
theorem Store.valueAt_append (store : Store) (values : List Float) (fixed : Bool) (tag : Int) :
    List.Forall₂ (fun slot x => (store.append values fixed tag).2.valueAt slot = .ok x)
      ((List.range' store.size values.length).map Int.ofNat) values := by
  rw [List.forall₂_map_left_iff, List.forall₂_iff_get]
  refine ⟨List.length_range', fun place inside inside' => ?_⟩
  rw [List.get_eq_getElem, List.get_eq_getElem, List.getElem_range', Nat.one_mul]
  have there : (store.append values fixed tag).2.slots[store.size + place]? =
      some ⟨values[place], fixed, tag, false⟩ := by
    unfold append size
    rw [Array.getElem?_append_right (Nat.le_add_right ..), Nat.add_sub_cancel_left,
      List.getElem?_toArray, List.getElem?_map, List.getElem?_eq_getElem inside']
    rfl
  unfold valueAt slotAt
  rw [show (Int.ofNat (store.size + place)).toNat = store.size + place from rfl, there]
  rfl

/-- What is appended leaves the slots that were there before. -/
theorem Store.slots_append_before (store : Store) (values : List Float) (fixed : Bool) (tag : Int)
    {place : Nat} (before : place < store.size) :
    (store.append values fixed tag).2.slots[place]? = store.slots[place]? := by
  unfold append
  exact Array.getElem?_append_left before

/-- The value of a property is that of the slot found under it. -/
theorem Session.outcome_valueOf {sketch : Sketch} {id : Int} {entry : GeometryEntry}
    {name : String} {slot : Int} (registered : sketch.table.find? id = some entry)
    (found : propertyIndex entry.view (.text name) .none = .ok slot) :
    (valueOf (.int id) (.text name)).outcome sketch = (sketch.store.valueAt slot, sketch) := by
  unfold valueOf
  rw [outcome_bind, outcome_geometry_found registered]
  dsimp only
  rw [outcome_liftM_bind, found]
  dsimp only
  rw [outcome_get_bind, outcome_liftM]

/-- The spline with given numbers over the block that comes next in a store. -/
def SplineNumbers.placed (given : SplineNumbers) (store : Store) : Spline :=
  placedSpline store.binding (List.range' store.size given.values.length) given.poles.length
    given.weights.length given.knots.length given.multiplicities given.degree given.periodic

section Placed

variable (given : SplineNumbers) (store : Store)

/-- The numbers of a spline are as many as its counts ask for. -/
theorem SplineNumbers.length_values : given.values.length =
    2 * given.poles.length + given.weights.length + given.knots.length + 4 := by
  simp [values, List.length_flatMap, Nat.mul_comm, Nat.add_assoc]

/-- The counts of the spline are those of the numbers that were given. -/
theorem SplineNumbers.shape_placed : (given.placed store).shape =
    ⟨given.poles.length, given.weights.length, given.knots.length⟩ := by
  have full := given.length_values
  have weights : (given.placed store).weights = _ := blockSlots_range' (by omega)
  have knots : (given.placed store).knots = _ := blockSlots_range' (by omega)
  unfold Spline.shape
  rw [weights, knots]
  simp [placed, placedSpline]

/-- The block that the spline needs is as long as the numbers that were given. -/
theorem SplineNumbers.blockSize_placed :
    (given.placed store).shape.blockSize = given.values.length := by
  rw [shape_placed, length_values]
  unfold SplineShape.blockSize
  push_cast
  rfl

/-- The block of the spline comes next in the store. -/
theorem SplineNumbers.block_placed :
    (given.placed store).block = (List.range' store.size given.values.length).map Int.ofNat :=
  block_placedSpline given.length_values

/-- Once the numbers are appended, the spline has them. -/
theorem SplineNumbers.heldBy_placed (fixed : Bool) (tag : Int) :
    given.HeldBy (store.append given.values fixed tag).2 (given.placed store) := by
  refine heldBy_of_block (given.shape_placed store) ?_ rfl rfl rfl
  rw [block_placed]
  exact store.valueAt_append given.values fixed tag

end Placed

/-- The coordinates of the ends are found under their names. -/
theorem SplineNumbers.HeldBy.ends {given : SplineNumbers} {store : Store} {spline : Spline}
    (held : given.HeldBy store spline) (binding : Option Binding) {name : String} {x : Float}
    (named : (name, x) ∈ given.ends) :
    ∃ slot, propertyIndex ⟨.bspline spline, binding⟩ (.text name) .none = .ok slot ∧
      store.valueAt slot = .ok x := by
  have even : (Figure.bspline spline).EvenlyWeighted :=
    held.weights.length_eq.trans (given.weighed.trans held.poles.length_eq.symm)
  have found {name : String} {slot : Int} (known : name ∈ GeometryKind.bspline.properties)
      (kept : (Figure.bspline spline).field? name = some slot) :
      propertyIndex ⟨.bspline spline, binding⟩ (.text name) .none = .ok slot := by
    obtain ⟨other, answered, same⟩ :=
      @propertyIndex_name ⟨.bspline spline, binding⟩ .none even (.inl rfl) name known
    rw [answered, Option.some.inj (same.symm.trans kept)]
  simp only [SplineNumbers.ends, List.mem_cons, Prod.mk.injEq, List.not_mem_nil, or_false] at named
  rcases named with ⟨rfl, rfl⟩ | ⟨rfl, rfl⟩ | ⟨rfl, rfl⟩ | ⟨rfl, rfl⟩
  · exact ⟨_, found (by decide) rfl, held.start.1⟩
  · exact ⟨_, found (by decide) rfl, held.start.2⟩
  · exact ⟨_, found (by decide) rfl, held.finish.1⟩
  · exact ⟨_, found (by decide) rfl, held.finish.2⟩

/-- A spline whose arguments are read as its numbers is registered under the next identifier, over
the slots that are appended for these numbers. -/
theorem SplineNumbers.ReadFrom.outcome_addSpline {sketch : Sketch} (ready : sketch.Ready)
    {given : SplineNumbers}
    {poles weights knots multiplicities degree periodic start finish : Value}
    (read : given.ReadFrom poles weights knots multiplicities degree periodic start finish)
    {fixed : Value} {held : Bool} (flagged : fixed.truth = .ok held) {tag : Int}
    (stored : Store.storedTag (.int tag) = .ok tag) :
    ∃ after,
      (Session.addSpline poles weights knots multiplicities degree periodic start finish fixed
        (.int tag)).outcome sketch = (.ok sketch.table.nextId, after) ∧
      after.store = (sketch.store.append given.values held tag).2 ∧
      after.table.entries = sketch.table.entries ++
        [⟨sketch.table.nextId, ⟨.bspline (given.placed sketch.store), some sketch.store.binding⟩,
          tag⟩] := by
  obtain ⟨reading, found, reals, flag, number, poleCount, weightCount, knotCount⟩ :=
    read.readSpline flagged stored
  obtain ⟨enough, full, -, -⟩ := readSpline_eq_ok found
  have grown : sketch.store.size + reading.reals.length ≤ (sketch.withBlock reading).store.size :=
    Nat.le_of_eq (Store.size_append ..).symm
  obtain ⟨after, registered, store, entries⟩ := Session.outcome_splineFigure_new ready enough full
    given.multiplicities given.degree given.periodic tag
  have outcome := Session.outcome_addSpline poles weights knots multiplicities degree periodic start
    finish fixed (.int tag) sketch
  rw [found] at outcome
  dsimp only at outcome
  rw [Session.outcome_drawSpline full grown read.degree, read.multiplicities, read.periodic]
    at outcome
  refine ⟨after, outcome.trans registered, ?_, ?_⟩
  · rw [store, Sketch.withBlock, reals, flag, number]
  · rw [entries, reals, poleCount, weightCount, knotCount]
    rfl

/-- A spline whose arguments are read as its numbers is added: it gets one block of new slots at the
end of the store, of the size that its counts ask for, and these are its own slots in ascending
order. Its poles, weights, knots and ends have the numbers that were given, an end that was left out
those of the outermost pole, and under the names of their coordinates the ends are answered so. -/
theorem addSpline_reads_back {sketch : Sketch} (reached : sketch.Reached .all)
    {given : SplineNumbers}
    {poles weights knots multiplicities degree periodic start finish : Value}
    (read : given.ReadFrom poles weights knots multiplicities degree periodic start finish)
    {fixed : Value} {held : Bool} (flagged : fixed.truth = .ok held) {tag : Int}
    (stored : Store.storedTag (.int tag) = .ok tag) :
    ∃ spline after,
      (Session.addSpline poles weights knots multiplicities degree periodic start finish fixed
        (.int tag)).outcome sketch = (.ok sketch.table.nextId, after) ∧
      (Session.geometry (.int sketch.table.nextId)).outcome after =
        (.ok ⟨.bspline spline, some after.store.binding⟩, after) ∧
      spline.shape = ⟨given.poles.length, given.weights.length, given.knots.length⟩ ∧
      (after.store.size : Int) = sketch.store.size + spline.shape.blockSize ∧
      (∀ place < sketch.store.size, after.store.slots[place]? = sketch.store.slots[place]?) ∧
      (Figure.bspline spline).ownIndices =
        (List.range' sketch.store.size spline.shape.blockSize.toNat).map Int.ofNat ∧
      given.HeldBy after.store spline ∧
      ∀ name x, (name, x) ∈ given.ends →
        (Session.valueOf (.int sketch.table.nextId) (.text name)).outcome after =
          (.ok x, after) := by
  have ready := reached.ready
  obtain ⟨after, added, store, entries⟩ := read.outcome_addSpline ready flagged stored
  have found : after.table.find? sketch.table.nextId = some ⟨sketch.table.nextId,
      ⟨.bspline (given.placed sketch.store), some sketch.store.binding⟩, tag⟩ := by
    have ascending : after.table.entries.Pairwise (·.id < ·.id) := by
      rw [entries]
      exact pairwise_append_last ready.entriesAscend ready.entries
    have last : _ ∈ after.table.entries :=
      entries ▸ List.mem_append_right _ (List.mem_singleton_self _)
    exact find?_of_ascending ascending last
  have holds : given.HeldBy after.store (given.placed sketch.store) := by
    rw [store]
    exact given.heldBy_placed sketch.store held tag
  refine ⟨given.placed sketch.store, after, added, ?_, given.shape_placed sketch.store, ?_,
    fun place before => ?_, ?_, holds, fun name x named => ?_⟩
  · rw [Session.outcome_geometry_found found, store]
    rfl
  · rw [store, Store.size_append, SplineNumbers.blockSize_placed]
    push_cast
    rfl
  · rw [store]
    exact sketch.store.slots_append_before given.values held tag before
  · rw [SplineNumbers.blockSize_placed, Int.toNat_natCast]
    exact given.block_placed sketch.store
  · obtain ⟨slot, index, value⟩ := holds.ends (some sketch.store.binding) named
    rw [Session.outcome_valueOf found index, value]

/-- The numbers of an open spline from the origin, whose end is given and whose start is left
out. -/
def openSpline : SplineNumbers where
  poles := [(0.0, 0.0), (1.0, 2.0)]
  weights := [1.0, 1.0]
  knots := [0.5]
  multiplicities := [2]
  degree := 1
  periodic := false
  start := none
  finish := some (3.0, 4.0)
  enough := by decide
  weighed := rfl
  repeated := rfl
  positive := by decide

/-- Added to an empty sketch, the open spline starts at its first pole and ends where it was told
to, over eleven slots. -/
theorem addSpline_reads_back_openSpline :
    (Sketch.start 0 .standard .silent).Reached .all ∧
      ∃ after,
        (Session.addSpline
          (.list [.list [.float 0.0, .float 0.0], .list [.float 1.0, .float 2.0]])
          (.list [.float 1.0, .float 1.0]) (.list [.float 0.5]) (.list [.int 2]) (.int 1)
          (.bool false) .none (.list [.float 3.0, .float 4.0]) (.bool false) (.int 0)).outcome
            (Sketch.start 0 .standard .silent) = (.ok 0, after) ∧
          (after.store.size : Int) = 11 ∧
          (Session.valueOf (.int 0) (.text "start_x")).outcome after = (.ok 0.0, after) ∧
          (Session.valueOf (.int 0) (.text "end_y")).outcome after = (.ok 4.0, after) := by
  have reached := Sketch.reached_start .all 0 .standard .silent
  have read : openSpline.ReadFrom
      (.list [.list [.float 0.0, .float 0.0], .list [.float 1.0, .float 2.0]])
      (.list [.float 1.0, .float 1.0]) (.list [.float 0.5]) (.list [.int 2]) (.int 1)
      (.bool false) .none (.list [.float 3.0, .float 4.0]) :=
    { poles := ⟨nofun, _, rfl, .cons ⟨_, _, rfl, rfl, rfl⟩ (.cons ⟨_, _, rfl, rfl, rfl⟩ .nil)⟩
      weights := ⟨nofun, _, rfl, .cons rfl (.cons rfl .nil)⟩
      knots := ⟨nofun, _, rfl, .cons rfl .nil⟩
      multiplicities := rfl
      degree := rfl
      periodic := rfl
      start := rfl
      finish := ⟨_, _, rfl, rfl, rfl⟩ }
  obtain ⟨spline, after, added, -, shaped, grown, -, -, -, ends⟩ :=
    @addSpline_reads_back _ reached _ _ _ _ _ _ _ _ _ read (.bool false) false rfl 0 rfl
  rw [shaped] at grown
  refine ⟨reached, after, added, grown, ?_, ?_⟩
  · exact ends "start_x" 0.0 (.head _)
  · exact ends "end_y" 4.0 (.tail _ (.tail _ (.tail _ (.head _))))

end Drafting
