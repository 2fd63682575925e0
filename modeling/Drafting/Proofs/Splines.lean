import Drafting.Proofs.Drawing
import Drafting.Proofs.Readiness

/-!
# What a refused spline leaves behind

All of a spline's arguments but two are read before its block is allocated: the counts, the degree,
the coordinates, the weights and knots, the flag and the tag. Whatever is refused there leaves the
sketch as it was. The knot multiplicities and the truth value that makes a spline periodic are read
after that. If one of them is refused, the block stays behind as free or fixed slots that belong to
no geometry. Nothing else can be refused: what is drawn over a new block always is registered.
-/

namespace Drafting

/-- What is read of a spline before its block is allocated. -/
structure SplineReading where
  coordinates : SplineCoordinates
  weights : List Value
  knots : List Value
  reals : List Float
  fixed : Bool
  tag : Int

/-- All that is checked of a spline before its block is allocated. -/
def readSpline (poles weights knots multiplicities degree start finish fixed tag : Value) :
    Except Fault SplineReading := do
  let _ ←
    checkSplineCounts (← poles.count) (← weights.count) (← knots.count) (← multiplicities.count)
      degree
  let coordinates ← splineCoordinates poles start finish
  let weights ← weights.toItems
  let knots ← knots.toItems
  let reals ← (coordinates.values weights knots).mapM Store.finiteReal
  let fixed ← fixed.truth
  let tag ← Store.storedTag tag
  .ok { coordinates, weights, knots, reals, fixed, tag }

/-- A spline has as many poles as the sequence that gives them has items. -/
theorem count_poles {poles start finish : Value} {coordinates : SplineCoordinates}
    (read : splineCoordinates poles start finish = .ok coordinates) :
    poles.count = .ok coordinates.poles.length := by
  -- Where the ends come from does not matter.
  have counted (start finish : Value) (read : (do
      let items ← poles.toItems
      let rows ← items.mapM Value.toItems
      let start ← start.toItems
      let finish ← finish.toItems
      .ok ⟨← rows.mapM checkPair, ← checkPair start, ← checkPair finish⟩ :
        Except Fault SplineCoordinates) = .ok coordinates) :
      ∃ items, poles.toItems = .ok items ∧ items.length = coordinates.poles.length := by
    obtain ⟨items, given, read⟩ := bind_eq_ok.mp read
    obtain ⟨rows, opened, read⟩ := bind_eq_ok.mp read
    obtain ⟨_, -, read⟩ := bind_eq_ok.mp read
    obtain ⟨_, -, read⟩ := bind_eq_ok.mp read
    obtain ⟨pairs, paired, read⟩ := bind_eq_ok.mp read
    obtain ⟨_, -, read⟩ := bind_eq_ok.mp read
    obtain ⟨_, -, read⟩ := bind_eq_ok.mp read
    cases read
    exact ⟨items, given, (mapM_eq_ok.mp opened).length_eq.trans (mapM_eq_ok.mp paired).length_eq⟩
  have found : ∃ items, poles.toItems = .ok items ∧ items.length = coordinates.poles.length := by
    unfold splineCoordinates at read
    split at read <;> split at read <;>
      obtain ⟨first, -, read⟩ := bind_eq_ok.mp read <;>
      obtain ⟨last, -, read⟩ := bind_eq_ok.mp read <;>
      exact counted first last read
  obtain ⟨items, given, count⟩ := found
  rw [← count]
  exact Value.count_of_toItems given

/-- What is known of a spline that was read: it has two poles at least, one number for each slot of
its block, and a degree. -/
theorem readSpline_eq_ok
    {poles weights knots multiplicities degree start finish fixed tag : Value}
    {reading : SplineReading}
    (read : readSpline poles weights knots multiplicities degree start finish fixed tag =
      .ok reading) :
    2 ≤ reading.coordinates.poles.length ∧
      reading.reals.length = 2 * reading.coordinates.poles.length + reading.weights.length +
        reading.knots.length + 4 ∧
      (∃ number, degree.toInteger = .ok number) ∧ Store.storedTag tag = .ok reading.tag := by
  obtain ⟨poleCount, counted, read⟩ := bind_eq_ok.mp read
  obtain ⟨_, -, read⟩ := bind_eq_ok.mp read
  obtain ⟨_, -, read⟩ := bind_eq_ok.mp read
  obtain ⟨_, -, read⟩ := bind_eq_ok.mp read
  obtain ⟨number, checked, read⟩ := bind_eq_ok.mp read
  obtain ⟨coordinates, opened, read⟩ := bind_eq_ok.mp read
  obtain ⟨weights, -, read⟩ := bind_eq_ok.mp read
  obtain ⟨knots, -, read⟩ := bind_eq_ok.mp read
  obtain ⟨reals, numbers, read⟩ := bind_eq_ok.mp read
  obtain ⟨_, -, read⟩ := bind_eq_ok.mp read
  obtain ⟨tag, stored, read⟩ := bind_eq_ok.mp read
  cases read
  obtain ⟨enough, -, -, integer, -⟩ := checkSplineCounts_eq_ok.mp checked
  have same : coordinates.poles.length = poleCount :=
    Except.ok.inj ((count_poles opened).symm.trans counted)
  refine ⟨?_, ?_, ⟨number, integer⟩, stored⟩
  · show 2 ≤ coordinates.poles.length
    rw [same]
    exact enough
  · exact (mapM_eq_ok.mp numbers).length_eq.symm.trans (coordinates.length_values weights knots)

/-- A point over two slots of a block, bound in a store. -/
def placedPoint (binding : Binding) (block : List Nat) (place : Nat) : Point :=
  ⟨Session.blockSlot block place, Session.blockSlot block (place + 1), some binding⟩

/-- The spline over a block: its poles, weights and knots one after the other, then its ends. -/
def placedSpline (binding : Binding) (block : List Nat) (count weights knots : Nat)
    (multiplicities : List Int) (degree : Int) (periodic : Bool) : Spline where
  start := placedPoint binding block (2 * count + weights + knots)
  finish := placedPoint binding block (2 * count + weights + knots + 2)
  poles := (List.range count).map fun i => placedPoint binding block (2 * i)
  weights := Session.blockSlots block (2 * count) weights
  knots := Session.blockSlots block (2 * count + weights) knots
  multiplicities
  degree
  periodic

/-- The rules of a spline's ends can be stated of every spline that has poles. -/
theorem relation?_splineEndRules {spline : Spline} (binding : Option Binding)
    (poles : spline.poles ≠ []) :
    ∃ relation, BuiltinKind.splineEndRules.relation? [.view ⟨.bspline spline, binding⟩] =
      some relation := by
  have ends : (Operand.view ⟨.bspline spline, binding⟩).splineEnds? =
      some ⟨spline.start.slots, spline.finish.slots, (spline.poles.head poles).slots,
        (spline.poles.getLast poles).slots⟩ := by
    unfold Operand.splineEnds? Operand.figure?
    dsimp only
    rw [List.head?_eq_some_head poles, List.getLast?_eq_some_getLast poles]
  have stated : BuiltinKind.splineEndRules.relation? [.view ⟨.bspline spline, binding⟩] =
      (Operand.view ⟨.bspline spline, binding⟩).splineEnds?.bind fun ends =>
        some (.splineEndRules ends) := rfl
  exact ⟨_, stated.trans (by rw [ends]; rfl)⟩

section Placed

variable {binding : Binding} {first size count weights knots : Nat} {multiplicities : List Int}
  {degree : Int} {periodic : Bool}

/-- The spline over a block of new slots has that block. -/
theorem block_placedSpline (full : size = 2 * count + weights + knots + 4) :
    (placedSpline binding (List.range' first size) count weights knots multiplicities degree
      periodic).block = (List.range' first size).map Int.ofNat := by
  refine block_placed full ?_ rfl rfl rfl rfl
  show List.Forall₂ _ _ (List.map _ _)
  rw [List.forall₂_map_right_iff]
  exact List.forall₂_same.mpr fun i _ => ⟨rfl, rfl⟩

/-- The spline over a block of slots that exist is accepted by the store it was bound in. -/
theorem bind_placedSpline {store : Store} (full : size = 2 * count + weights + knots + 4)
    (existing : first + size ≤ store.size) :
    store.bind (.bspline (placedSpline store.binding (List.range' first size) count weights knots
        multiplicities degree periodic)) =
      .ok ⟨.bspline (placedSpline store.binding (List.range' first size) count weights knots
        multiplicities degree periodic), some store.binding⟩ := by
  refine Store.bind_eq_ok_iff.mpr ⟨fun part there => ?_, fun index there => ?_, rfl⟩
  · obtain ⟨p, among, rfl⟩ := List.mem_map.mp there
    have bound : p.binding = some store.binding := by
      rcases List.mem_cons.mp among with rfl | among
      · rfl
      rcases List.mem_cons.mp among with rfl | among
      · rfl
      obtain ⟨i, -, rfl⟩ := List.mem_map.mp among
      rfl
    unfold Store.checkPart Point.toView
    rw [bound]
    exact if_pos rfl
  · have own : index ∈ (List.range' first size).map Int.ofNat := by
      rw [← block_placedSpline full]
      exact there
    obtain ⟨slot, new, rfl⟩ := List.mem_map.mp own
    have bounds := List.mem_range'_1.mp new
    exact ⟨Int.natCast_nonneg slot, Int.ofNat_lt.mpr (Nat.lt_of_lt_of_le bounds.2 existing)⟩

end Placed

/-- The sketch with the block of a spline that was read, and nothing over it. -/
def Sketch.withBlock (sketch : Sketch) (reading : SplineReading) : Sketch :=
  { sketch with store := (sketch.store.append reading.reals reading.fixed reading.tag).2 }

namespace Session

variable {α β : Type} {sketch : Sketch}

/-- A check that knows no sketch, with what follows it. -/
theorem outcome_check_bind (check : Except Fault α) (next : Unit → Session β) (sketch : Sketch) :
    (discard (liftM check : Session α) >>= next).outcome sketch =
      match check with
      | .ok _ => (next ()).outcome sketch
      | .error fault => (.error fault, sketch) := by
  rw [outcome_discard_bind, outcome_liftM]
  cases check <;> rfl

/-- Looks at the members of a list that all answer. -/
theorem outcome_mapM_answered {members : List α} {request : α → Session β} {answer : α → β}
    (answers : ∀ member ∈ members,
      (request member).outcome sketch = (.ok (answer member), sketch)) :
    (members.mapM request).outcome sketch = (.ok (members.map answer), sketch) := by
  induction members with
  | nil => rfl
  | cons member rest ih =>
    have others := ih fun later there => answers later (List.mem_cons_of_mem _ there)
    rw [List.mapM_cons, outcome_bind, answers member List.mem_cons_self]
    dsimp only
    rw [outcome_bind, others]
    rfl

/-- A point over two slots that exist is bound. -/
theorem outcome_blockPoint {block : List Nat} {place : Nat}
    (x : InStore sketch.store.size (blockSlot block place))
    (y : InStore sketch.store.size (blockSlot block (place + 1))) :
    (blockPoint block place).outcome sketch =
      (.ok (placedPoint sketch.store.binding block place), sketch) := by
  have existing : ∀ index ∈ (Figure.point (blockSlot block place)
      (blockSlot block (place + 1))).indices, InStore sketch.store.size index := by
    intro index there
    rcases List.mem_cons.mp there with rfl | later
    · exact x
    · rw [List.mem_singleton.mp later]
      exact y
  have bound : sketch.store.bind (.point (blockSlot block place) (blockSlot block (place + 1))) =
      .ok ⟨.point (blockSlot block place) (blockSlot block (place + 1)),
        some sketch.store.binding⟩ :=
    Store.bind_eq_ok_iff.mpr ⟨List.forall_mem_nil _, existing, rfl⟩
  unfold blockPoint Session.bind
  dsimp only
  rw [bind_assoc, outcome_get_bind, outcome_liftM_bind, bound]
  rfl

/-- What is left to do of a spline whose block is allocated. -/
def drawSpline (reading : SplineReading) (block : List Nat)
    (multiplicities degree periodic tag : Value) : Session Nat := do
  let count := reading.coordinates.poles.length
  let poles ← (List.range count).mapM fun i => blockPoint block (2 * i)
  let weightPlace := 2 * count
  let knotPlace := weightPlace + reading.weights.length
  let startPlace := knotPlace + reading.knots.length
  let start ← blockPoint block startPlace
  let finish ← blockPoint block (startPlace + 2)
  let multiplicities ← multiplicities.toIntegers
  let degree ← degree.toInteger
  let periodic ← periodic.truth
  let spline : Spline :=
    { start, finish, poles
      weights := blockSlots block weightPlace reading.weights.length
      knots := blockSlots block knotPlace reading.knots.length
      multiplicities, degree, periodic }
  if periodic then addFigure (.bspline spline) tag
  else addRuled (.bspline spline) "bspline_end_rules" tag

/-- A first step of reading goes before the others, and the rest is done with all that was read. -/
theorem outcome_reading {step : Except Fault α} {next : α → Session Nat}
    {others : α → Except Fault SplineReading} {rest : SplineReading → Except Fault Nat × Sketch}
    (follows : ∀ read, (next read).outcome sketch =
      match others read with
      | .error fault => (.error fault, sketch)
      | .ok reading => rest reading) :
    ((liftM step : Session α) >>= next).outcome sketch =
      match step >>= others with
      | .error fault => (.error fault, sketch)
      | .ok reading => rest reading := by
  rw [outcome_liftM_bind]
  cases step with
  | error fault => rfl
  | ok read => exact follows read

/-- A spline that is refused when it is read changes nothing; else its block is allocated, and the
rest is done over it. -/
theorem outcome_addSpline
    (poles weights knots multiplicities degree periodic start finish fixed tag : Value)
    (sketch : Sketch) :
    (addSpline poles weights knots multiplicities degree periodic start finish fixed tag).outcome
        sketch =
      match readSpline poles weights knots multiplicities degree start finish fixed tag with
      | .error fault => (.error fault, sketch)
      | .ok reading =>
        (drawSpline reading (List.range' sketch.store.size reading.reals.length) multiplicities
          degree periodic tag).outcome (sketch.withBlock reading) := by
  unfold addSpline readSpline
  refine outcome_reading fun poleCount => outcome_reading fun weightCount =>
    outcome_reading fun knotCount => outcome_reading fun multiplicityCount => ?_
  rw [outcome_check_bind]
  cases checkSplineCounts poleCount weightCount knotCount multiplicityCount degree with
  | error fault => rfl
  | ok number =>
  refine outcome_reading fun coordinates => outcome_reading fun weights =>
    outcome_reading fun knots => ?_
  unfold allocateBlock
  rw [outcome_bind, outcome_onStore]
  unfold Store.pushAll
  cases (coordinates.values weights knots).mapM Store.finiteReal with
  | error fault => rfl
  | ok reals =>
  rw [ok_bind, ok_bind]
  cases fixed.truth with
  | error fault => rfl
  | ok fixed =>
  rw [ok_bind, ok_bind]
  cases Store.storedTag tag with
  | error fault => rfl
  | ok tag => rfl

/-- Over a block of slots that exist, only the multiplicities and the truth value that makes a
spline periodic can still be refused before the spline is registered. -/
theorem outcome_drawSpline {reading : SplineReading} {first : Nat} {degree : Value} {number : Int}
    (full : reading.reals.length = 2 * reading.coordinates.poles.length + reading.weights.length +
      reading.knots.length + 4)
    (existing : first + reading.reals.length ≤ sketch.store.size)
    (integer : degree.toInteger = .ok number) (multiplicities periodic tag : Value) :
    (drawSpline reading (List.range' first reading.reals.length) multiplicities degree periodic
        tag).outcome sketch =
      match multiplicities.toIntegers, periodic.truth with
      | .error fault, _ => (.error fault, sketch)
      | .ok _, .error fault => (.error fault, sketch)
      | .ok repeats, .ok closed =>
        let spline := placedSpline sketch.store.binding (List.range' first reading.reals.length)
          reading.coordinates.poles.length reading.weights.length reading.knots.length repeats
            number closed
        (if closed then addFigure (.bspline spline) tag
          else addRuled (.bspline spline) "bspline_end_rules" tag).outcome sketch := by
  have slots (place : Nat) (inside : place < reading.reals.length) :
      InStore sketch.store.size (blockSlot (List.range' first reading.reals.length) place) := by
    rw [blockSlot_range' inside]
    exact ⟨Int.natCast_nonneg _, Int.ofNat_lt.mpr (by omega)⟩
  have poles := @outcome_mapM_answered _ _ sketch (List.range reading.coordinates.poles.length) _ _
    fun i among => by
      have earlier := List.mem_range.mp among
      exact outcome_blockPoint (slots (2 * i) (by omega)) (slots (2 * i + 1) (by omega))
  unfold drawSpline
  dsimp only
  rw [outcome_bind, poles]
  dsimp only
  rw [outcome_bind, outcome_blockPoint (slots _ (by omega)) (slots _ (by omega))]
  dsimp only
  rw [outcome_bind, outcome_blockPoint (slots _ (by omega)) (slots _ (by omega))]
  dsimp only
  rw [outcome_liftM_bind]
  cases multiplicities.toIntegers with
  | error fault => rfl
  | ok repeats =>
  dsimp only
  rw [outcome_liftM_bind, integer]
  dsimp only
  rw [outcome_liftM_bind]
  cases periodic.truth with
  | error fault => rfl
  | ok closed => rfl

/-- A spline over a new block is registered, and ruled unless it is periodic. No further slot is
allocated for its rules. -/
theorem outcome_splineFigure_new (ready : sketch.Ready) {reading : SplineReading}
    (enough : 2 ≤ reading.coordinates.poles.length)
    (full : reading.reals.length = 2 * reading.coordinates.poles.length + reading.weights.length +
      reading.knots.length + 4)
    (repeats : List Int) (number : Int) (closed : Bool) (tag : Int) :
    let spline := placedSpline sketch.store.binding
      (List.range' sketch.store.size reading.reals.length) reading.coordinates.poles.length
        reading.weights.length reading.knots.length repeats number closed
    ∃ after, (if closed then addFigure (.bspline spline) (.int tag)
        else addRuled (.bspline spline) "bspline_end_rules" (.int tag)).outcome
          (sketch.withBlock reading) = (.ok sketch.table.nextId, after) ∧
      after.store = (sketch.withBlock reading).store ∧
      after.table.entries = sketch.table.entries ++
        [⟨sketch.table.nextId, ⟨.bspline spline, some sketch.store.binding⟩, tag⟩] := by
  intro spline
  have grown : sketch.store.size + reading.reals.length = (sketch.withBlock reading).store.size :=
    (Store.size_append ..).symm
  have accepted : (sketch.withBlock reading).store.bind (.bspline spline) =
      .ok ⟨.bspline spline, some (sketch.withBlock reading).store.binding⟩ :=
    bind_placedSpline full (Nat.le_of_eq grown)
  have new : ∀ index ∈ (Figure.bspline spline).ownIndices, (sketch.store.size : Int) ≤ index := by
    intro index there
    have own : index ∈ (List.range' sketch.store.size reading.reals.length).map Int.ofNat := by
      rw [← block_placedSpline full]
      exact there
    obtain ⟨slot, among, rfl⟩ := List.mem_map.mp own
    exact Int.ofNat_le.mpr (List.mem_range'_1.mp among).1
  have several : 0 < spline.poles.length := by
    show 0 < ((List.range _).map _).length
    rw [List.length_map, List.length_range]
    omega
  cases closed with
  | true =>
    obtain ⟨journal, drawn⟩ := outcome_addFigure_new ready accepted new tag
    exact ⟨_, drawn, rfl, rfl⟩
  | false =>
    obtain ⟨relation, stated⟩ := relation?_splineEndRules
      (some (sketch.withBlock reading).store.binding) (List.ne_nil_of_length_pos several)
    obtain ⟨journal, ruled⟩ := outcome_addRuled_new ready
      (Nat.le_trans (Nat.le_add_right ..) (Nat.le_of_eq grown)) accepted new rfl
        List.mem_cons_self stated tag
    exact ⟨_, ruled, Store.append_nil .., rfl⟩

end Session

/-- A spline that is refused leaves a sketch as it was, unless all that is read before its block is
allocated was accepted and a multiplicity or the truth value that makes it periodic is not: then it
leaves the block, of eight slots at least, and nothing over it. A spline of which all of this can be
read is never refused. -/
theorem addSpline_leaves {sketch : Sketch} (reached : sketch.Reached .all)
    (poles weights knots multiplicities degree periodic start finish fixed : Value) (tag : Int) :
    (∃ fault,
      readSpline poles weights knots multiplicities degree start finish fixed (.int tag) =
        .error fault ∧
      (Session.addSpline poles weights knots multiplicities degree periodic start finish fixed
        (.int tag)).outcome sketch = (.error fault, sketch)) ∨
      ∃ reading,
        readSpline poles weights knots multiplicities degree start finish fixed (.int tag) =
          .ok reading ∧
        ((∃ repeats closed after, multiplicities.toIntegers = .ok repeats ∧
            periodic.truth = .ok closed ∧
            (Session.addSpline poles weights knots multiplicities degree periodic start finish
              fixed (.int tag)).outcome sketch = (.ok sketch.table.nextId, after)) ∨
          ∃ fault,
            (multiplicities.toIntegers = .error fault ∨ periodic.truth = .error fault) ∧
            8 ≤ reading.reals.length ∧
            (Session.addSpline poles weights knots multiplicities degree periodic start finish
              fixed (.int tag)).outcome sketch =
                (.error fault,
                  { sketch with
                    store := (sketch.store.append reading.reals reading.fixed tag).2 })) := by
  have ready := reached.ready
  have found := Session.outcome_addSpline poles weights knots multiplicities degree periodic start
    finish fixed (.int tag) sketch
  cases read : readSpline poles weights knots multiplicities degree start finish fixed
      (.int tag) with
  | error fault =>
    rw [read] at found
    exact .inl ⟨fault, rfl, found⟩
  | ok reading =>
    obtain ⟨enough, full, ⟨number, integer⟩, stored⟩ := readSpline_eq_ok read
    have same : reading.tag = tag :=
      (Except.ok.inj (Store.toInteger_of_storedTag stored)).symm
    have grown : sketch.store.size + reading.reals.length ≤
        (sketch.withBlock reading).store.size := Nat.le_of_eq (Store.size_append ..).symm
    rw [read] at found
    dsimp only at found
    rw [Session.outcome_drawSpline full grown integer] at found
    refine .inr ⟨reading, rfl, ?_⟩
    rw [← same] at found ⊢
    cases repeated : multiplicities.toIntegers with
    | error fault =>
      rw [repeated] at found
      exact .inr ⟨fault, .inl rfl, by omega, found⟩
    | ok repeats =>
      cases truth : periodic.truth with
      | error fault =>
        rw [repeated, truth] at found
        exact .inr ⟨fault, .inr rfl, by omega, found⟩
      | ok closed =>
        rw [repeated, truth] at found
        obtain ⟨after, registered, -⟩ := Session.outcome_splineFigure_new ready enough full repeats
          number closed reading.tag
        exact .inl ⟨repeats, closed, after, rfl, rfl, found.trans registered⟩

/-- In an empty sketch a spline with a text for a multiplicity leaves the eleven slots of its block
behind. -/
theorem addSpline_leaves_unreadMultiplicity :
    (Sketch.start 0 .standard .silent).Reached .all ∧
      ∃ fault after,
        (Session.addSpline
          (.list [.list [.float 0.0, .float 0.0], .list [.float 1.0, .float 1.0]])
          (.list [.float 1.0, .float 1.0]) (.list [.float 0.0]) (.list [.text "x"]) (.int 1)
          (.bool false) .none .none (.bool false) (.int 0)).outcome
            (Sketch.start 0 .standard .silent) = (.error fault, after) ∧
          (Sketch.start 0 .standard .silent).store.size = 0 ∧ after.store.size = 11 := by
  have reached := Sketch.reached_start .all 0 .standard .silent
  refine ⟨reached, ?_⟩
  rcases addSpline_leaves reached
      (.list [.list [.float 0.0, .float 0.0], .list [.float 1.0, .float 1.0]])
      (.list [.float 1.0, .float 1.0]) (.list [.float 0.0]) (.list [.text "x"]) (.int 1)
      (.bool false) .none .none (.bool false) 0 with
    ⟨fault, refused, -⟩ | ⟨reading, read, ⟨repeats, closed, after, repeated, -⟩ |
      ⟨fault, -, -, left⟩⟩
  · cases refused
  · cases repeated
  · refine ⟨fault, _, left, rfl, ?_⟩
    have count : reading.reals.length = 11 := by
      cases read
      rfl
    show (Store.append _ _ _ _).2.size = 11
    rw [Store.size_append, count]
    rfl

end Drafting
