import Drafting.Proofs.CompanionRules
import Drafting.Proofs.Belonging

/-!
# Geometry is drawn wholly or not at all

A request that draws a geometry other than a spline looks its points up and then allocates its
block, if it has one. Until then nothing is changed, so what is refused there leaves the sketch as
it was. Once the ground is laid nothing can be refused any more: the points belong to the store and
their slots exist, no one owns the new slots, and the rules of an arc are stated of the arc that was
registered last.
-/

namespace Drafting

/-- What a figure is drawn over: the points it refers to, the slots of its own block, and the store
that has them. -/
structure Ground where
  points : List View
  slots : List Nat
  store : Store

/-- The values of the own block of what a request draws, with their flag. Lines and parabolas have
no such block, and that of a spline is not given value by value. -/
def Request.block? : Request → Option (List Value × Value)
  | addPoint x y fixed _ => some ([x, y], fixed)
  | addCircle _ radius fixed _ => some ([radius], fixed)
  | addArc _ _ _ startAngle endAngle radius fixed _ => some ([startAngle, endAngle, radius], fixed)
  | addEllipse _ _ minorRadius fixed _ | addHyperbola _ _ minorRadius fixed _ =>
    some ([minorRadius], fixed)
  | addArcOfEllipse _ _ _ _ startAngle endAngle minorRadius fixed _
  | addArcOfHyperbola _ _ _ _ startAngle endAngle minorRadius fixed _ =>
    some ([startAngle, endAngle, minorRadius], fixed)
  | addArcOfParabola _ _ _ _ startAngle endAngle fixed _ => some ([startAngle, endAngle], fixed)
  | _ => none

namespace Sketch

/-- The ground for a figure over some points: its block, allocated under a tag. -/
def layBlock (sketch : Sketch) (points : List View) (block : Option (List Value × Value))
    (tag : Value) : Except Fault Ground := do
  match block with
  | none => .ok ⟨points, [], sketch.store⟩
  | some (values, fixed) =>
    let (slots, store) ← sketch.store.pushAll values fixed tag
    .ok ⟨points, slots, store⟩

/-- The ground for what a request draws: its points, looked up in order, and then its block. -/
def layGround (sketch : Sketch) (request : Request) (tag : Value) : Except Fault Ground := do
  sketch.layBlock (← request.operands.mapM sketch.findPoint) request.block? tag

/-- The sketch with another store, a geometry in it, and the constraint that rules that, if one
does. -/
def withDrawn (sketch : Sketch) (store : Store) (entry : GeometryEntry)
    (companion : Option Constraint) (journal : Journal) : Sketch :=
  { sketch with
    store
    table :=
      { entries := sketch.table.entries ++ [entry]
        owners := entry.view.ownIndices.map (·, entry.id) ++ sketch.table.owners
        nextId := entry.id + 1 + companion.toList.length }
    constraints := sketch.constraints ++ companion.toList
    journal }

/-- Values name points, each the one in its place. -/
abbrev Finds (sketch : Sketch) : List Value → List View → Prop :=
  List.Forall₂ fun value point => sketch.findPoint value = .ok point

/-- How a geometry stands over a ground: it has the next identifier, it is bound in the store as it
is, its parts are the points and its own block is the slots of the ground. -/
structure Founds (sketch : Sketch) (ground : Ground) (entry : GeometryEntry) : Prop where
  next : entry.id = sketch.table.nextId
  bound : entry.view.binding = some sketch.store.binding
  parts : entry.view.figure.parts = ground.points
  own : entry.view.ownIndices = ground.slots.map Int.ofNat

variable {sketch : Sketch}

/-- A block is refused as a whole, or it is the next slots of the grown store. -/
theorem layBlock_some (points : List View) (values : List Value) (fixed tag : Value) :
    sketch.layBlock points (some (values, fixed)) tag =
      match sketch.store.pushAll values fixed tag with
      | .error fault => .error fault
      | .ok (slots, store) => .ok ⟨points, slots, store⟩ := by
  simp only [layBlock]
  cases sketch.store.pushAll values fixed tag <;> rfl

/-- A point that is found belongs to the store, and its slots exist. -/
theorem Reached.found_point (reached : sketch.Reached .all) {value : Value} {view : View}
    (found : sketch.findPoint value = .ok view) :
    sketch.store.checkPart view = .ok () ∧
      ∀ index ∈ view.indices, InStore sketch.store.size index := by
  have registered (known : findPoint.registered sketch value = .ok view) :
      sketch.store.checkPart view = .ok () ∧
        ∀ index ∈ view.indices, InStore sketch.store.size index := by
    obtain ⟨entry, there, rfl⟩ := mem_of_registered known
    have bound := reached.native.bound entry there
    exact ⟨Store.checkPart_eq_ok.mpr (.inr bound), reached.sound.views entry there⟩
  cases value with
  | view given =>
    unfold findPoint at found
    dsimp only at found
    by_cases point : given.kind = .point
    · rw [if_pos point] at found
      obtain ⟨belongs, existing, rfl⟩ := Store.checkView_eq_ok.mp found
      exact ⟨belongs _ List.mem_cons_self, existing⟩
    · rw [if_neg point] at found
      exact registered found
  | _ => exact registered found

/-- A figure over points that were found and a block of new slots is accepted by the store that has
these. -/
theorem Reached.bind_new (reached : sketch.Reached .all) {figure : Figure} {store : Store}
    {count : Nat} {named : List Value} (same : store.binding = sketch.store.binding)
    (grown : store.size = sketch.store.size + count)
    (own : figure.ownIndices = (List.range' sketch.store.size count).map Int.ofNat)
    (found : sketch.Finds named figure.parts) :
    store.bind figure = .ok ⟨figure, some store.binding⟩ := by
  refine Store.bind_eq_ok_iff.mpr ⟨fun part there => ?_, fun index there => ?_, rfl⟩
  · obtain ⟨value, -, seen⟩ := mem_of_mapM (mapM_eq_ok.mpr found) there
    exact (Store.checkPart_congr same).mpr (reached.found_point seen).1
  · rcases Figure.mem_indices_cases there with new | ⟨part, of_figure, lent⟩
    · rw [own] at new
      obtain ⟨slot, among, rfl⟩ := List.mem_map.mp new
      have bounds := List.mem_range'_1.mp among
      exact ⟨Int.natCast_nonneg slot, Int.ofNat_lt.mpr (by omega)⟩
    · obtain ⟨value, -, seen⟩ := mem_of_mapM (mapM_eq_ok.mpr found) of_figure
      exact ((reached.found_point seen).2 index lent).mono (by omega)

end Sketch

namespace Session

variable {sketch : Sketch} {kind : GeometryKind} {tag : Int}

/-- Register a figure, and what rules it if something does; the identifier of the figure. -/
def addStated (figure : Figure) (rules : Option BuiltinKind) (tag : Value) : Session Nat :=
  match rules with
  | none => addFigure figure tag
  | some kind => addRuled figure kind.name tag

/-- A request draws over a ground if it changes nothing where the ground is refused, and else
registers a geometry of some kind and the constraint that rules it. -/
def DrawsOver (kind : GeometryKind) (rules : Option BuiltinKind) (tag : Int) (sketch : Sketch)
    (ground : Except Fault Ground) (request : Session Nat) : Prop :=
  match ground with
  | .error fault => request.outcome sketch = (.error fault, sketch)
  | .ok ground =>
    ∃ entry companion journal, sketch.Founds ground entry ∧ entry.view.kind = kind ∧
      entry.tag = tag ∧ Option.Rel (fun kind c => c.Rules kind entry) rules companion ∧
      request.outcome sketch = (.ok entry.id, sketch.withDrawn ground.store entry companion journal)

/-- A figure that a grown store accepts is registered with its rules. -/
theorem outcome_addStated_new (ready : sketch.Ready) {figure : Figure} {store : Store}
    (larger : sketch.store.size ≤ store.size)
    (accepted : store.bind figure = .ok ⟨figure, some store.binding⟩)
    (new : ∀ index ∈ figure.ownIndices, (sketch.store.size : Int) ≤ index)
    (ends : figure.HasEnds) (tag : Int) :
    ∃ companion journal,
      Option.Rel (fun kind c => c.Rules kind
          ⟨sketch.table.nextId, ⟨figure, some store.binding⟩, tag⟩) figure.rules? companion ∧
        (addStated figure figure.rules? (.int tag)).outcome { sketch with store } =
          (.ok sketch.table.nextId,
            sketch.withDrawn store ⟨sketch.table.nextId, ⟨figure, some store.binding⟩, tag⟩
              companion journal) := by
  cases ruled : figure.rules? with
  | none =>
    obtain ⟨journal, drawn⟩ := outcome_addFigure_new ready accepted new tag
    refine ⟨none, journal, .none, drawn.trans ?_⟩
    unfold Sketch.withDrawn
    rw [Option.toList_none, List.append_nil]
    rfl
  | some kind =>
    obtain ⟨⟨slot, placed, suits⟩, relation, stated⟩ :=
      Figure.relation?_rules ends ruled (some store.binding)
    obtain ⟨journal, drawn⟩ :=
      outcome_addRuled_new ready larger accepted new placed suits stated tag
    exact ⟨some _, journal, .some ⟨rfl, rfl, rfl, rfl, rfl⟩, drawn⟩

/-- A request that looks a point up first draws over the ground that begins with that point. -/
theorem DrawsOver.point {rules : Option BuiltinKind} {value : Value} {rest : List Value}
    {next : View → Session Nat} {others : List View → Except Fault Ground}
    (later : ∀ view, sketch.findPoint value = .ok view →
      DrawsOver kind rules tag sketch
        (rest.mapM sketch.findPoint >>= fun views => others (view :: views)) (next view)) :
    DrawsOver kind rules tag sketch ((value :: rest).mapM sketch.findPoint >>= others)
      (Session.point value >>= next) := by
  have looked : (Session.point value >>= next).outcome sketch =
      match sketch.findPoint value with
      | .ok view => (next view).outcome sketch
      | .error fault => (.error fault, sketch) := by
    rw [outcome_bind, outcome_point]
    cases sketch.findPoint value <;> rfl
  rw [List.mapM_cons, bind_assoc]
  cases found : sketch.findPoint value with
  | error fault =>
    rw [found] at looked
    exact looked
  | ok view =>
    have drawn := later view found
    rw [found] at looked
    rw [ok_bind, bind_assoc]
    unfold DrawsOver at drawn ⊢
    rw [looked]
    exact drawn

/-- A request that allocates a block and registers a figure over it draws over the ground that ends
with that block. -/
theorem drawsOver_block (reached : sketch.Reached .all) {named values : List Value}
    {points : List View} {fixed : Value} {figure : List Nat → Figure} {rules : Option BuiltinKind}
    (own : (figure (List.range' sketch.store.size values.length)).ownIndices =
      (List.range' sketch.store.size values.length).map Int.ofNat)
    (parts : (figure (List.range' sketch.store.size values.length)).parts = points)
    (found : sketch.Finds named points)
    (ends : (figure (List.range' sketch.store.size values.length)).HasEnds)
    (drawn : (figure (List.range' sketch.store.size values.length)).kind = kind)
    (ruled : (figure (List.range' sketch.store.size values.length)).rules? = rules) :
    DrawsOver kind rules tag sketch (sketch.layBlock points (some (values, fixed)) (.int tag))
      (allocateBlock values fixed (.int tag) >>= fun block =>
        addStated (figure block) rules (.int tag)) := by
  unfold allocateBlock DrawsOver
  rw [Sketch.layBlock_some, outcome_bind, outcome_onStore]
  cases pushed : sketch.store.pushAll values fixed (.int tag) with
  | error fault => rfl
  | ok result =>
    obtain ⟨slots, store⟩ := result
    obtain ⟨reals, flag, n, count, -, rfl, rfl⟩ := Store.pushAll_eq_ok pushed
    have grown : (sketch.store.append reals flag n).2.size = sketch.store.size + values.length := by
      rw [Store.size_append, count]
    have accepted := reached.bind_new
      (show (sketch.store.append reals flag n).2.binding = sketch.store.binding from rfl) grown own
        (parts ▸ found)
    have new : ∀ index ∈ (figure (List.range' sketch.store.size values.length)).ownIndices,
        (sketch.store.size : Int) ≤ index := by
      intro index there
      rw [own] at there
      obtain ⟨slot, among, rfl⟩ := List.mem_map.mp there
      exact Int.ofNat_le.mpr (List.mem_range'_1.mp among).1
    obtain ⟨companion, journal, accompanied, registered⟩ :=
      outcome_addStated_new reached.ready (by omega) accepted new ends tag
    rw [ruled] at accompanied registered
    exact ⟨⟨sketch.table.nextId, ⟨figure (List.range' sketch.store.size values.length),
        some sketch.store.binding⟩, tag⟩, companion, journal, ⟨rfl, rfl, parts, own⟩, drawn, rfl,
      accompanied, registered⟩

/-- A request that registers a figure without a block draws over the ground of its points. -/
theorem drawsOver_blockless (reached : sketch.Reached .all) {named : List Value}
    {points : List View} {figure : Figure} (own : figure.ownIndices = [])
    (parts : figure.parts = points) (found : sketch.Finds named points)
    (drawn : figure.kind = kind) (unruled : figure.rules? = none) (ends : figure.HasEnds) :
    DrawsOver kind none tag sketch (sketch.layBlock points none (.int tag))
      (addFigure figure (.int tag)) := by
  have accepted := @Sketch.Reached.bind_new sketch reached figure sketch.store 0 named rfl rfl own
    (parts ▸ found)
  have new : ∀ index ∈ figure.ownIndices, (sketch.store.size : Int) ≤ index := by
    rw [own]
    exact List.forall_mem_nil _
  obtain ⟨companion, journal, accompanied, registered⟩ :=
    outcome_addStated_new reached.ready (Nat.le_refl _) accepted new ends tag
  rw [unruled] at accompanied registered
  exact ⟨⟨sketch.table.nextId, ⟨figure, some sketch.store.binding⟩, tag⟩, companion, journal,
    ⟨rfl, rfl, parts, own⟩, drawn, rfl, accompanied, registered⟩

end Session

namespace Request

variable {sketch : Sketch} {request : Request} {kind : GeometryKind} {tag : Int}

open Session in
/-- Every request that draws anything but a spline draws over its ground. -/
theorem drawsOver (reached : sketch.Reached .all) (draws : request.draws? = some kind)
    (simple : kind ≠ .bspline) (tagged : request.tag? = some (.int tag)) :
    ∃ add, request.perform = (add >>= fun id => pure (.id id)) ∧
      DrawsOver kind request.rules? tag sketch (sketch.layGround request (.int tag)) add := by
  cases request with
  | addPoint =>
    cases draws
    cases tagged
    refine ⟨_, rfl, ?_⟩
    exact drawsOver_block reached rfl rfl .nil trivial rfl rfl
  | addLine =>
    cases draws
    cases tagged
    refine ⟨_, rfl, ?_⟩
    exact .point fun s start => .point fun f finish =>
      drawsOver_blockless reached rfl rfl (.cons start (.cons finish .nil)) rfl rfl trivial
  | addCircle =>
    cases draws
    cases tagged
    refine ⟨_, rfl, ?_⟩
    exact .point fun c center =>
      drawsOver_block reached rfl rfl (.cons center .nil) trivial rfl rfl
  | addArc =>
    cases draws
    cases tagged
    refine ⟨_, rfl, ?_⟩
    exact .point fun c center => .point fun s start => .point fun f finish =>
      drawsOver_block reached rfl rfl (.cons center (.cons start (.cons finish .nil))) trivial rfl
        rfl
  | addEllipse | addHyperbola =>
    cases draws
    cases tagged
    refine ⟨_, rfl, ?_⟩
    exact .point fun c center => .point fun f focus =>
      drawsOver_block reached rfl rfl (.cons center (.cons focus .nil)) trivial rfl rfl
  | addParabola =>
    cases draws
    cases tagged
    refine ⟨_, rfl, ?_⟩
    exact .point fun v vertex => .point fun f focus =>
      drawsOver_blockless reached rfl rfl (.cons vertex (.cons focus .nil)) rfl rfl trivial
  | addArcOfEllipse | addArcOfHyperbola | addArcOfParabola =>
    cases draws
    cases tagged
    refine ⟨_, rfl, ?_⟩
    exact .point fun c center => .point fun f focus => .point fun s start =>
      .point fun e finish =>
        drawsOver_block reached rfl rfl
          (.cons center (.cons focus (.cons start (.cons finish .nil)))) trivial rfl rfl
  | addSpline =>
    cases draws
    exact absurd rfl simple
  | _ => cases draws

end Request

namespace Sketch

/-- A request that draws anything but a spline, under an integer of any size for a tag, either is
refused while its points are looked up or its block is allocated, and then leaves the sketch wholly
as it was; or its ground is laid, and then it is answered: the geometry is registered over that
ground under the next identifier, and right after it the constraint that rules its ends, if it has
any. -/
theorem drawn_wholly_or_unchanged {sketch : Sketch} (reached : sketch.Reached .all)
    {request : Request} {kind : GeometryKind} (draws : request.draws? = some kind)
    (simple : kind ≠ .bspline) {tag : Int} (tagged : request.tag? = some (.int tag)) :
    (∃ fault, sketch.layGround request (.int tag) = .error fault ∧
        request.perform.outcome sketch = (.error fault, sketch)) ∨
      ∃ ground entry companion journal, sketch.layGround request (.int tag) = .ok ground ∧
        sketch.Founds ground entry ∧ entry.view.kind = kind ∧ entry.tag = tag ∧
        Option.Rel (fun kind c => c.Rules kind entry) request.rules? companion ∧
        request.perform.outcome sketch =
          (.ok (.id entry.id), sketch.withDrawn ground.store entry companion journal) := by
  obtain ⟨add, performs, drawn⟩ := Request.drawsOver reached draws simple tagged
  rw [performs, Session.outcome_bind_pure]
  cases laid : sketch.layGround request (.int tag) with
  | error fault =>
    rw [laid] at drawn
    have refused : add.outcome sketch = (.error fault, sketch) := drawn
    rw [refused]
    exact .inl ⟨fault, rfl, rfl⟩
  | ok ground =>
    rw [laid] at drawn
    obtain ⟨entry, companion, journal, founds, sort, read, accompanied, registered⟩ := drawn
    rw [registered]
    exact .inr ⟨ground, entry, companion, journal, rfl, founds, sort, read, accompanied, rfl⟩

/-- Requests for three points. -/
def cornerRequests : List Request :=
  [.addPoint (.int 0) (.int 0) (.bool false) (.int 0),
    .addPoint (.int 1) (.int 0) (.bool false) (.int 0),
    .addPoint (.int 0) (.int 1) (.bool false) (.int 0)]

/-- An arc over three points whose tag is too great for its slots leaves the sketch as it was. With
a smaller tag it is drawn and ruled. -/
theorem drawn_wholly_or_unchanged_arc :
    let sketch := (start 0 .standard .silent).afterAll cornerRequests
    let arc (tag : Int) : Request :=
      .addArc (.int 0) (.int 1) (.int 2) (.int 0) (.int 1) (.int 1) (.bool false) (.int tag)
    sketch.Reached .all ∧
      (∃ fault, (arc 9223372036854775808).perform.outcome sketch = (.error fault, sketch)) ∧
      ∃ after, (arc 7).perform.outcome sketch = (.ok (.id 3), after) ∧
        after.store.size = sketch.store.size + 3 ∧ after.table.nextId = 5 := by
  intro sketch arc
  have reached : sketch.Reached .all :=
    ⟨0, .standard, .silent, cornerRequests, fun request _ => request.within_all, rfl⟩
  refine ⟨reached, ?_, ?_⟩
  · have unlaid : (sketch.layGround (arc 9223372036854775808)
        (.int 9223372036854775808)).toOption.isNone := by
      decide +kernel
    have draws : (arc 9223372036854775808).draws? = some .arc := rfl
    rcases drawn_wholly_or_unchanged reached draws (by decide) rfl with
      ⟨fault, -, refused⟩ | ⟨_, _, _, _, laid, -⟩
    · exact ⟨fault, refused⟩
    · rw [laid] at unlaid
      cases unlaid
  · have laid : (sketch.layGround (arc 7) (.int 7)).toOption.map (·.store.size) = some 9 := by
      decide +kernel
    have next : sketch.table.nextId = 3 := by decide +kernel
    have size : sketch.store.size = 6 := by decide +kernel
    rcases drawn_wholly_or_unchanged reached (show (arc 7).draws? = some .arc from rfl) (by decide)
        rfl with ⟨fault, unlaid, -⟩ | ⟨ground, entry, _, _, found, founds, -, -, ruled, drawn⟩
    · rw [unlaid] at laid
      cases laid
    · rw [found] at laid
      cases ruled
      refine ⟨_, drawn.trans (by rw [founds.next, next]), ?_, ?_⟩
      · show ground.store.size = _
        rw [size]
        exact Option.some.inj laid
      · show entry.id + 1 + 1 = 5
        rw [founds.next, next]

end Sketch

end Drafting
