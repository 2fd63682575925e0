import Drafting.Proofs.Layout
import Drafting.Proofs.Proceeding

/-!
# Drawing proceeds by changes

Adding a geometry looks its points up, allocates its block and registers the figure over it; what is
ruled gets a constraint as well. Whatever is refused after the block was allocated leaves the block
behind, and nothing else does.
-/

namespace Drafting

variable {α β : Type} {scope : Scope} {sketch : Sketch}

open Session

namespace Session

/-- To find a point changes nothing. -/
theorem outcome_point (value : Value) (sketch : Sketch) :
    (point value).outcome sketch = (sketch.findPoint value, sketch) := by
  unfold point
  rw [outcome_get_bind, outcome_liftM]

/-- A point that is found, with what follows it. -/
theorem changes_point {value : Value} {next : View → Session α}
    (later : ∀ view, sketch.findPoint value = .ok view →
      Changes scope sketch ((next view).outcome sketch).2) :
    Changes scope sketch ((point value >>= next).outcome sketch).2 := by
  rw [outcome_bind, outcome_point]
  cases seen : sketch.findPoint value with
  | error fault => exact .refl
  | ok view => exact later view seen

/-- A view is refused for a slot that is owned, or for its tag with a gap in the sequence of
identifiers left behind, or it is registered. -/
theorem outcome_addView_cases (view : View) (tag : Value) (sketch : Sketch) :
    (∃ fault, view.ownIndices.forM sketch.table.checkUnowned = .error fault ∧
        (addView view tag).outcome sketch = (.error fault, sketch)) ∨
      (∃ fault, tag.toInteger = .error fault ∧ (addView view tag).outcome sketch =
        (.error fault, { sketch with table := sketch.table.reserveId.2 })) ∨
      ∃ t answer journal, tag.toInteger = .ok t ∧
        (addView view tag).outcome sketch =
          (answer,
            Sketch.withJournal
              { sketch with table := sketch.table.reserveId.2.insert sketch.table.nextId view t }
              journal) ∧
        (∀ told, answer = .ok told → told = sketch.table.nextId) ∧
        (sketch.Tolerates tag → answer = .ok sketch.table.nextId) := by
  unfold addView
  rw [outcome_get_bind]
  unfold GeometryTable.add
  cases unowned : view.ownIndices.forM sketch.table.checkUnowned with
  | error fault => exact .inl ⟨fault, rfl, rfl⟩
  | ok _ =>
    right
    cases number : tag.toInteger with
    | error fault => exact .inl ⟨fault, rfl, rfl⟩
    | ok t =>
      right
      obtain ⟨answer, journal, noted, told, shown⟩ := outcome_noteTag_return .debug .geometry
        ("Registered geometry #" ++ decimalText sketch.table.nextId ++ " " ++ view.kind.bracketed)
        tag "" sketch.table.nextId
        { sketch with table := sketch.table.reserveId.2.insert sketch.table.nextId view t }
      exact ⟨t, answer, journal, rfl, noted, told, shown⟩

/-- A figure over a new block is registered, or the block is left behind. -/
theorem changes_addFigure {reals : List Float} {fixed : Bool} {t : Int} {figure : Figure}
    {tag : Value} (tagged : reals ≠ [] → tag.toInteger = .ok t)
    (own : figure.ownIndices = (List.range' sketch.store.size reals.length).map Int.ofNat)
    (parts : ∀ part ∈ figure.parts, sketch.IsPart scope figure.ownIndices part) :
    Changes scope sketch ((addFigure figure tag).outcome
      { sketch with store := (sketch.store.append reals fixed t).2 }).2 := by
  have grown : Changes scope sketch
      { sketch with store := (sketch.store.append reals fixed t).2 } :=
    .single (.grown reals fixed t)
  unfold addFigure
  have bind_outcome : (Session.bind figure).outcome
      { sketch with store := (sketch.store.append reals fixed t).2 } =
        ((sketch.store.append reals fixed t).2.bind figure,
          { sketch with store := (sketch.store.append reals fixed t).2 }) := by
    unfold Session.bind
    rw [outcome_get_bind, outcome_liftM]
  rw [outcome_bind, bind_outcome]
  cases bound : (sketch.store.append reals fixed t).2.bind figure with
  | error fault => exact grown
  | ok view =>
    obtain ⟨belongs, existing, rfl⟩ := Store.bind_eq_ok_iff.mp bound
    dsimp only
    rcases outcome_addView_cases ⟨figure, some (sketch.store.append reals fixed t).2.binding⟩ tag
        { sketch with store := (sketch.store.append reals fixed t).2 } with
      ⟨fault, -, refused⟩ | ⟨fault, -, refused⟩ | ⟨n, answer, journal, read, registered, -⟩
    · rw [refused]
      exact grown
    · rw [refused]
      exact grown.tail .reserved
    · rw [registered]
      have draws : sketch.Draws scope reals.length
          ⟨figure, some (sketch.store.append reals fixed t).2.binding⟩ := by
        have same : (sketch.store.append reals fixed t).2.binding = sketch.store.binding := rfl
        refine ⟨own, fun index there => ?_, rfl, parts, fun part there =>
          (Store.checkPart_congr same).mp (belongs part there)⟩
        have here := existing index there
        rw [Store.size_append] at here
        exact here
      have same (some : reals ≠ []) : t = n := Except.ok.inj ((tagged some).symm.trans read)
      exact .head (.drawn reals fixed t n draws same) (.single (.noted journal))

/-- A ruled figure over a new block is registered and constrained, or the block is left behind. -/
theorem changes_addRuled {reals : List Float} {fixed : Bool} {t : Int} {figure : Figure}
    {rules : String} {tag : Value} (known : scope.kind (.text rules))
    (tagged : reals ≠ [] → tag.toInteger = .ok t)
    (own : figure.ownIndices = (List.range' sketch.store.size reals.length).map Int.ofNat)
    (parts : ∀ part ∈ figure.parts, sketch.IsPart scope figure.ownIndices part) :
    Changes scope sketch ((addRuled figure rules tag).outcome
      { sketch with store := (sketch.store.append reals fixed t).2 }).2 := by
  have drawn := @changes_addFigure _ _ _ fixed t _ tag tagged own parts
  unfold addRuled
  rw [outcome_bind]
  revert drawn
  rcases (addFigure figure tag).outcome _ with ⟨fault | id, after⟩ <;> intro drawn
  · exact drawn
  · have ruled : Proceeds (Change scope) (do
        discard (constrain (.text rules) [.int id] .standard tag)
        return id) := by
      refine .bind (.bind (proceeds_constrain known ?_) fun _ => .pure _) fun _ => .pure _
      intro operand single
      rw [List.mem_singleton.mp single]
      exact scope.int id
    exact drawn.trans (ruled after)

/-- A block is allocated for a figure with what follows, or nothing changes. -/
theorem changes_allocateBlock {values : List Value} {fixed tag : Value}
    {next : List Nat → Session α}
    (later : ∀ (reals : List Float) (b : Bool) (t : Int), reals.length = values.length →
      tag.toInteger = .ok t →
        Changes scope sketch ((next (List.range' sketch.store.size values.length)).outcome
          { sketch with store := (sketch.store.append reals b t).2 }).2) :
    Changes scope sketch ((allocateBlock values fixed tag >>= next).outcome sketch).2 := by
  unfold allocateBlock
  rw [outcome_bind, outcome_onStore]
  cases pushed : sketch.store.pushAll values fixed tag with
  | error fault => exact .refl
  | ok result =>
    obtain ⟨block, grown⟩ := result
    obtain ⟨reals, b, t, count, read, rfl, rfl⟩ := Store.pushAll_eq_ok pushed
    exact later reals b t count read

/-- A figure is drawn over a block that is allocated for it, or what was done is left behind. -/
theorem changes_drawn {values : List Value} {fixed tag : Value} {figure : List Nat → Figure}
    (own : (figure (List.range' sketch.store.size values.length)).ownIndices =
      (List.range' sketch.store.size values.length).map Int.ofNat)
    (parts : ∀ part ∈ (figure (List.range' sketch.store.size values.length)).parts,
      ∃ value, scope.operand value ∧ sketch.findPoint value = .ok part) :
    Changes scope sketch ((allocateBlock values fixed tag >>= fun block =>
      addFigure (figure block) tag).outcome sketch).2 := by
  refine changes_allocateBlock fun reals b t count read => ?_
  rw [← count] at own parts ⊢
  exact changes_addFigure (fun _ => read) own fun part there => .inl (parts part there)

/-- A figure without a block of its own is drawn, or what was done is left behind. -/
theorem changes_blockless {figure : Figure} {tag : Value} (own : figure.ownIndices = [])
    (parts : ∀ part ∈ figure.parts,
      ∃ value, scope.operand value ∧ sketch.findPoint value = .ok part) :
    Changes scope sketch ((addFigure figure tag).outcome sketch).2 := by
  have drawn := @changes_addFigure scope sketch [] false 0 figure tag (absurd rfl) own
    fun part there => .inl (parts part there)
  rw [Store.append_nil] at drawn
  exact drawn

/-- A ruled figure is drawn over a block that is allocated for it, or what was done is left
behind. -/
theorem changes_drawnRuled {values : List Value} {fixed tag : Value} {figure : List Nat → Figure}
    {rules : String} (known : scope.kind (.text rules))
    (own : (figure (List.range' sketch.store.size values.length)).ownIndices =
      (List.range' sketch.store.size values.length).map Int.ofNat)
    (parts : ∀ part ∈ (figure (List.range' sketch.store.size values.length)).parts,
      ∃ value, scope.operand value ∧ sketch.findPoint value = .ok part) :
    Changes scope sketch ((allocateBlock values fixed tag >>= fun block =>
      addRuled (figure block) rules tag).outcome sketch).2 := by
  refine changes_allocateBlock fun reals b t count read => ?_
  rw [← count] at own parts ⊢
  exact changes_addRuled known (fun _ => read) own fun part there => .inl (parts part there)

/-- Parts that were given as points within the scope. -/
theorem parts_found (given : List (Value × View)) (allowed : ∀ pair ∈ given, scope.operand pair.1)
    (seen : ∀ pair ∈ given, sketch.findPoint pair.1 = .ok pair.2) {parts : List View}
    (listed : parts = given.map (·.2)) :
    ∀ part ∈ parts, ∃ value, scope.operand value ∧ sketch.findPoint value = .ok part := by
  intro part there
  rw [listed] at there
  obtain ⟨pair, among, rfl⟩ := List.mem_map.mp there
  exact ⟨pair.1, allowed pair among, seen pair among⟩

/-- Adding a point proceeds by changes. -/
theorem proceeds_addPoint {x y fixed tag : Value} :
    Proceeds (Change scope) (addPoint x y fixed tag) :=
  fun _ => changes_drawn rfl fun part there => by cases there

/-- Adding a line proceeds by changes. It allocates nothing. -/
theorem proceeds_addLine {start finish : Value}
    (allowed : scope.operand start ∧ scope.operand finish) {tag : Value} :
    Proceeds (Change scope) (addLine start finish tag) :=
  fun _ => changes_point fun s s_seen => changes_point fun f f_seen =>
    changes_blockless rfl
      (parts_found [(start, s), (finish, f)] (by simp [allowed]) (by simp [s_seen, f_seen]) rfl)

/-- Adding a circle proceeds by changes. -/
theorem proceeds_addCircle {center : Value} (allowed : scope.operand center)
    {radius fixed tag : Value} : Proceeds (Change scope) (addCircle center radius fixed tag) :=
  fun _ => changes_point fun c c_seen =>
    changes_drawn rfl
      (parts_found [(center, c)] (by simp [allowed]) (by simp [c_seen]) rfl)

/-- Adding an arc of a circle proceeds by changes. -/
theorem proceeds_addArc {center start finish : Value}
    (allowed : scope.operand center ∧ scope.operand start ∧ scope.operand finish)
    {startAngle endAngle radius fixed tag : Value} :
    Proceeds (Change scope) (addArc center start finish startAngle endAngle radius fixed tag) :=
  fun _ => changes_point fun c c_seen => changes_point fun s s_seen => changes_point fun f f_seen =>
    changes_drawnRuled (scope.rules _ (by simp)) rfl
      (parts_found [(center, c), (start, s), (finish, f)] (by simp [allowed])
        (by simp [c_seen, s_seen, f_seen]) rfl)

/-- Adding an ellipse proceeds by changes. -/
theorem proceeds_addEllipse {center focus : Value}
    (allowed : scope.operand center ∧ scope.operand focus) {minorRadius fixed tag : Value} :
    Proceeds (Change scope) (addEllipse center focus minorRadius fixed tag) :=
  fun _ => changes_point fun c c_seen => changes_point fun f f_seen =>
    changes_drawn rfl
      (parts_found [(center, c), (focus, f)] (by simp [allowed]) (by simp [c_seen, f_seen]) rfl)

/-- Adding an arc of an ellipse proceeds by changes. -/
theorem proceeds_addArcOfEllipse {center focus start finish : Value}
    (allowed : scope.operand center ∧ scope.operand focus ∧ scope.operand start ∧
      scope.operand finish) {startAngle endAngle minorRadius fixed tag : Value} :
    Proceeds (Change scope)
      (addArcOfEllipse center focus start finish startAngle endAngle minorRadius fixed tag) :=
  fun _ => changes_point fun c c_seen => changes_point fun f f_seen =>
    changes_point fun s s_seen => changes_point fun e e_seen =>
      changes_drawnRuled (scope.rules _ (by simp)) rfl
        (parts_found [(center, c), (focus, f), (start, s), (finish, e)] (by simp [allowed])
          (by simp [c_seen, f_seen, s_seen, e_seen]) rfl)

/-- Adding a hyperbola proceeds by changes. -/
theorem proceeds_addHyperbola {center focus : Value}
    (allowed : scope.operand center ∧ scope.operand focus) {minorRadius fixed tag : Value} :
    Proceeds (Change scope) (addHyperbola center focus minorRadius fixed tag) :=
  fun _ => changes_point fun c c_seen => changes_point fun f f_seen =>
    changes_drawn rfl
      (parts_found [(center, c), (focus, f)] (by simp [allowed]) (by simp [c_seen, f_seen]) rfl)

/-- Adding an arc of a hyperbola proceeds by changes. -/
theorem proceeds_addArcOfHyperbola {center focus start finish : Value}
    (allowed : scope.operand center ∧ scope.operand focus ∧ scope.operand start ∧
      scope.operand finish) {startAngle endAngle minorRadius fixed tag : Value} :
    Proceeds (Change scope)
      (addArcOfHyperbola center focus start finish startAngle endAngle minorRadius fixed tag) :=
  fun _ => changes_point fun c c_seen => changes_point fun f f_seen =>
    changes_point fun s s_seen => changes_point fun e e_seen =>
      changes_drawnRuled (scope.rules _ (by simp)) rfl
        (parts_found [(center, c), (focus, f), (start, s), (finish, e)] (by simp [allowed])
          (by simp [c_seen, f_seen, s_seen, e_seen]) rfl)

/-- Adding a parabola proceeds by changes. It allocates nothing. -/
theorem proceeds_addParabola {vertex focus : Value}
    (allowed : scope.operand vertex ∧ scope.operand focus) {tag : Value} :
    Proceeds (Change scope) (addParabola vertex focus tag) :=
  fun _ => changes_point fun v v_seen => changes_point fun f f_seen =>
    changes_blockless rfl
      (parts_found [(vertex, v), (focus, f)] (by simp [allowed]) (by simp [v_seen, f_seen]) rfl)

/-- Adding an arc of a parabola proceeds by changes. -/
theorem proceeds_addArcOfParabola {vertex focus start finish : Value}
    (allowed : scope.operand vertex ∧ scope.operand focus ∧ scope.operand start ∧
      scope.operand finish) {startAngle endAngle fixed tag : Value} :
    Proceeds (Change scope)
      (addArcOfParabola vertex focus start finish startAngle endAngle fixed tag) :=
  fun _ => changes_point fun v v_seen => changes_point fun f f_seen =>
    changes_point fun s s_seen => changes_point fun e e_seen =>
      changes_drawnRuled (scope.rules _ (by simp)) rfl
        (parts_found [(vertex, v), (focus, f), (start, s), (finish, e)] (by simp [allowed])
          (by simp [v_seen, f_seen, s_seen, e_seen]) rfl)

/-- What was done before a look stays if that is refused. -/
theorem changes_looks {request : Session α} {known : α → Prop} {next : α → Session β}
    {middle : Sketch} (looks : Looks request known) (before : Changes scope sketch middle)
    (later : ∀ answer, known answer → Changes scope sketch ((next answer).outcome middle).2) :
    Changes scope sketch ((request >>= next).outcome middle).2 := by
  rcases looks.outcome_cases next middle with ⟨fault, refused⟩ | ⟨answer, held, went⟩
  · rw [refused]
    exact before
  · rw [went]
    exact later answer held

/-- A point over two slots of a block is these slots. -/
theorem looks_blockPoint (block : List Nat) (place : Nat) :
    Looks (blockPoint block place) fun p =>
      p.x = blockSlot block place ∧ p.y = blockSlot block (place + 1) := by
  intro sketch
  have bound (figure : Figure) :
      (bind figure).outcome sketch = (sketch.store.bind figure, sketch) := by
    unfold bind
    rw [outcome_get_bind, outcome_liftM]
  unfold blockPoint
  dsimp only
  rw [outcome_bind, bound]
  cases sketch.store.bind (.point (blockSlot block place) (blockSlot block (place + 1))) with
  | error fault => exact ⟨rfl, fun p answered => by cases answered⟩
  | ok view =>
    refine ⟨rfl, fun p answered => ?_⟩
    cases answered
    exact ⟨rfl, rfl⟩

/-- A spline over a block of its own is registered, and ruled unless it is periodic. -/
theorem changes_addSplineFigure {reals : List Float} {fixed : Bool} {t : Int} {spline : Spline}
    {tag : Value} {periodic : Bool} (read : tag.toInteger = .ok t)
    (own : spline.block = (List.range' sketch.store.size reals.length).map Int.ofNat) :
    Changes scope sketch ((if periodic then addFigure (.bspline spline) tag
      else addRuled (.bspline spline) "bspline_end_rules" tag).outcome
        { sketch with store := (sketch.store.append reals fixed t).2 }).2 := by
  have parts : ∀ part ∈ (Figure.bspline spline).parts,
      sketch.IsPart scope (Figure.bspline spline).ownIndices part := by
    intro part there
    obtain ⟨p, -, rfl⟩ := List.mem_map.mp there
    exact .inr ⟨rfl, fun index among => Figure.mem_indices_of_mem_parts there among⟩
  cases periodic with
  | true => exact changes_addFigure (fun _ => read) own parts
  | false => exact changes_addRuled (scope.rules _ (by simp)) (fun _ => read) own parts

/-- Adding a spline proceeds by changes. -/
theorem proceeds_addSpline
    {poles weights knots multiplicities degree periodic start finish fixed tag : Value} :
    Proceeds (Change scope)
      (addSpline poles weights knots multiplicities degree periodic start finish fixed tag) := by
  intro sketch
  unfold addSpline
  refine changes_looks (.liftM _) .refl fun poleCount _ => ?_
  refine changes_looks (.liftM _) .refl fun weightCount _ => ?_
  refine changes_looks (.liftM _) .refl fun knotCount _ => ?_
  refine changes_looks (.liftM _) .refl fun multiplicityCount _ => ?_
  refine changes_looks (.check _) .refl fun _ _ => ?_
  refine changes_looks (.liftM _) .refl fun coordinates _ => ?_
  refine changes_looks (.liftM _) .refl fun weights _ => ?_
  refine changes_looks (.liftM _) .refl fun knots _ => ?_
  refine changes_allocateBlock fun reals b t count read => ?_
  -- What is refused from here on leaves the block behind.
  have grown : Changes scope sketch
      { sketch with store := (sketch.store.append reals b t).2 } := .single (.grown reals b t)
  dsimp only
  refine changes_looks (.mapM fun i => looks_blockPoint _ _) grown fun poles placed => ?_
  refine changes_looks (looks_blockPoint _ _) grown fun start startPlaced => ?_
  refine changes_looks (looks_blockPoint _ _) grown fun finish finishPlaced => ?_
  refine changes_looks (.liftM _) grown fun multiplicities _ => ?_
  refine changes_looks (.liftM _) grown fun degree _ => ?_
  refine changes_looks (.liftM _) grown fun periodic _ => ?_
  have full := coordinates.length_values weights knots
  rw [← count] at full placed startPlaced finishPlaced ⊢
  refine changes_addSplineFigure read (block_placed full placed rfl rfl ?_ ?_)
  · exact congrArg₂ (fun x y => [x, y]) startPlaced.1 startPlaced.2
  · exact congrArg₂ (fun x y => [x, y]) finishPlaced.1 finishPlaced.2

end Session

end Drafting
