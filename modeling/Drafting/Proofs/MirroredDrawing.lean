import Drafting.Proofs.MirroredRequests
import Drafting.Sketch.Drawing

/-!
# Drawing on sketches that mirror each other

What is drawn over corresponding points stands over the same slots and is registered under the
identifier that is ahead. An arc or an open spline is ruled by a built-in constraint, whose operand
is that identifier. What is removed by a tag is the same in both sketches, and both are cleared
alike.
-/

namespace Drafting

namespace Shift

variable {shift : Shift} {kinds : Catalog}

open Session

section Registering

/-- A figure is bound in both stores. -/
theorem simulates_bind (figure : Figure) :
    shift.Simulates kinds (fun view other => other = shift.view view) (bind figure)
      (bind (figure.rebound shift.binding)) :=
  .get_bind fun _ _ standing => .liftM (shift.bind_store standing.home figure)

/-- A view is registered in both tables. -/
theorem simulates_addView (view : View) (tag : Value) :
    shift.Simulates kinds (fun id other => other = id + shift.ids) (addView view tag)
      (addView (shift.view view) tag) := by
  refine .get_bind fun s journal _ => ?_
  obtain ⟨alike, table⟩ := shift.add_table s.table view tag
  have registered : ((shift.sketch s).withJournal journal).table.add (shift.view view) tag =
      (((shift.table s.table).add (shift.view view) tag).1,
        shift.table (s.table.add view tag).2) := Prod.ext rfl table
  rw [registered]
  refine .bind_same (.modify fun _ _ standing => ⟨rfl, { standing with }, rfl⟩) fun _ => ?_
  refine (Simulates.liftM alike).bind ?_
  rintro id _ rfl
  exact .bind_same simulates_noteTag fun _ => .pure rfl

/-- A figure is registered in both tables. -/
theorem simulates_addFigure (figure : Figure) (tag : Value) :
    shift.Simulates kinds (fun id other => other = id + shift.ids) (addFigure figure tag)
      (addFigure (figure.rebound shift.binding) tag) := by
  refine (simulates_bind figure).bind ?_
  rintro view _ rfl
  exact simulates_addView view tag

/-- A figure is drawn over the same block in both sketches. -/
theorem simulates_drawn {values : List Value} {fixed tag : Value}
    {figure figure' : List Nat → Figure}
    (same : ∀ block, figure' block = (figure block).rebound shift.binding) :
    shift.Simulates kinds (fun id other => other = id + shift.ids)
      (allocateBlock values fixed tag >>= fun block => addFigure (figure block) tag)
      (allocateBlock values fixed tag >>= fun block => addFigure (figure' block) tag) := by
  refine .bind_same (simulates_allocateBlock values fixed tag) fun block => ?_
  rw [same]
  exact simulates_addFigure (figure block) tag

/-- What follows a point that is found by corresponding references. -/
theorem simulates_point_bind {α β : Type} {related : α → β → Prop} {value : Value}
    {next : View → Session α} {next' : View → Session β}
    (later : ∀ view, shift.Simulates kinds related (next view) (next' (shift.view view))) :
    shift.Simulates kinds related (point value >>= next)
      (point (shift.reference value) >>= next') :=
  (simulates_point value).bind fun view _ same => same ▸ later view

variable (impartial : kinds.Impartial)

include impartial

/-- The operand of a rule is the identifier that is ahead. -/
theorem given_rules {kind : BuiltinKind} {slot : SlotKind} (single : kind.slots = [slot])
    (geometric : slot ≠ .scalar) (id : Nat) :
    shift.given kinds (.text kind.name) [.int id] = [.int (id + shift.ids : Nat)] := by
  have known := Catalog.lookup_of_find? (impartial.builtin kind)
  have place : kind.toKind.slots = [slot] := single
  unfold given
  rw [known]
  dsimp only
  rw [place]
  show [shift.offered slot (.int id)] = _
  unfold offered
  rw [if_neg geometric]
  rfl

/-- A figure is registered in both tables and ruled in both sketches. -/
theorem simulates_addRuled (kind : BuiltinKind) {slot : SlotKind} (single : kind.slots = [slot])
    (geometric : slot ≠ .scalar) (figure : Figure) (tag : Value) :
    shift.Simulates kinds (fun id other => other = id + shift.ids)
      (addRuled figure kind.name tag)
      (addRuled (figure.rebound shift.binding) kind.name tag) := by
  refine (simulates_addFigure figure tag).bind ?_
  rintro id _ rfl
  have ruled :=
    @simulates_constrain shift kinds impartial (.text kind.name) [.int id] .standard tag
  rw [given_rules impartial single geometric] at ruled
  exact .bind_same ruled.discard fun _ => .pure rfl

/-- A ruled figure is drawn over the same block in both sketches. -/
theorem simulates_drawnRuled {values : List Value} {fixed tag : Value}
    {figure figure' : List Nat → Figure} (kind : BuiltinKind) {slot : SlotKind}
    (single : kind.slots = [slot]) (geometric : slot ≠ .scalar)
    (same : ∀ block, figure' block = (figure block).rebound shift.binding) :
    shift.Simulates kinds (fun id other => other = id + shift.ids)
      (allocateBlock values fixed tag >>= fun block => addRuled (figure block) kind.name tag)
      (allocateBlock values fixed tag >>= fun block => addRuled (figure' block) kind.name tag) := by
  refine .bind_same (simulates_allocateBlock values fixed tag) fun block => ?_
  rw [same]
  exact simulates_addRuled impartial kind single geometric (figure block) tag

end Registering

section Drawing

/-- A point is added to both sketches. -/
theorem simulates_addPoint (x y fixed tag : Value) :
    shift.Simulates kinds (fun id other => other = id + shift.ids) (addPoint x y fixed tag)
      (addPoint x y fixed tag) :=
  simulates_drawn fun _ => rfl

/-- A line is added to both sketches. -/
theorem simulates_addLine (start finish tag : Value) :
    shift.Simulates kinds (fun id other => other = id + shift.ids) (addLine start finish tag)
      (addLine (shift.reference start) (shift.reference finish) tag) :=
  simulates_point_bind fun start => simulates_point_bind fun finish =>
    simulates_addFigure (.line start finish) tag

/-- A circle is added to both sketches. -/
theorem simulates_addCircle (center radius fixed tag : Value) :
    shift.Simulates kinds (fun id other => other = id + shift.ids)
      (addCircle center radius fixed tag)
      (addCircle (shift.reference center) radius fixed tag) :=
  simulates_point_bind fun _ => simulates_drawn fun _ => rfl

/-- An ellipse is added to both sketches. -/
theorem simulates_addEllipse (center focus minorRadius fixed tag : Value) :
    shift.Simulates kinds (fun id other => other = id + shift.ids)
      (addEllipse center focus minorRadius fixed tag)
      (addEllipse (shift.reference center) (shift.reference focus) minorRadius fixed tag) :=
  simulates_point_bind fun _ => simulates_point_bind fun _ => simulates_drawn fun _ => rfl

/-- A hyperbola is added to both sketches. -/
theorem simulates_addHyperbola (center focus minorRadius fixed tag : Value) :
    shift.Simulates kinds (fun id other => other = id + shift.ids)
      (addHyperbola center focus minorRadius fixed tag)
      (addHyperbola (shift.reference center) (shift.reference focus) minorRadius fixed tag) :=
  simulates_point_bind fun _ => simulates_point_bind fun _ => simulates_drawn fun _ => rfl

/-- A parabola is added to both sketches. -/
theorem simulates_addParabola (vertex focus tag : Value) :
    shift.Simulates kinds (fun id other => other = id + shift.ids) (addParabola vertex focus tag)
      (addParabola (shift.reference vertex) (shift.reference focus) tag) :=
  simulates_point_bind fun vertex => simulates_point_bind fun focus =>
    simulates_addFigure (.parabola vertex focus) tag

/-- A point over two slots of a block is bound in both stores. -/
theorem simulates_blockPoint (block : List Nat) (place : Nat) :
    shift.Simulates kinds (fun p other => other = p.rebound shift.binding)
      (blockPoint block place) (blockPoint block place) := by
  refine (simulates_bind (.point (blockSlot block place) (blockSlot block (place + 1)))).bind ?_
  rintro view _ rfl
  have binding : (shift.view view).binding = view.binding.map shift.binding :=
    View.binding_rebound view
  rw [binding]
  exact .pure rfl

variable (impartial : kinds.Impartial)

include impartial

/-- An arc of a circle is added to both sketches. -/
theorem simulates_addArc (center start finish startAngle endAngle radius fixed tag : Value) :
    shift.Simulates kinds (fun id other => other = id + shift.ids)
      (addArc center start finish startAngle endAngle radius fixed tag)
      (addArc (shift.reference center) (shift.reference start) (shift.reference finish) startAngle
        endAngle radius fixed tag) :=
  simulates_point_bind fun _ => simulates_point_bind fun _ => simulates_point_bind fun _ =>
    simulates_drawnRuled impartial .arcRules rfl nofun fun _ => rfl

/-- An arc of an ellipse is added to both sketches. -/
theorem simulates_addArcOfEllipse
    (center focus start finish startAngle endAngle minorRadius fixed tag : Value) :
    shift.Simulates kinds (fun id other => other = id + shift.ids)
      (addArcOfEllipse center focus start finish startAngle endAngle minorRadius fixed tag)
      (addArcOfEllipse (shift.reference center) (shift.reference focus) (shift.reference start)
        (shift.reference finish) startAngle endAngle minorRadius fixed tag) :=
  simulates_point_bind fun _ => simulates_point_bind fun _ => simulates_point_bind fun _ =>
    simulates_point_bind fun _ =>
      simulates_drawnRuled impartial .ellipseArcRules rfl nofun fun _ => rfl

/-- An arc of a hyperbola is added to both sketches. -/
theorem simulates_addArcOfHyperbola
    (center focus start finish startAngle endAngle minorRadius fixed tag : Value) :
    shift.Simulates kinds (fun id other => other = id + shift.ids)
      (addArcOfHyperbola center focus start finish startAngle endAngle minorRadius fixed tag)
      (addArcOfHyperbola (shift.reference center) (shift.reference focus) (shift.reference start)
        (shift.reference finish) startAngle endAngle minorRadius fixed tag) :=
  simulates_point_bind fun _ => simulates_point_bind fun _ => simulates_point_bind fun _ =>
    simulates_point_bind fun _ =>
      simulates_drawnRuled impartial .hyperbolaArcRules rfl nofun fun _ => rfl

/-- An arc of a parabola is added to both sketches. -/
theorem simulates_addArcOfParabola
    (vertex focus start finish startAngle endAngle fixed tag : Value) :
    shift.Simulates kinds (fun id other => other = id + shift.ids)
      (addArcOfParabola vertex focus start finish startAngle endAngle fixed tag)
      (addArcOfParabola (shift.reference vertex) (shift.reference focus) (shift.reference start)
        (shift.reference finish) startAngle endAngle fixed tag) :=
  simulates_point_bind fun _ => simulates_point_bind fun _ => simulates_point_bind fun _ =>
    simulates_point_bind fun _ =>
      simulates_drawnRuled impartial .parabolaArcRules rfl nofun fun _ => rfl

/-- A spline is added to both sketches. Its points are those of its own block. -/
theorem simulates_addSpline
    (poles weights knots multiplicities degree periodic start finish fixed tag : Value) :
    shift.Simulates kinds (fun id other => other = id + shift.ids)
      (addSpline poles weights knots multiplicities degree periodic start finish fixed tag)
      (addSpline poles weights knots multiplicities degree periodic start finish fixed tag) := by
  unfold addSpline
  refine .step_bind fun poleCount => .step_bind fun weightCount => .step_bind fun knotCount =>
    .step_bind fun multiplicityCount => ?_
  refine .bind_same (Simulates.liftM (.refl _)).discard fun _ => ?_
  refine .step_bind fun coordinates => .step_bind fun weights => .step_bind fun knots => ?_
  refine .bind_same (simulates_allocateBlock _ _ _) fun block => ?_
  have placed := @Simulates.mapM_map shift kinds _ _ _ _ (fun i => i) (Point.rebound shift.binding)
    _ _ (fun i => simulates_blockPoint block (2 * i)) (List.range coordinates.poles.length)
  rw [List.map_id'] at placed
  refine placed.bind ?_
  rintro poles _ rfl
  refine (simulates_blockPoint _ _).bind ?_
  rintro start _ rfl
  refine (simulates_blockPoint _ _).bind ?_
  rintro finish _ rfl
  refine .step_bind fun multiplicities => .step_bind fun degree => .step_bind fun periodic => ?_
  cases periodic with
  | true => exact simulates_addFigure (.bspline _) tag
  | false => exact simulates_addRuled impartial .splineEndRules rfl nofun (.bspline _) tag

end Drawing

section Removing

/-- What has a tag is removed from both sketches. -/
theorem simulates_removeTag (tag : Value) :
    shift.Simulates kinds (fun ids others => others = shift.list ids) (removeTag tag)
      (removeTag tag) := by
  have selected (s : Sketch) : shift.Simulates kinds
      (fun removed others => others = removed.map shift.constraint)
      (s.constraints.filterM fun c => liftM (tag.equalsInteger c.tag))
      ((s.constraints.map shift.constraint).filterM fun c => liftM (tag.equalsInteger c.tag)) :=
    @Simulates.filterM_map shift kinds _ _ shift.constraint _ _
      (fun c => .liftM (.refl (tag.equalsInteger c.tag))) s.constraints
  refine .get_bind fun s journal _ => (selected s).bind ?_
  rintro removed _ rfl
  have ids := shift.map_id_constraint removed
  have kept (constraints : List Constraint) :
      (constraints.map shift.constraint).filter
          (fun c => !(shift.list (removed.map (·.id))).contains c.id) =
        (constraints.filter fun c => !(removed.map (·.id)).contains c.id).map shift.constraint :=
    filter_map_of_same shift.constraint
      (fun c => congrArg (!·) (shift.contains_list _ c.id)) constraints
  dsimp only
  rw [ids]
  refine .bind_same (.modify fun s journal standing => ⟨?_, ?_, rfl⟩) fun _ => ?_
  · exact congrArg
      (fun constraints => ({ (shift.sketch s).withJournal journal with constraints } : Sketch))
      (kept s.constraints)
  · exact { standing with
      exact := fun all c there => standing.exact all c (List.mem_of_mem_filter there) }
  refine .bind_same (simulates_retire tag) fun retired => ?_
  refine .bind_same simulates_noteTag fun _ => ?_
  refine .get_bind fun s journal _ => ?_
  have dropped : Alike (fun result other => other = (shift.list result.1, shift.table result.2))
      (s.table.removeTag tag) ((shift.table s.table).removeTag tag) := by
    rw [shift.removeTag_table]
    cases s.table.removeTag tag <;> rfl
  refine (Simulates.liftM dropped).bind ?_
  rintro ⟨_, table⟩ _ rfl
  exact .bind_same (.modify fun _ _ standing => ⟨rfl, { standing with }, rfl⟩) fun _ => .pure rfl

/-- Both sketches are cleared. -/
theorem simulates_clear : shift.Simulates kinds (· = ·) clear clear := by
  refine .get_bind fun s journal _ => ?_
  refine .bind_same simulates_note fun _ => ?_
  refine .bind_same (.modify fun _ _ standing => ⟨rfl, ?_, rfl⟩) fun _ => ?_
  · exact { standing with exact := fun _ => List.forall_mem_nil _ }
  refine .bind_same simulates_clearStore fun _ => ?_
  exact .modify fun _ _ standing => ⟨rfl, { standing with }, rfl⟩

end Removing

end Shift

end Drafting
