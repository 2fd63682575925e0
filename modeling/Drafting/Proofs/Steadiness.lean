import Drafting.Proofs.Requesting

/-!
# What only a solve and clearing touch

The outcome of the last solve, and the generation of the store it belongs to, are left alone by
every request but two: a solve that is answered replaces the one, and clearing drops it and begins
the next generation. Refusals are no exception.
-/

namespace Drafting

/-- A step that keeps the outcome of the last solve, and the store with its generation. -/
def Sketch.Steady (before after : Sketch) : Prop :=
  after.attempt = before.attempt ∧ after.store.binding = before.store.binding

/-- A step that covers every line in the journal, and whatever happens to slots as long as it begins
no generation. -/
structure Session.Covers (step : Sketch → Sketch → Prop) : Prop where
  noted : ∀ sketch journal, step sketch (sketch.withJournal journal)
  stored : ∀ (sketch : Sketch) store, store.binding = sketch.store.binding →
    step sketch { sketch with store }

/-- Steady steps one after the other are steady. -/
theorem Sketch.steady_of_steps {before after : Sketch}
    (steps : Relation.ReflTransGen Steady before after) : before.Steady after := by
  induction steps with
  | refl => exact ⟨rfl, rfl⟩
  | tail _ last ih => exact ⟨last.1.trans ih.1, last.2.trans ih.2⟩

namespace Store

/-- Writing to what is free begins no generation. -/
theorem binding_writeFreeAll (store : Store) (pairs : List (Nat × Float)) :
    (store.writeFreeAll pairs).2.binding = store.binding := by
  induction pairs generalizing store with
  | nil => rfl
  | cons pair rest ih =>
    have written : (store.writeFree pair.1 pair.2).2.binding = store.binding := by
      unfold writeFree
      split
      · split <;> rfl
      · rfl
    exact (ih _).trans written

/-- Retiring begins no generation. -/
theorem binding_retireTag (store : Store) (tag : Int) :
    (store.retireTag tag).2.binding = store.binding := by
  unfold retireTag
  dsimp only
  generalize store.indicesWhere _ = hits
  induction hits generalizing store with
  | nil => rfl
  | cons hit rest ih => exact ih (store.retireSlot hit)

/-- Overwriting begins no generation. -/
theorem binding_set (store : Store) (index value fixed : Value) :
    (store.set index value fixed).2.binding = store.binding := by
  rcases store.set_cases index value fixed with left | ⟨place, x, left | ⟨flag, left⟩⟩ <;>
    rw [left] <;> rfl

end Store

namespace Session

variable {α : Type} {step : Sketch → Sketch → Prop}

open Sketch (Steady)

/-- A line in the journal is covered. -/
theorem Covers.note {level : Level} {source : Source} {message : String} (covers : Covers step) :
    Proceeds step (note level source message) := .modify fun sketch => covers.noted sketch _

/-- A line about a tag is covered. -/
theorem Covers.noteTag {level : Level} {source : Source} {before after : String} {tag : Value}
    (covers : Covers step) : Proceeds step (noteTag level source before tag after) := by
  intro sketch
  obtain ⟨answer, journal, noted, -⟩ := outcome_noteTag level source before tag after sketch
  rw [noted]
  exact .single (covers.noted sketch journal)

/-- An operation on the store is covered if it begins no generation. -/
theorem Covers.onStore {operation : Store → Except Fault (α × Store)} (covers : Covers step)
    (keeps : ∀ store answer grown, operation store = .ok (answer, grown) →
      grown.binding = store.binding) : Proceeds step (onStore operation) := by
  intro sketch
  rw [outcome_onStore]
  cases done : operation sketch.store with
  | error fault => exact .refl
  | ok result =>
    exact .single (covers.stored sketch result.2 (keeps sketch.store result.1 result.2 done))

/-- Allocating a slot is covered. -/
theorem Covers.push {value fixed tag : Value} (covers : Covers step) :
    Proceeds step (Session.onStore (·.push value fixed tag)) :=
  covers.onStore fun _ _ _ pushed => by
    obtain ⟨_, _, _, -, rfl⟩ := Store.push_eq_ok pushed
    rfl

/-- Allocating a block is covered. -/
theorem Covers.allocateBlock {values : List Value} {fixed tag : Value} (covers : Covers step) :
    Proceeds step (allocateBlock values fixed tag) :=
  covers.onStore fun _ _ _ pushed => by
    obtain ⟨_, _, _, -, -, -, rfl⟩ := Store.pushAll_eq_ok pushed
    rfl

/-- Retiring is covered. -/
theorem Covers.retire {tag : Value} (covers : Covers step) : Proceeds step (retire tag) := by
  refine .bind (covers.onStore fun store hits after done => ?_) fun hits => ?_
  · obtain ⟨t, -, answered⟩ := bind_eq_ok.mp done
    cases answered
    exact Store.binding_retireTag store t
  · split
    · exact .pure _
    · exact .bind covers.noteTag fun _ => .pure _

/-- Overwriting a slot is covered. -/
theorem Covers.setSlot {index value fixed : Value} (covers : Covers step) :
    Proceeds step (setSlot index value fixed) := by
  refine .get_bind fun sketch => ?_
  dsimp only
  rw [outcome_modify_bind, outcome_liftM]
  exact .single (covers.stored sketch _ (Store.binding_set ..))

/-- Measuring a further constraint is covered. -/
theorem Covers.measureNext {vector : Array Float} {measured : List (Nat × Float)}
    {c : Constraint} (covers : Covers step) : Proceeds step (measureNext vector measured c) := by
  refine .bind (.liftM _) fun slot => ?_
  split
  · exact .pure _
  · refine .bind (.bind (.liftM _) fun search => ?_) fun _ => .pure _
    dsimp only
    split
    · exact .bind covers.note fun _ => .pure _
    · exact .pure _

/-- Storing a measurement is covered. -/
theorem Covers.commitMeasurement {slot : Nat} {value : Float} (covers : Covers step) :
    Proceeds step (commitMeasurement slot value) := by
  unfold Session.commitMeasurement
  split
  · exact covers.setSlot
  · exact .pure _

/-- Applying is covered. -/
theorem Covers.apply {bestEffort : Value} (covers : Covers step) :
    Proceeds step (apply bestEffort) := by
  refine .bind (fun sketch => ?_) fun _ => .bind .get fun sketch =>
    .bind (.liftM _) fun pending => ?_
  · obtain ⟨journal, noted⟩ := outcome_noteStale sketch
    rw [noted]
    exact .single (covers.noted sketch journal)
  · split
    · exact .pure _
    · refine .bind (.bind (covers.onStore fun store count after done => ?_) fun _ => .pure _)
        fun _ => .bind .get fun _ => .bind (.bind ?_ fun _ => .pure _) fun _ => .pure _
      · obtain ⟨⟨⟩, -, answered⟩ := bind_eq_ok.mp done
        obtain rfl : _ = after := congrArg Prod.snd (Except.ok.inj answered)
        exact Store.binding_writeFreeAll ..
      · exact .bind (.bind .get fun _ => .foldlM (fun _ _ => covers.measureNext) _) fun _ =>
          .bind (.forM fun _ => covers.commitMeasurement) fun _ => .pure _

/-- A steady step covers what changes only slots. -/
theorem covers_steady : Covers Steady where
  noted _ _ := ⟨rfl, rfl⟩
  stored _ _ same := ⟨rfl, same⟩

/-- Finding a point is steady. -/
theorem steady_point {value : Value} : Proceeds Steady (point value) :=
  .bind .get fun _ => .liftM _

/-- Defining a parameter is steady. -/
theorem steady_addParameter {name value fixed tag : Value} :
    Proceeds Steady (addParameter name value fixed tag) := by
  unfold addParameter
  split
  · split
    · exact .throw _
    refine .bind .get fun sketch => ?_
    split
    · exact .throw _
    · exact .bind covers_steady.push fun _ => .bind (.modify fun _ => ⟨rfl, rfl⟩) fun _ => .pure _
  · exact .throw _

/-- Registering a figure is steady. -/
theorem steady_addFigure {figure : Figure} {tag : Value} :
    Proceeds Steady (addFigure figure tag) := by
  refine .bind (.bind .get fun _ => .liftM _) fun view sketch => ?_
  rcases outcome_addView_cases view tag sketch with
    ⟨fault, -, refused⟩ | ⟨fault, -, refused⟩ | ⟨t, answer, journal, -, registered, -⟩
  · rw [refused]
  · rw [refused]
    exact .single ⟨rfl, rfl⟩
  · rw [registered]
    exact .single ⟨rfl, rfl⟩

/-- Registering a constraint is steady. -/
theorem steady_constrain {kind : Value} {operands : List Value} {modifiers : Modifiers}
    {tag : Value} : Proceeds Steady (constrain kind operands modifiers tag) := by
  intro sketch
  rcases outcome_constrain_cases kind operands modifiers tag sketch with
    ⟨fault, journal, refused⟩ |
    ⟨spec, resolved, -, ⟨fault, t, journal, refused, -⟩ |
      ⟨t, block, answer, journal, -, -, registered, -⟩⟩
  · rw [refused]
    exact .single ⟨rfl, rfl⟩
  · rw [refused]
    exact .single ⟨rfl, rfl⟩
  · rw [registered]
    exact .single ⟨rfl, rfl⟩

/-- Registering a figure with its rules is steady. -/
theorem steady_addRuled {figure : Figure} {rules : String} {tag : Value} :
    Proceeds Steady (addRuled figure rules tag) :=
  .bind steady_addFigure fun _ =>
    .bind (.bind steady_constrain fun _ => .pure _) fun _ => .pure _

/-- Drawing a figure over a block is steady. -/
theorem steady_drawn {values : List Value} {fixed tag : Value} {figure : List Nat → Figure} :
    Proceeds Steady (allocateBlock values fixed tag >>= fun block =>
      addFigure (figure block) tag) :=
  .bind covers_steady.allocateBlock fun _ => steady_addFigure

/-- Drawing a figure with its rules over a block is steady. -/
theorem steady_drawnRuled {values : List Value} {fixed tag : Value} {figure : List Nat → Figure}
    {rules : String} :
    Proceeds Steady (allocateBlock values fixed tag >>= fun block =>
      addRuled (figure block) rules tag) :=
  .bind covers_steady.allocateBlock fun _ => steady_addRuled

/-- What follows the finding of a point is steady as a whole if it is steady. -/
theorem steady_point_bind {value : Value} {next : View → Session α}
    (later : ∀ view, Proceeds Steady (next view)) : Proceeds Steady (point value >>= next) :=
  .bind steady_point later

/-- Adding a spline is steady. -/
theorem steady_addSpline
    {poles weights knots multiplicities degree periodic start finish fixed tag : Value} :
    Proceeds Steady
      (addSpline poles weights knots multiplicities degree periodic start finish fixed tag) := by
  unfold addSpline
  refine .bind (.liftM _) fun _ => .bind (.liftM _) fun _ => .bind (.liftM _) fun _ =>
    .bind (.liftM _) fun _ => .bind (Looks.check _).proceeds fun _ => .bind (.liftM _) fun _ =>
      .bind (.liftM _) fun _ => .bind (.liftM _) fun _ =>
        .bind covers_steady.allocateBlock fun _ => ?_
  refine .bind (Looks.mapM fun _ => looks_blockPoint _ _).proceeds fun _ =>
    .bind (looks_blockPoint _ _).proceeds fun _ => .bind (looks_blockPoint _ _).proceeds fun _ =>
      .bind (.liftM _) fun _ => .bind (.liftM _) fun _ => .bind (.liftM _) fun periodic => ?_
  split
  · exact steady_addFigure
  · exact steady_addRuled

/-- Registering a kind is steady. -/
theorem steady_registerKind {name : Value} {slots : List Value} {size : Value}
    {build : Nat → List Operand → Except Fault Block} :
    Proceeds Steady (registerKind name slots size build) :=
  .bind .get fun _ => .bind (.liftM _) fun _ => .bind (.modify fun _ => ⟨rfl, rfl⟩) fun _ =>
    covers_steady.note

/-- Removing by a tag is steady. -/
theorem steady_removeTag {tag : Value} : Proceeds Steady (removeTag tag) :=
  .bind .get fun _ => .bind (Looks.filterM fun _ => .liftM _).proceeds fun _ =>
    .bind (.modify fun _ => ⟨rfl, rfl⟩) fun _ => .bind covers_steady.retire fun _ =>
      .bind covers_steady.noteTag fun _ => .bind .get fun _ => .bind (.liftM _) fun _ =>
        .bind (.modify fun _ => ⟨rfl, rfl⟩) fun _ => .pure _

end Session

/-- Whether a request is neither a solve nor clearing. -/
def Request.IsSteady : Request → Prop
  | solve .. | clear => False
  | _ => True

open Session in
/-- Every request but a solve and clearing is steady. -/
theorem Request.steady {request : Request} (steady : request.IsSteady) :
    Proceeds Sketch.Steady request.perform := by
  cases request with
  | addParameter => exact .bind steady_addParameter fun _ => .pure _
  | parameter => exact .bind proceeds_parameter fun _ => .pure _
  | addPoint => exact .bind steady_drawn fun _ => .pure _
  | addLine =>
    exact .bind (steady_point_bind fun _ => steady_point_bind fun _ => steady_addFigure)
      fun _ => .pure _
  | addCircle => exact .bind (steady_point_bind fun _ => steady_drawn) fun _ => .pure _
  | addArc =>
    exact .bind (steady_point_bind fun _ => steady_point_bind fun _ => steady_point_bind fun _ =>
      steady_drawnRuled) fun _ => .pure _
  | addEllipse =>
    exact .bind (steady_point_bind fun _ => steady_point_bind fun _ => steady_drawn)
      fun _ => .pure _
  | addArcOfEllipse =>
    exact .bind (steady_point_bind fun _ => steady_point_bind fun _ => steady_point_bind fun _ =>
      steady_point_bind fun _ => steady_drawnRuled) fun _ => .pure _
  | addHyperbola =>
    exact .bind (steady_point_bind fun _ => steady_point_bind fun _ => steady_drawn)
      fun _ => .pure _
  | addArcOfHyperbola =>
    exact .bind (steady_point_bind fun _ => steady_point_bind fun _ => steady_point_bind fun _ =>
      steady_point_bind fun _ => steady_drawnRuled) fun _ => .pure _
  | addParabola =>
    exact .bind (steady_point_bind fun _ => steady_point_bind fun _ => steady_addFigure)
      fun _ => .pure _
  | addArcOfParabola =>
    exact .bind (steady_point_bind fun _ => steady_point_bind fun _ => steady_point_bind fun _ =>
      steady_point_bind fun _ => steady_drawnRuled) fun _ => .pure _
  | addSpline => exact .bind steady_addSpline fun _ => .pure _
  | geometry => exact .bind proceeds_geometry fun _ => .pure _
  | valueOf => exact .bind proceeds_valueOf fun _ => .pure _
  | pointCoordinates => exact .bind proceeds_pointCoordinates fun _ => .pure _
  | addConstraint => exact .bind (.bind (.liftM _) fun _ => steady_constrain) fun _ => .pure _
  | registerKind => exact .bind steady_registerKind fun _ => .pure _
  | removeTag => exact .bind steady_removeTag fun _ => .pure _
  | solve => cases steady
  | apply => exact .bind covers_steady.apply fun _ => .pure _
  | diagnosis => exact .bind .get fun _ => .pure _
  | clear => cases steady

end Drafting
