import Drafting.Proofs.GeometryEmission

/-!
# Telling constraints

After the geometry of a sketch, its constraints are told to the other solver. By then every
registered line and circle has its entity, so all that a constraint can add are points that are not
registered and lines that are like none that is: these are drawn for each operand anew.
-/

namespace Drafting

/-- A view without bindings has its figure without bindings. -/
@[simp]
theorem View.figure_bare (view : View) : view.bare.figure = view.figure.bare := by
  obtain ⟨figure, _⟩ := view
  rw [View.bare]

namespace Figure

/-- A point has the same slots wherever it was bound. -/
@[simp]
theorem pair?_bare (figure : Figure) : figure.bare.pair? = figure.pair? := by
  cases figure <;> simp [Figure.bare, pair?]

/-- A figure consists of the same points wherever they were bound. -/
theorem pairs_bare (figure : Figure) : figure.bare.pairs = figure.pairs := by
  cases figure <;> simp [Figure.bare, pairs]

/-- A figure is drawn wherever it was bound. -/
theorem isDrawn_bare (figure : Figure) : figure.bare.isDrawn = figure.isDrawn := by
  cases figure <;> simp [Figure.bare, isDrawn]

end Figure

/-- The slots of the points that an operand consists of. -/
def Operand.pairs : Operand → List (Int × Int)
  | .view v => v.pairs
  | .scalar _ => []

/-- The slots of the points that a constraint is about. -/
def Constraint.pairs (c : Constraint) : List (Int × Int) := c.operands.flatMap Operand.pairs

namespace BuiltinKind

/-- The call that a kind of constraint has, of two entities and the value of a scalar. -/
def counterpart? : BuiltinKind → Option (Nat → Nat → Float → SolverCall)
  | coincident | pointOnLine | pointOnCircle =>
    some fun first second _ => .coincident first second
  | pointDistance => some .distance
  | parallel => some fun first second _ => .parallel first second
  | perpendicular => some fun first second _ => .perpendicular first second
  | lineAngle => some fun first second value => .angle first second (value * degreesPerRadian)
  | equalLength => some fun first second _ => .lengthDifference first second 0.0
  | _ => none

/-- The call of a kind creates no entity and refers to those of its operands. -/
theorem counterpart?_spec {kind : BuiltinKind} {call : Nat → Nat → Float → SolverCall}
    (counterpart : kind.counterpart? = some call) (first second : Nat) (value : Float) :
    (call first second value).places = false ∧ (call first second value).created? = none ∧
      (call first second value).refersTo = [first, second] := by
  cases kind <;> cases counterpart <;> exact ⟨rfl, rfl, rfl⟩

end BuiltinKind

/-- The value of the scalar that comes after two operands, if one does. -/
inductive Amount (store : Store) : List Operand → Float → Prop
  | none : Amount store [] 0.0
  | some {slot : Int} {value : Float} (read : store.valueAt slot = .ok value) :
      Amount store [.scalar slot] value

/-- What an operand is told as: a point, a line or a circle by the entity that it has anyway, and a
line like none that is registered by one that is drawn for it. -/
inductive ToldAs (sketch : Sketch) (points : PointEntities) (drawn : List (GeometryEntry × Nat)) :
    Operand → List SolverCall → Nat → Prop
  | point {x y : Int} {binding : Option Binding} {entity : Nat}
      (there : ((x, y), entity) ∈ points) :
      ToldAs sketch points drawn (.view ⟨.point x y, binding⟩) [] entity
  | registered {view : View} {entry : GeometryEntry} {entity : Nat}
      (alike : sketch.registered? view = some entry) (there : (entry, entity) ∈ drawn) :
      ToldAs sketch points drawn (.view view) [] entity
  | loose {view start finish : View} {first second entity : Nat}
      (figure : view.figure = .line start finish) (unlike : sketch.registered? view = none)
      (starts : Marks points start first) (finishes : Marks points finish second) :
      ToldAs sketch points drawn (.view view) [.line first second entity] entity

/-- The calls that tell a constraint: those that draw its operands, and the one that its kind has,
of the entities of its operands. -/
inductive Tells (sketch : Sketch) (points : PointEntities) (drawn : List (GeometryEntry × Nat)) :
    Constraint → List SolverCall → Prop
  | intro {c : Constraint} {kind : BuiltinKind} {call : Nat → Nat → Float → SolverCall}
      {first second : Operand} {amounts : List Operand} {own others : List SolverCall} {a b : Nat}
      {value : Float} (named : BuiltinKind.ofName? c.kind = some kind)
      (counterpart : kind.counterpart? = some call)
      (operands : c.operands = first :: second :: amounts)
      (firstTold : ToldAs sketch points drawn first own a)
      (secondTold : ToldAs sketch points drawn second others b)
      (amount : Amount sketch.store amounts value) :
      Tells sketch points drawn c (own ++ others ++ [call a b value])

variable {sketch : Sketch} {points more : PointEntities} {drawn : List (GeometryEntry × Nat)}

/-- An operand is told as the same entity where more points have one. -/
theorem ToldAs.mono (kept : points ⊆ more) {operand : Operand} {calls : List SolverCall}
    {entity : Nat} (told : ToldAs sketch points drawn operand calls entity) :
    ToldAs sketch more drawn operand calls entity := by
  cases told with
  | point there => exact .point (kept there)
  | registered alike there => exact .registered alike there
  | loose figure unlike starts finishes =>
    exact .loose figure unlike (starts.mono kept) (finishes.mono kept)

/-- A constraint is told by the same calls where more points have an entity. -/
theorem Tells.mono (kept : points ⊆ more) {c : Constraint} {calls : List SolverCall}
    (tells : Tells sketch points drawn c calls) : Tells sketch more drawn c calls := by
  cases tells with
  | intro named counterpart operands first second amount =>
    exact .intro named counterpart operands (first.mono kept) (second.mono kept) amount

/-- An amount is of no points. -/
theorem Amount.pairs_eq {store : Store} {amounts : List Operand} {value : Float}
    (amount : Amount store amounts value) : amounts.flatMap Operand.pairs = [] := by
  cases amount <;> rfl

/-- Among the constraints of a sketch, those that are told: the hard ones with a number. -/
inductive Sorts : List Constraint → List (Nat × Option Nat) → List Constraint → Prop
  | nil : Sorts [] [] []
  | soft {c : Constraint} {rest told : List Constraint} {handles : List (Nat × Option Nat)}
      (isSoft : c.isHard = .ok false) (others : Sorts rest handles told) :
      Sorts (c :: rest) handles told
  | unsupported {c : Constraint} {rest told : List Constraint}
      {handles : List (Nat × Option Nat)} (isHard : c.isHard = .ok true)
      (others : Sorts rest handles told) : Sorts (c :: rest) ((c.id, none) :: handles) told
  | told {c : Constraint} {number : Nat} {rest told : List Constraint}
      {handles : List (Nat × Option Nat)} (isHard : c.isHard = .ok true)
      (others : Sorts rest handles told) :
      Sorts (c :: rest) ((c.id, some number) :: handles) (c :: told)

namespace Sketch

open Emission Emitting

/-- All points of registered geometry are placed, and every registered line and circle has its
entity. -/
structure Covered (sketch : Sketch) (drawn : List (GeometryEntry × Nat)) (emission : Emission) :
    Prop where
  figures : ∀ entry ∈ sketch.table.entries, entry.view.isDrawn →
    ∃ entity, (entry, entity) ∈ drawn ∧ emission.figures.lookup entry.id = some entity
  pairs : ∀ entry ∈ sketch.table.entries, ∀ pair ∈ entry.view.pairs,
    pair ∈ emission.points.map (·.1)

/-- An operand is told as an entity, after a step that makes some calls. -/
structure Depicts (sketch : Sketch) (dragFixed : Bool) (drawn : List (GeometryEntry × Nat))
    (before : Emission) (operand : Operand) (calls : List SolverCall) (entity : Nat)
    (after : Emission) : Prop where
  told : ToldAs sketch after.points drawn operand calls entity
  knows : after.Knows entity
  step : Step sketch.store dragFixed before operand.pairs calls [] after

variable {dragFixed : Bool} {before middle after : Emission} {asked : List (Int × Int)}
  {own others calls : List SolverCall} {operand first second : Operand} {entity a b : Nat}

/-- Steps that draw nothing registered leave it covered. -/
theorem Covered.step (covered : sketch.Covered drawn before)
    (step : Step sketch.store dragFixed before asked calls [] after) :
    sketch.Covered drawn after where
  figures := by
    rw [step.figures]
    exact covered.figures
  pairs entry registered pair among :=
    (step.pairs pair).mpr (.inl (covered.pairs entry registered pair among))

/-- What is like something registered is told as its entity. -/
theorem Covered.depicts {view : View} {entry : GeometryEntry}
    (sound : before.Sound sketch.store dragFixed) (covered : sketch.Covered drawn before)
    (isDrawn : view.isDrawn) (registered : sketch.registered? view = some entry) :
    ∃ entity, before.figures.lookup entry.id = some entity ∧
      sketch.Depicts dragFixed drawn before (.view view) [] entity before := by
  have there := List.mem_of_find?_eq_some registered
  have found := List.find?_some registered
  have same : entry.view.bare = view.bare := of_decide_eq_true found
  have alike : entry.view.figure.bare = view.figure.bare := by
    rw [← View.figure_bare, same, View.figure_bare]
  have entryDrawn : entry.view.isDrawn := by
    rw [View.isDrawn, ← Figure.isDrawn_bare, alike, Figure.isDrawn_bare]
    exact isDrawn
  obtain ⟨entity, listed, found⟩ := covered.figures entry there entryDrawn
  refine ⟨entity, found, .registered registered listed,
    sound.figures _ (listed_of_lookup found), (Step.refl sound).asking fun pair among => ?_⟩
  refine covered.pairs entry there pair ?_
  rw [View.pairs, ← Figure.pairs_bare, alike, Figure.pairs_bare]
  exact among

/-- A point is told as its entity. -/
theorem emitPoint_depicts (drawn : List (GeometryEntry × Nat))
    (sound : before.Sound sketch.store dragFixed)
    (run : (sketch.emitPoint dragFixed operand).run before = .ok (entity, after)) :
    sketch.Depicts dragFixed drawn before operand [] entity after := by
  unfold emitPoint at run
  split at run
  case h_1 x y binding =>
    obtain ⟨there, step⟩ := point_step sound run
    exact ⟨.point there, step.sound.points _ there, step⟩
  case h_2 => cases run

/-- A line is told as the entity of a registered line that it is like, or as one of its own. -/
theorem emitLine_depicts (sound : before.Sound sketch.store dragFixed)
    (covered : sketch.Covered drawn before)
    (run : (sketch.emitLine dragFixed operand).run before = .ok (entity, after)) :
    ∃ calls, sketch.Depicts dragFixed drawn before operand calls entity after := by
  unfold emitLine at run
  split at run
  case h_1 start finish binding =>
    dsimp only at run
    split at run
    case h_1 entry registered =>
      obtain ⟨known, found, depicts⟩ := covered.depicts sound rfl registered
      obtain ⟨rfl, rfl⟩ := once_known found run
      exact ⟨[], depicts⟩
    case h_2 unlike =>
      obtain ⟨first, second, starts, finishes, knows, step⟩ := line_step sound run
      exact ⟨_, .loose rfl unlike starts finishes, knows, step⟩
  case h_2 => cases run

/-- A circle is told as the entity of a registered circle that it is like, or not at all. -/
theorem emitCircle?_depicts {circle : Option Nat} (sound : before.Sound sketch.store dragFixed)
    (covered : sketch.Covered drawn before)
    (run : (sketch.emitCircle? dragFixed operand).run before = .ok (circle, after)) :
    after = before ∧ ∀ entity, circle = some entity →
      sketch.Depicts dragFixed drawn before operand [] entity before := by
  unfold emitCircle? at run
  split at run
  case h_1 center radius binding =>
    split at run
    case h_1 entry registered =>
      obtain ⟨known, found, depicts⟩ := covered.depicts sound rfl registered
      obtain ⟨entity, last, ran, ended⟩ := run_bind_eq_ok.mp run
      obtain ⟨rfl, rfl⟩ := once_known found ran
      cases ended
      exact ⟨rfl, fun _ same => Option.some.inj same ▸ depicts⟩
    case h_2 =>
      cases run
      exact ⟨rfl, fun _ impossible => nomatch impossible⟩
  case h_2 =>
    cases run
    exact ⟨rfl, fun _ impossible => nomatch impossible⟩

/-- A scalar is told as its value. -/
theorem scalarValue_amount {value : Float}
    (run : (sketch.scalarValue operand).run before = .ok (value, after)) :
    after = before ∧ Amount sketch.store [operand] value := by
  unfold scalarValue at run
  split at run
  case h_1 slot =>
    obtain ⟨read, rfl⟩ := run_liftM_eq_ok.mp run
    exact ⟨rfl, .some read⟩
  case h_2 => cases run

/-- What is told without any call is so later as well. -/
theorem Depicts.later (depicts : sketch.Depicts dragFixed drawn before operand [] entity before)
    (step : Step sketch.store dragFixed before asked calls [] after) :
    sketch.Depicts dragFixed drawn after operand [] entity after where
  told := depicts.told.mono step.kept
  knows := depicts.knows.mono step.entities
  step := (Step.refl step.sound).asking fun pair among => (step.pairs pair).mpr
    (.inl ((depicts.step.pairs pair).mpr (.inr among)))

/-- A constraint is told once its operands are, by the call that its kind has. -/
theorem Depicts.tells {c : Constraint} {kind : BuiltinKind} {last : Emission}
    {call : Nat → Nat → Float → SolverCall} {amounts : List Operand} {value : Float}
    {supported : Bool} (firstDepicts : sketch.Depicts dragFixed drawn before first own a middle)
    (secondDepicts : sketch.Depicts dragFixed drawn middle second others b last)
    (named : BuiltinKind.ofName? c.kind = some kind) (counterpart : kind.counterpart? = some call)
    (operands : c.operands = first :: second :: amounts)
    (amount : Amount sketch.store amounts value)
    (run : (emit (call a b value) >>= fun _ => pure true).run last = .ok (supported, after)) :
    supported = true ∧ ∃ calls, Tells sketch after.points drawn c calls ∧
      Step sketch.store dragFixed before c.pairs calls [] after := by
  obtain ⟨_, told, emitted, ended⟩ := run_bind_eq_ok.mp run
  cases ended
  obtain ⟨places, created, refers⟩ := BuiltinKind.counterpart?_spec counterpart a b value
  have toOperands := firstDepicts.step.append secondDepicts.step
  have known : ∀ entity ∈ (call a b value).refersTo, last.Knows entity := by
    rw [refers]
    exact List.forall_mem_cons.mpr ⟨firstDepicts.knows.mono secondDepicts.step.entities,
      List.forall_mem_singleton.mpr secondDepicts.knows⟩
  have toCall := emit_step toOperands.sound emitted places created known
  have concerned : c.pairs = first.pairs ++ second.pairs ++ [] := by
    rw [Constraint.pairs, operands, List.flatMap_cons, List.flatMap_cons, amount.pairs_eq,
      List.append_assoc]
  rw [concerned]
  refine ⟨rfl, _, .intro named counterpart operands ?_ ?_ amount, toOperands.append toCall⟩
  · exact firstDepicts.told.mono (List.Subset.trans secondDepicts.step.kept toCall.kept)
  · exact secondDepicts.told.mono toCall.kept

/-- A call is formed of two entities and the value of the scalar that comes after the operands, and
nothing else happens. -/
def Forms (sketch : Sketch) (amounts : List Operand) (call : Nat → Nat → Float → SolverCall)
    (form : Nat → Nat → Emitting SolverCall) : Prop :=
  ∀ a b ⦃seen state told⦄, (form a b).run seen = .ok (told, state) →
    state = seen ∧ ∃ value, Amount sketch.store amounts value ∧ told = call a b value

/-- A call without a scalar is formed as it is. -/
theorem forms_pure {call : Nat → Nat → Float → SolverCall} :
    sketch.Forms [] call fun a b => pure (call a b 0.0) := by
  intro a b seen state told formed
  cases formed
  exact ⟨rfl, 0.0, .none, rfl⟩

/-- A relation between two lines is told once they are. -/
theorem emitLinePair_tells {c : Constraint} {kind : BuiltinKind} {amounts : List Operand}
    {call : Nat → Nat → Float → SolverCall} {form : Nat → Nat → Emitting SolverCall}
    {supported : Bool} (sound : before.Sound sketch.store dragFixed)
    (covered : sketch.Covered drawn before)
    (named : BuiltinKind.ofName? c.kind = some kind) (counterpart : kind.counterpart? = some call)
    (operands : c.operands = first :: second :: amounts)
    (forms : sketch.Forms amounts call form)
    (run : (sketch.emitLinePair dragFixed first second form >>= fun _ => pure true).run before =
      .ok (supported, after)) :
    supported = true ∧ ∃ calls, Tells sketch after.points drawn c calls ∧
      Step sketch.store dragFixed before c.pairs calls [] after := by
  unfold emitLinePair at run
  simp only [bind_assoc] at run
  obtain ⟨a, middle, ran, run⟩ := run_bind_eq_ok.mp run
  obtain ⟨own, firstDepicts⟩ := emitLine_depicts sound covered ran
  obtain ⟨b, last, ran, run⟩ := run_bind_eq_ok.mp run
  obtain ⟨others, secondDepicts⟩ :=
    emitLine_depicts firstDepicts.step.sound (covered.step firstDepicts.step) ran
  obtain ⟨_, _, formed, concluded⟩ := run_bind_eq_ok.mp run
  obtain ⟨rfl, value, amount, rfl⟩ := forms a b formed
  exact firstDepicts.tells secondDepicts named counterpart operands amount concluded

/-- A constraint is told, or nothing happens. -/
theorem emitConstraint_tells {c : Constraint} {supported : Bool}
    (sound : before.Sound sketch.store dragFixed) (covered : sketch.Covered drawn before)
    (run : (sketch.emitConstraint dragFixed c).run before = .ok (supported, after)) :
    (supported = true ∧ ∃ calls, Tells sketch after.points drawn c calls ∧
      Step sketch.store dragFixed before c.pairs calls [] after) ∨
    supported = false ∧ after = before := by
  unfold emitConstraint at run
  split at run
  case h_1 p q named operands =>
    obtain ⟨a, middle, ran, run⟩ := run_bind_eq_ok.mp run
    have first := emitPoint_depicts drawn sound ran
    obtain ⟨b, last, ran, run⟩ := run_bind_eq_ok.mp run
    have second := emitPoint_depicts drawn first.step.sound ran
    exact .inl (first.tells second named rfl operands .none run)
  case h_2 p q d named operands =>
    obtain ⟨a, middle, ran, run⟩ := run_bind_eq_ok.mp run
    have first := emitPoint_depicts drawn sound ran
    obtain ⟨b, last, ran, run⟩ := run_bind_eq_ok.mp run
    have second := emitPoint_depicts drawn first.step.sound ran
    obtain ⟨value, _, read, stated⟩ := run_bind_eq_ok.mp run
    obtain ⟨rfl, amount⟩ := scalarValue_amount read
    exact .inl (first.tells second named rfl operands amount stated)
  case h_3 p l named operands =>
    obtain ⟨a, middle, ran, run⟩ := run_bind_eq_ok.mp run
    have first := emitPoint_depicts drawn sound ran
    obtain ⟨b, last, ran, run⟩ := run_bind_eq_ok.mp run
    obtain ⟨others, second⟩ := emitLine_depicts first.step.sound (covered.step first.step) ran
    exact .inl (first.tells second named rfl operands .none run)
  case h_4 p round named operands =>
    -- The circle is looked for before the point is placed. It changes nothing, so that it can be
    -- told after the point, in the order of the operands.
    obtain ⟨circle, _, ran, run⟩ := run_bind_eq_ok.mp run
    obtain ⟨rfl, found⟩ := emitCircle?_depicts sound covered ran
    cases circle with
    | none =>
      cases run
      exact .inr ⟨rfl, rfl⟩
    | some b =>
      obtain ⟨a, last, ran, run⟩ := run_bind_eq_ok.mp run
      have first := emitPoint_depicts drawn sound ran
      have second := (found b rfl).later first.step
      exact .inl (first.tells second named rfl operands .none run)
  case h_5 l m named operands =>
    exact .inl (emitLinePair_tells sound covered named rfl operands forms_pure run)
  case h_6 l m named operands =>
    exact .inl (emitLinePair_tells sound covered named rfl operands forms_pure run)
  case h_7 l m d named operands =>
    refine .inl (emitLinePair_tells sound covered named rfl operands ?_ run)
    intro a b seen state told formed
    obtain ⟨value, _, read, stated⟩ := run_bind_eq_ok.mp formed
    obtain ⟨rfl, amount⟩ := scalarValue_amount read
    cases stated
    exact ⟨rfl, value, amount, rfl⟩
  case h_8 l m named operands =>
    exact .inl (emitLinePair_tells sound covered named rfl operands forms_pure run)
  case h_9 =>
    cases run
    exact .inr ⟨rfl, rfl⟩

/-- Constraints are told one after the other, as far as they are hard and have a call. -/
theorem emitConstraints_tells {constraints : List Constraint}
    {handles : List (Nat × Option Nat)} (sound : before.Sound sketch.store dragFixed)
    (covered : sketch.Covered drawn before)
    (run : (sketch.emitConstraints dragFixed constraints).run before = .ok (handles, after)) :
    ∃ told calls, Sorts constraints handles told ∧
      SpelledOut (Tells sketch after.points drawn) told calls ∧
      Step sketch.store dragFixed before (told.flatMap Constraint.pairs) calls [] after := by
  induction constraints generalizing before handles with
  | nil =>
    cases run
    exact ⟨[], [], .nil, .nil, .refl sound⟩
  | cons c rest ih =>
    unfold emitConstraints at run
    obtain ⟨hard, _, flagged, run⟩ := run_bind_eq_ok.mp run
    obtain ⟨isHard, rfl⟩ := run_liftM_eq_ok.mp flagged
    cases hard with
    | false =>
      obtain ⟨told, calls, sorts, spelled, step⟩ := ih sound covered run
      exact ⟨told, calls, .soft isHard sorts, spelled, step⟩
    | true =>
      obtain ⟨supported, middle, emitted, continued⟩ := run_bind_eq_ok.mp run
      rcases emitConstraint_tells sound covered emitted with
        ⟨rfl, own, tells, step⟩ | ⟨rfl, rfl⟩
      · rw [if_pos rfl] at continued
        obtain ⟨_, counted, count, continued⟩ := run_bind_eq_ok.mp continued
        rw [run_get_bind] at continued
        obtain ⟨later, last, ran, ended⟩ := run_bind_eq_ok.mp continued
        cases ended
        have toCounted := countConstraint_step step.sound count
        have toNext := step.append toCounted
        rw [List.append_nil, List.append_nil] at toNext
        obtain ⟨told, calls, sorts, spelled, toLast⟩ :=
          ih toNext.sound (covered.step toNext) ran
        have kept := List.Subset.trans toCounted.kept toLast.kept
        exact ⟨c :: told, own ++ calls, .told isHard sorts, .cons (tells.mono kept) spelled,
          toNext.append toLast⟩
      · rw [if_neg Bool.false_ne_true] at continued
        obtain ⟨later, last, ran, ended⟩ := run_bind_eq_ok.mp continued
        cases ended
        obtain ⟨told, calls, sorts, spelled, step⟩ := ih sound covered ran
        exact ⟨told, calls, .unsupported isHard sorts, spelled, step⟩

end Sketch

end Drafting
