import Drafting.Proofs.TagRemoval
import Drafting.Proofs.Splines

/-!
# What requests register and what they remove

A request that is answered registers one geometry, or a geometry and right after it the constraint
that rules its ends, or one constraint, or none of these. A request that is refused registers
nothing, though identifiers may be lost. Only removing by a tag and clearing take anything away.
A removal looks for constraints of the tag, then reads the tag as an integer, then looks for
geometries. So it takes geometries and constraints alike, but for a tag that equals an integer and
cannot be read as one: for such a tag, an array of a single entry, it stops halfway.
-/

namespace Drafting

namespace Value

/-- Whether a value is compared with a tag as a whole: an array is not. -/
def IsTag : Value → Prop
  | array .. => False
  | _ => True

variable {tag : Value}

/-- A tag equals an integer if its key does. -/
theorem IsTag.equalsInteger (isTag : tag.IsTag) (n : Int) :
    tag.equalsInteger n = .ok (decide (tag.integerKey? = some n)) := by
  cases tag <;> first | rfl | cases isTag

/-- A tag that cannot be read equals no integer. -/
theorem integerKey?_of_unread {fault : Fault} (unread : tag.toInteger = .error fault) :
    tag.integerKey? = Option.none := by
  have part {x : Float} (unread : integerPart x = .error fault) :
      integerOfReal? x = Option.none := by
    unfold integerPart at unread
    unfold integerOfReal?
    cases parts : BinaryFloat.ofFloat? x with
    | none => rfl
    | some parts =>
      rw [parts] at unread
      cases unread
  cases tag with
  | int n => cases unread
  | bool b => cases unread
  | float x | entry x => exact part unread
  | _ => rfl

/-- A tag is compared with every integer, or with none, and then it cannot be read as one either. -/
theorem equalsInteger_cases (tag : Value) :
    (∀ n, tag.equalsInteger n = .ok (affirmed (tag.equalsInteger n))) ∨
      ∃ fault other, tag.toInteger = .error fault ∧ ∀ n, tag.equalsInteger n = .error other := by
  cases tag with
  | array shape entries =>
    rcases entries with _ | ⟨x, _ | ⟨y, rest⟩⟩
    · cases shape <;> exact .inr ⟨_, _, rfl, fun _ => rfl⟩
    · exact .inl fun _ => rfl
    · cases shape <;> exact .inr ⟨_, _, rfl, fun _ => rfl⟩
  | _ => exact .inl fun _ => rfl

end Value

/-- The rules of the ends of a figure, which only arcs and open splines have. -/
def Figure.rules? : Figure → Option BuiltinKind
  | arc .. => some .arcRules
  | arcOfEllipse .. => some .ellipseArcRules
  | arcOfHyperbola .. => some .hyperbolaArcRules
  | arcOfParabola .. => some .parabolaArcRules
  | bspline spline => if spline.periodic then none else some .splineEndRules
  | _ => none

/-- The rules of the ends of a spline that is periodic or not. -/
def splineRules? (periodic : Value) : Option BuiltinKind :=
  match periodic.truth with
  | .ok false => some .splineEndRules
  | _ => none

/-- Whether a figure has what its rules speak of: a spline has poles. -/
def Figure.HasEnds : Figure → Prop
  | bspline spline => spline.poles ≠ []
  | _ => True

/-- The rules of a figure can be stated of it, and it suits their only place. -/
theorem Figure.relation?_rules {figure : Figure} {kind : BuiltinKind} (ends : figure.HasEnds)
    (ruled : figure.rules? = some kind) (binding : Option Binding) :
    (∃ slot, kind.slots = [slot] ∧ figure.kind ∈ slot.accepted) ∧
      ∃ relation, kind.relation? [.view ⟨figure, binding⟩] = some relation := by
  cases figure with
  | arc | arcOfEllipse | arcOfHyperbola | arcOfParabola =>
    cases ruled
    exact ⟨⟨_, rfl, List.mem_cons_self⟩, _, rfl⟩
  | bspline spline =>
    simp only [rules?] at ruled
    by_cases closed : spline.periodic
    · rw [if_pos closed] at ruled
      cases ruled
    · rw [if_neg closed] at ruled
      cases ruled
      exact ⟨⟨_, rfl, List.mem_cons_self⟩, relation?_splineEndRules binding ends⟩
  | _ => cases ruled

/-- A constraint that rules a registered geometry: it drives and stays, it has the identifier after
the geometry's and the same tag, and the geometry is all it speaks of. -/
structure Constraint.Rules (c : Constraint) (kind : BuiltinKind) (entry : GeometryEntry) :
    Prop where
  id : c.id = entry.id + 1
  kind : c.kind = kind.name
  tag : c.tag = entry.tag
  operands : c.operands = [.view entry.view]
  modifiers : c.modifiers = .standard

/-- A constraint that comes with a geometry rules it. -/
theorem rules_of_mem {entry : GeometryEntry} {rules : Option BuiltinKind}
    {companion : Option Constraint} {c : Constraint}
    (accompanied : Option.Rel (fun kind c => c.Rules kind entry) rules companion)
    (there : c ∈ companion.toList) : ∃ kind, rules = some kind ∧ c.Rules kind entry := by
  cases accompanied with
  | none => cases there
  | some ruling =>
    rw [List.mem_singleton.mp there]
    exact ⟨_, rfl, ruling⟩

/-- A step that registers nothing and removes nothing. Identifiers may be lost. -/
structure Sketch.Idle (before after : Sketch) : Prop where
  entries : after.table.entries = before.table.entries
  constraints : after.constraints = before.constraints
  later : before.table.nextId ≤ after.table.nextId

namespace Sketch

variable {sketch after : Sketch}

/-- To do nothing is idle. -/
theorem Idle.refl (sketch : Sketch) : sketch.Idle sketch := ⟨rfl, rfl, Nat.le_refl _⟩

/-- Idle steps one after the other are idle. -/
theorem idle_of_steps (steps : Relation.ReflTransGen Idle sketch after) : sketch.Idle after := by
  induction steps with
  | refl => exact .refl sketch
  | tail _ last ih =>
    exact ⟨last.entries.trans ih.entries, last.constraints.trans ih.constraints,
      Nat.le_trans ih.later last.later⟩

/-- An idle step covers whatever happens to slots. -/
theorem covers_idle : Session.Covers Idle where
  noted _ _ := ⟨rfl, rfl, Nat.le_refl _⟩
  stored _ _ _ := ⟨rfl, rfl, Nat.le_refl _⟩

/-- How a figure is registered under a tag: not at all, or under the next identifier with the
constraint that rules it, if there is one, after it. -/
inductive Enrolled (kind : GeometryKind) (rules : Option BuiltinKind) (tag : Value)
    (sketch : Sketch) : Except Fault Nat → Sketch → Prop
  | refused {after : Sketch} (fault : Fault) (idle : sketch.Idle after) :
    Enrolled kind rules tag sketch (.error fault) after
  | registered {after : Sketch} {entry : GeometryEntry} {companion : Option Constraint}
    (next : entry.id = sketch.table.nextId) (drawn : entry.view.kind = kind)
    (stated : entry.view.figure.rules? = rules)
    (accompanied : Option.Rel (fun kind c => c.Rules kind entry) rules companion)
    (read : tag.toInteger = .ok entry.tag)
    (entries : after.table.entries = sketch.table.entries ++ [entry])
    (constraints : after.constraints = sketch.constraints ++ companion.toList)
    (later : after.table.nextId = entry.id + 1 + companion.toList.length) :
    Enrolled kind rules tag sketch (.ok entry.id) after

/-- What is registered does not depend on slots that were allocated before. -/
theorem Enrolled.of_store {kind : GeometryKind} {rules : Option BuiltinKind} {tag : Value}
    {store : Store} {answer : Except Fault Nat}
    (enrolled : Enrolled kind rules tag { sketch with store } answer after) :
    sketch.Enrolled kind rules tag answer after := by
  cases enrolled with
  | refused fault idle => exact .refused fault ⟨idle.entries, idle.constraints, idle.later⟩
  | registered next drawn stated accompanied read entries constraints later =>
    exact .registered next drawn stated accompanied read entries constraints later

end Sketch

namespace Session

variable {sketch : Sketch} {kind : GeometryKind} {rules : Option BuiltinKind}
  {tag : Value}

/-- A request that registers figures of one sort under a tag, in whatever sketch it is asked. -/
def Enrols (kind : GeometryKind) (rules : Option BuiltinKind) (tag : Value)
    (request : Session Nat) : Prop :=
  ∀ sketch : Sketch, sketch.Ready →
    sketch.Enrolled kind rules tag (request.outcome sketch).1 (request.outcome sketch).2

/-- A figure is registered under the next identifier, or nothing is. -/
theorem outcome_addFigure_cases (ready : sketch.Ready) (figure : Figure) :
    (∃ fault after, (addFigure figure tag).outcome sketch = (.error fault, after) ∧
        sketch.Idle after) ∨
      ∃ n binding journal, tag.toInteger = .ok n ∧
        (addFigure figure tag).outcome sketch = (.ok sketch.table.nextId,
          (sketch.withGeometry ⟨figure, some binding⟩ n).withJournal journal) := by
  unfold addFigure Session.bind
  rw [bind_assoc, outcome_get_bind, outcome_liftM_bind]
  cases bound : sketch.store.bind figure with
  | error fault => exact .inl ⟨fault, sketch, rfl, .refl sketch⟩
  | ok view =>
    obtain ⟨-, -, rfl⟩ := Store.bind_eq_ok_iff.mp bound
    dsimp only
    rcases outcome_addView_cases ⟨figure, some sketch.store.binding⟩ tag sketch with
      ⟨fault, -, refused⟩ | ⟨fault, -, refused⟩ | ⟨n, answer, journal, read, registered, -, shown⟩
    · exact .inl ⟨fault, sketch, refused, .refl sketch⟩
    · exact .inl ⟨fault, _, refused, ⟨rfl, rfl, Nat.le_succ _⟩⟩
    · rw [registered, shown (ready.tolerates tag)]
      exact .inr ⟨n, _, journal, read, rfl⟩

/-- A figure without rules is registered by itself. -/
theorem enrols_addFigure {figure : Figure} (drawn : figure.kind = kind)
    (unruled : figure.rules? = none) : Enrols kind none tag (addFigure figure tag) := by
  intro sketch ready
  rcases outcome_addFigure_cases ready figure with
    ⟨fault, after, refused, idle⟩ | ⟨n, binding, journal, read, registered⟩
  · rw [refused]
    exact .refused fault idle
  · rw [registered]
    exact @Sketch.Enrolled.registered _ _ _ _ _ ⟨sketch.table.nextId, ⟨figure, some binding⟩, n⟩
      none rfl drawn unruled .none read rfl (List.append_nil _).symm rfl

/-- A figure with rules is registered with the constraint that rules it. -/
theorem enrols_addRuled {figure : Figure} {stating : BuiltinKind}
    (ends : figure.HasEnds) (drawn : figure.kind = kind) (ruled : figure.rules? = some stating) :
    Enrols kind (some stating) tag (addRuled figure stating.name tag) := by
  intro sketch ready
  unfold addRuled
  rw [outcome_bind]
  rcases outcome_addFigure_cases ready figure with
    ⟨fault, after, refused, idle⟩ | ⟨n, binding, journal, read, registered⟩
  · rw [refused]
    exact .refused fault idle
  · rw [registered]
    dsimp only
    obtain ⟨⟨slot, placed, suits⟩, relation, stated⟩ :=
      Figure.relation?_rules ends ruled (some binding)
    have named := ready.resolveRequest_rules ⟨figure, some binding⟩ placed suits n
    have built : stating.toKind.build [.view ⟨figure, some binding⟩] = .ok relation.block := by
      unfold BuiltinKind.toKind
      dsimp only
      rw [stated]
    obtain ⟨later, constrained⟩ := @outcome_constrain_new
      ((sketch.withGeometry ⟨figure, some binding⟩ n).withJournal journal) _ _ _ _ _ tag n named
        rfl built read (ready.tolerates tag) .standard
    rw [outcome_discard_bind, constrained]
    have accompanied : ((sketch.withGeometry ⟨figure, some binding⟩ n).nextConstraint stating.toKind
        [.operand (.view ⟨figure, some binding⟩)] .standard n relation.block).Rules stating
          ⟨sketch.table.nextId, ⟨figure, some binding⟩, n⟩ := ⟨rfl, rfl, rfl, rfl, rfl⟩
    exact @Sketch.Enrolled.registered _ _ _ _ _ ⟨sketch.table.nextId, ⟨figure, some binding⟩, n⟩
      (some _) rfl drawn ruled (.some accompanied) read rfl rfl rfl

/-- To find a point first changes nothing. -/
theorem Enrols.point {value : Value} {next : View → Session Nat}
    (later : ∀ view, Enrols kind rules tag (next view)) :
    Enrols kind rules tag (Session.point value >>= next) := by
  intro sketch ready
  rw [outcome_bind, outcome_point]
  cases sketch.findPoint value with
  | error fault => exact .refused fault (.refl sketch)
  | ok view => exact later view sketch ready

/-- To allocate a block first changes nothing of what is registered. -/
theorem Enrols.allocateBlock {values : List Value} {fixed given : Value}
    {next : List Nat → Session Nat} (later : ∀ block, Enrols kind rules tag (next block)) :
    Enrols kind rules tag (Session.allocateBlock values fixed given >>= next) := by
  intro sketch ready
  unfold Session.allocateBlock
  rw [outcome_bind, outcome_onStore]
  cases pushed : sketch.store.pushAll values fixed given with
  | error fault => exact .refused fault (.refl sketch)
  | ok result =>
    obtain ⟨block, grown⟩ := result
    obtain ⟨reals, b, t, -, -, -, rfl⟩ := Store.pushAll_eq_ok pushed
    have grown : Sketch.Ready { sketch with store := (sketch.store.append reals b t).2 } := by
      refine ready.mono (Nat.le_refl _) ?_ (.refl _) (.refl _) (.refl _) rfl rfl
      rw [Store.size_append]
      exact Nat.le_add_right ..
    exact (later block _ grown).of_store

/-- A spline that has poles is registered with the rules of its ends unless it is periodic. -/
theorem enrols_splineFigure {spline : Spline} (poles : spline.poles ≠ []) :
    Enrols .bspline (Figure.bspline spline).rules? tag
      (if spline.periodic then addFigure (.bspline spline) tag
        else addRuled (.bspline spline) "bspline_end_rules" tag) := by
  have ends : (Figure.bspline spline).HasEnds := poles
  have stated : (Figure.bspline spline).rules? =
    if spline.periodic then none else some .splineEndRules := rfl
  rw [stated]
  by_cases closed : spline.periodic
  · rw [if_pos closed] at stated ⊢
    rw [if_pos closed]
    exact enrols_addFigure rfl stated
  · rw [if_neg closed] at stated ⊢
    rw [if_neg closed]
    exact enrols_addRuled ends rfl stated

/-- A spline is registered with the rules of its ends unless it is periodic. -/
theorem enrols_addSpline {poles weights knots multiplicities degree : Value}
    {periodic start finish fixed : Value} :
    Enrols .bspline (splineRules? periodic) tag
      (addSpline poles weights knots multiplicities degree periodic start finish fixed tag) := by
  intro sketch ready
  rw [outcome_addSpline]
  cases read : readSpline poles weights knots multiplicities degree start finish fixed tag with
  | error fault => exact .refused fault (.refl sketch)
  | ok reading =>
    obtain ⟨enough, full, ⟨number, integer⟩, -⟩ := readSpline_eq_ok read
    have grown : sketch.store.size + reading.reals.length = (sketch.withBlock reading).store.size :=
      (Store.size_append ..).symm
    have block : Sketch.Ready (sketch.withBlock reading) :=
      ready.mono (Nat.le_refl _) (Nat.le_trans (Nat.le_add_right ..) (Nat.le_of_eq grown)) (.refl _)
        (.refl _) (.refl _) rfl rfl
    dsimp only
    rw [outcome_drawSpline full (Nat.le_of_eq grown) integer]
    cases multiplicities.toIntegers with
    | error fault => exact .refused fault ⟨rfl, rfl, Nat.le_refl _⟩
    | ok repeats =>
      unfold splineRules?
      cases periodic.truth with
      | error fault => exact .refused fault ⟨rfl, rfl, Nat.le_refl _⟩
      | ok closed =>
        have poles : (placedSpline (sketch.withBlock reading).store.binding
            (List.range' sketch.store.size reading.reals.length) reading.coordinates.poles.length
            reading.weights.length reading.knots.length repeats number closed).poles ≠ [] := by
          refine List.ne_nil_of_length_pos ?_
          show 0 < ((List.range _).map _).length
          rw [List.length_map, List.length_range]
          omega
        have registered := (@enrols_splineFigure tag _ poles _ block).of_store
        cases closed <;> exact registered

open Sketch (Idle)

/-- Defining a parameter is idle. -/
theorem idle_addParameter {name value fixed : Value} :
    Proceeds Idle (addParameter name value fixed tag) := by
  unfold addParameter
  split
  · split
    · exact .throw _
    refine .bind .get fun sketch => ?_
    split
    · exact .throw _
    · exact .bind Sketch.covers_idle.push fun _ =>
        .bind (.modify fun _ => ⟨rfl, rfl, Nat.le_refl _⟩) fun _ => .pure _
  · exact .throw _

/-- Registering a kind is idle. -/
theorem idle_registerKind {name : Value} {slots : List Value} {size : Value}
    {build : Nat → List Operand → Except Fault Block} :
    Proceeds Idle (registerKind name slots size build) :=
  .bind .get fun _ => .bind (.liftM _) fun _ =>
    .bind (.modify fun _ => ⟨rfl, rfl, Nat.le_refl _⟩) fun _ => Sketch.covers_idle.note

/-- A solve is idle. -/
theorem idle_solve {backend : Backend} {algorithm : Value} :
    Proceeds Idle (solve backend algorithm) := by
  intro sketch
  obtain ⟨journal, solved⟩ := outcome_solve backend algorithm sketch
  rw [solved]
  cases sketch.attemptBy backend algorithm <;> exact .single ⟨rfl, rfl, Nat.le_refl _⟩

end Session

namespace Request

open Session (Enrols)

/-- The kind of geometry that a request draws. -/
def draws? : Request → Option GeometryKind
  | addPoint .. => some .point
  | addLine .. => some .line
  | addCircle .. => some .circle
  | addArc .. => some .arc
  | addEllipse .. => some .ellipse
  | addArcOfEllipse .. => some .arcOfEllipse
  | addHyperbola .. => some .hyperbola
  | addArcOfHyperbola .. => some .arcOfHyperbola
  | addParabola .. => some .parabola
  | addArcOfParabola .. => some .arcOfParabola
  | addSpline .. => some .bspline
  | _ => none

/-- The rules that a request registers with what it draws. -/
def rules? : Request → Option BuiltinKind
  | addArc .. => some .arcRules
  | addArcOfEllipse .. => some .ellipseArcRules
  | addArcOfHyperbola .. => some .hyperbolaArcRules
  | addArcOfParabola .. => some .parabolaArcRules
  | addSpline _ _ _ _ _ periodic .. => splineRules? periodic
  | _ => none

/-- Whether a request adds a constraint. -/
def constrains : Request → Bool
  | addConstraint .. => true
  | _ => false

/-- Whether a request adds a geometry or a constraint. -/
def adds (request : Request) : Bool := request.draws?.isSome || request.constrains

/-- The tag of what a request registers, or removes. -/
def tag? : Request → Option Value
  | addPoint _ _ _ tag | addLine _ _ tag | addCircle _ _ _ tag | addArc _ _ _ _ _ _ _ tag
  | addEllipse _ _ _ _ tag | addArcOfEllipse _ _ _ _ _ _ _ _ tag | addHyperbola _ _ _ _ tag
  | addArcOfHyperbola _ _ _ _ _ _ _ _ tag | addParabola _ _ tag
  | addArcOfParabola _ _ _ _ _ _ _ tag | addSpline _ _ _ _ _ _ _ _ _ tag
  | addConstraint _ _ _ _ _ tag | removeTag tag => some tag
  | _ => none

/-- Whether a request removes the constraints that have a tag. -/
def removesConstraint : Request → Int → Bool
  | removeTag tag, n => affirmed (tag.equalsInteger n)
  | clear, _ => true
  | _, _ => false

/-- Whether a removal can read its tag as an integer. -/
def readsTag : Request → Bool
  | removeTag tag => tag.toInteger.isOk
  | _ => true

/-- Whether a request removes the geometries that have a tag: a removal comes to them only if it can
read its tag. -/
def removesGeometry (request : Request) (tag : Int) : Bool :=
  request.removesConstraint tag && request.readsTag

variable {request : Request} {sketch : Sketch}

open Session in
/-- A request that draws registers what it draws with its rules. -/
theorem enrols {kind : GeometryKind} (draws : request.draws? = some kind) :
    ∃ tag add, request.tag? = some tag ∧ Enrols kind request.rules? tag add ∧
      request.perform = add >>= fun id => pure (.id id) := by
  cases request with
  | addPoint x y fixed tag =>
    cases draws
    refine ⟨tag, _, rfl, ?_, rfl⟩
    exact .allocateBlock fun _ => enrols_addFigure rfl rfl
  | addLine start finish tag =>
    cases draws
    refine ⟨tag, _, rfl, ?_, rfl⟩
    exact .point fun _ => .point fun _ => enrols_addFigure rfl rfl
  | addCircle center radius fixed tag =>
    cases draws
    refine ⟨tag, _, rfl, ?_, rfl⟩
    exact .point fun _ => .allocateBlock fun _ => enrols_addFigure rfl rfl
  | addArc center start finish startAngle endAngle radius fixed tag =>
    cases draws
    refine ⟨tag, _, rfl, ?_, rfl⟩
    exact .point fun _ => .point fun _ => .point fun _ => .allocateBlock fun _ =>
      enrols_addRuled trivial rfl rfl
  | addEllipse center focus minorRadius fixed tag =>
    cases draws
    refine ⟨tag, _, rfl, ?_, rfl⟩
    exact .point fun _ => .point fun _ => .allocateBlock fun _ =>
      enrols_addFigure rfl rfl
  | addArcOfEllipse center focus start finish startAngle endAngle minorRadius fixed tag =>
    cases draws
    refine ⟨tag, _, rfl, ?_, rfl⟩
    exact .point fun _ => .point fun _ => .point fun _ => .point fun _ => .allocateBlock fun _ =>
      enrols_addRuled trivial rfl rfl
  | addHyperbola center focus minorRadius fixed tag =>
    cases draws
    refine ⟨tag, _, rfl, ?_, rfl⟩
    exact .point fun _ => .point fun _ => .allocateBlock fun _ =>
      enrols_addFigure rfl rfl
  | addArcOfHyperbola center focus start finish startAngle endAngle minorRadius fixed tag =>
    cases draws
    refine ⟨tag, _, rfl, ?_, rfl⟩
    exact .point fun _ => .point fun _ => .point fun _ => .point fun _ => .allocateBlock fun _ =>
      enrols_addRuled trivial rfl rfl
  | addParabola vertex focus tag =>
    cases draws
    refine ⟨tag, _, rfl, ?_, rfl⟩
    exact .point fun _ => .point fun _ => enrols_addFigure rfl rfl
  | addArcOfParabola vertex focus start finish startAngle endAngle fixed tag =>
    cases draws
    refine ⟨tag, _, rfl, ?_, rfl⟩
    exact .point fun _ => .point fun _ => .point fun _ => .point fun _ => .allocateBlock fun _ =>
      enrols_addRuled trivial rfl rfl
  | addSpline poles weights knots multiplicities degree periodic start finish fixed tag =>
    cases draws
    exact ⟨tag, _, rfl, enrols_addSpline, rfl⟩
  | _ => cases draws

/-- What a request does to what is registered, and what it answers. -/
inductive Effect (request : Request) (sketch : Sketch) : Except Fault Answer → Sketch → Prop
  | idle {answer : Except Fault Answer} {after : Sketch} (idle : sketch.Idle after)
    (refused : request.adds → ∃ fault, answer = .error fault)
    (keeps : ∀ tag, request.removesConstraint tag = false) : Effect request sketch answer after
  | drawn {after : Sketch} {entry : GeometryEntry} {companion : Option Constraint} {tag : Value}
    (next : entry.id = sketch.table.nextId) (drawn : request.draws? = some entry.view.kind)
    (stated : entry.view.figure.rules? = request.rules?)
    (accompanied : Option.Rel (fun kind c => c.Rules kind entry) request.rules? companion)
    (tagged : request.tag? = some tag) (read : tag.toInteger = .ok entry.tag)
    (entries : after.table.entries = sketch.table.entries ++ [entry])
    (constraints : after.constraints = sketch.constraints ++ companion.toList)
    (later : after.table.nextId = entry.id + 1 + companion.toList.length) :
    Effect request sketch (.ok (.id entry.id)) after
  | constrained {after : Sketch} {c : Constraint} {kind : Value} {operands : List Value}
    {driving temporary scale tag : Value} {spec : ConstraintKind} {resolved : List Resolved}
    (asked : request = .addConstraint kind operands driving temporary scale tag)
    (next : c.id = sketch.table.nextId)
    (named : sketch.resolveRequest kind operands = .ok (spec, resolved))
    (read : tag.toInteger = .ok c.tag) (entries : after.table.entries = sketch.table.entries)
    (constraints : after.constraints = sketch.constraints ++ [c])
    (later : after.table.nextId = c.id + 1) : Effect request sketch (.ok (.id c.id)) after
  | dropped {answer : Except Fault Answer} {after : Sketch} (others : request.adds = false)
    (entries : after.table.entries =
      sketch.table.entries.filter fun entry => !request.removesGeometry entry.tag)
    (constraints : after.constraints =
      sketch.constraints.filter fun c => !request.removesConstraint c.tag)
    (later : after.table.nextId = sketch.table.nextId) : Effect request sketch answer after

/-- What draws adds. -/
theorem adds_of_draws (draws : request.draws?.isSome) : request.adds := by
  unfold adds
  rw [draws]
  rfl

/-- What adds removes nothing. -/
theorem removesConstraint_of_adds (adds : request.adds) (tag : Int) :
    request.removesConstraint tag = false := by
  cases request with
  | removeTag | clear => cases adds
  | _ => rfl

/-- Where no constraint is removed, no geometry is. -/
theorem removesGeometry_of_keeps {tag : Int} (keeps : request.removesConstraint tag = false) :
    request.removesGeometry tag = false := by
  unfold removesGeometry
  rw [keeps, Bool.false_and]

/-- What a request that draws does. -/
theorem effect_draws {kind : GeometryKind} (draws : request.draws? = some kind)
    (ready : sketch.Ready) :
    request.Effect sketch (request.perform.outcome sketch).1 (sketch.after request) := by
  obtain ⟨tag, add, tagged, enrols, performs⟩ := enrols draws
  have adds : request.adds := adds_of_draws (Option.isSome_of_eq_some draws)
  have keeps := removesConstraint_of_adds adds
  have enrolled := enrols sketch ready
  unfold Sketch.after
  rw [performs, Session.outcome_bind_pure]
  generalize (add.outcome sketch).1 = answer at enrolled ⊢
  generalize (add.outcome sketch).2 = after at enrolled ⊢
  cases enrolled with
  | refused fault idle => exact .idle idle (fun _ => ⟨fault, rfl⟩) keeps
  | registered next drawn stated accompanied read entries constraints later =>
    exact .drawn next (draws.trans (congrArg some drawn.symm)) stated accompanied tagged read
      entries constraints later

/-- What a request for a constraint does. -/
theorem effect_addConstraint {kind : Value} {operands : List Value}
    {driving temporary scale tag : Value} (ready : sketch.Ready) :
    (addConstraint kind operands driving temporary scale tag).Effect sketch
      ((addConstraint kind operands driving temporary scale tag).perform.outcome sketch).1
      (sketch.after (.addConstraint kind operands driving temporary scale tag)) := by
  unfold Sketch.after perform
  rw [Session.outcome_bind_pure]
  rcases Session.outcome_addConstraint_cases kind operands driving temporary scale tag sketch with
    ⟨fault, refused⟩ | ⟨modifiers, -, found⟩
  · rw [refused]
    exact .idle (.refl sketch) (fun _ => ⟨fault, rfl⟩) fun _ => rfl
  rw [found]
  rcases Session.outcome_constrain_cases kind operands modifiers tag sketch with
    ⟨fault, journal, refused⟩ |
    ⟨spec, resolved, named, ⟨fault, t, journal, refused, -⟩ |
      ⟨t, block, answer, journal, read, -, registered, -, shown⟩⟩
  · rw [refused]
    exact .idle ⟨rfl, rfl, Nat.le_refl _⟩ (fun _ => ⟨fault, rfl⟩) fun _ => rfl
  · rw [refused]
    exact .idle ⟨rfl, rfl, Nat.le_succ _⟩ (fun _ => ⟨fault, rfl⟩) fun _ => rfl
  · rw [registered, shown (ready.tolerates tag)]
    exact @Effect.constrained _ _ _ (sketch.nextConstraint spec resolved modifiers t block) _ _ _ _
      _ _ _ _ rfl rfl named read rfl rfl rfl

/-- A removal drops the constraints whose tag it equals, and the geometries as well if it can read
its tag. -/
theorem effect_removeTag {tag : Value} (ready : sketch.Ready) :
    (removeTag tag).Effect sketch ((removeTag tag).perform.outcome sketch).1
      (sketch.after (.removeTag tag)) := by
  have numbered := ready.toNumbered
  unfold Sketch.after perform
  rw [Session.outcome_bind_pure]
  rcases tag.equalsInteger_cases with equals | ⟨fault, other, unread, unequal⟩
  · cases read : tag.toInteger with
    | ok n =>
      obtain ⟨journal, removed⟩ :=
        Session.outcome_removeTag_of_equals numbered equals read (ready.tolerates tag)
      rw [removed]
      refine .dropped rfl ?_ rfl rfl
      have reads : (removeTag tag).readsTag = true := by
        show tag.toInteger.isOk = true
        rw [read]
        rfl
      simp only [removesGeometry, reads, Bool.and_true]
      exact filter_not_contains _ numbered.entriesAscend
    | error fault =>
      rw [Session.outcome_removeTag_unread numbered equals read]
      refine .dropped rfl ?_ rfl rfl
      have reads : (removeTag tag).readsTag = false := by
        show tag.toInteger.isOk = false
        rw [read]
        rfl
      simp [removesGeometry, reads]
  · -- The tag cannot be compared, so that nothing is removed.
    have keeps (n : Int) : (removeTag tag).removesConstraint n = false :=
      congrArg affirmed (unequal n)
    obtain ⟨refusal, refused⟩ :=
      @Session.outcome_removeTag_uncompared sketch tag fault other unread unequal
    rw [refused]
    exact .idle (.refl sketch) (fun adds => nomatch adds) keeps

/-- Clearing removes whatever there is. -/
theorem effect_clear :
    clear.Effect sketch (clear.perform.outcome sketch).1 (sketch.after .clear) := by
  refine .dropped rfl ?_ ?_ rfl
  · exact (List.filter_eq_nil_iff.mpr fun _ _ impossible => by cases impossible).symm
  · exact (List.filter_eq_nil_iff.mpr fun _ _ impossible => by cases impossible).symm

/-- What neither adds nor removes is idle. -/
theorem effect_of_proceeds (others : request.adds = false)
    (keeps : ∀ tag, request.removesConstraint tag = false)
    (proceeds : Session.Proceeds Sketch.Idle request.perform) :
    request.Effect sketch (request.perform.outcome sketch).1 (sketch.after request) :=
  .idle (Sketch.idle_of_steps (proceeds sketch)) (fun adds => nomatch others.symm.trans adds) keeps

open Session in
/-- What a request does, and what it answers. -/
theorem effect (ready : sketch.Ready) :
    request.Effect sketch (request.perform.outcome sketch).1 (sketch.after request) := by
  cases request with
  | addConstraint => exact effect_addConstraint ready
  | removeTag => exact effect_removeTag ready
  | clear => exact effect_clear
  | addParameter =>
    exact effect_of_proceeds rfl (fun _ => rfl) (.bind idle_addParameter fun _ => .pure _)
  | registerKind =>
    exact effect_of_proceeds rfl (fun _ => rfl) (.bind idle_registerKind fun _ => .pure _)
  | solve =>
    exact effect_of_proceeds rfl (fun _ => rfl) (.bind idle_solve fun _ => .pure _)
  | apply =>
    exact effect_of_proceeds rfl (fun _ => rfl)
      (.bind Sketch.covers_idle.apply fun _ => .pure _)
  | parameter =>
    exact effect_of_proceeds rfl (fun _ => rfl) (.bind proceeds_parameter fun _ => .pure _)
  | geometry =>
    exact effect_of_proceeds rfl (fun _ => rfl) (.bind proceeds_geometry fun _ => .pure _)
  | valueOf =>
    exact effect_of_proceeds rfl (fun _ => rfl) (.bind proceeds_valueOf fun _ => .pure _)
  | pointCoordinates =>
    exact effect_of_proceeds rfl (fun _ => rfl)
      (.bind proceeds_pointCoordinates fun _ => .pure _)
  | diagnosis =>
    exact effect_of_proceeds rfl (fun _ => rfl) (.bind .get fun _ => .pure _)
  | _ => exact effect_draws rfl ready

end Request

namespace Sketch

variable {sketch : Sketch}

/-- A request leaves a ready sketch ready. -/
theorem Ready.after (ready : sketch.Ready) (request : Request) : (sketch.after request).Ready := by
  have changes : Changes .all sketch (sketch.after request) :=
    Request.proceeds request.within_all sketch
  generalize sketch.after request = last at changes
  induction changes with
  | refl => exact ready
  | tail _ change ih => exact ih.change change

/-- What every request of some sort keeps of a ready sketch, such requests keep. -/
theorem Ready.invariant_afterAll {holds : Sketch → Prop} {allowed : Request → Prop}
    {requests : List Request} (ready : sketch.Ready) (all : ∀ request ∈ requests, allowed request)
    (kept : ∀ {sketch : Sketch} {request : Request}, sketch.Ready → allowed request →
      holds sketch → holds (sketch.after request)) (held : holds sketch) :
    holds (sketch.afterAll requests) := by
  induction requests generalizing sketch with
  | nil => exact held
  | cons request rest ih =>
    obtain ⟨first, others⟩ := List.forall_mem_cons.mp all
    exact ih (ready.after request) others (kept ready first held)

/-- Requests leave a ready sketch ready. -/
theorem Ready.afterAll (ready : sketch.Ready) (requests : List Request) :
    (sketch.afterAll requests).Ready :=
  ready.invariant_afterAll (fun _ _ => trivial) (fun ready (_ : True) _ => ready.after _) ready

end Sketch

end Drafting
