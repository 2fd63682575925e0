import Drafting.Exchange.Emission
import Drafting.Proofs.Classification
import Drafting.Proofs.Numbering
import Drafting.Proofs.Session

/-!
# Attributing failures

The other solver numbers the calls that create constraints and reports by number those that fail,
but never says which number a call was given: a cross-check counts along. Geometry that a
constraint is the first to refer to is emitted just before the constraint itself, so a point that is
held in place there takes a number of its own, between those of the constraints.

Here every call of a cross-check is put beside the constraint it was issued for, by running the
emission of one constraint after the other and looking at what is added. The failures that are
reported are the constraints beside the calls with the numbers that failed.
-/

namespace Drafting

namespace SolverCall

/-- Whether a call keeps a point in place or a circle at its diameter. -/
def holds : SolverCall → Bool
  | drag _ | diameter .. => true
  | _ => false

/-- Whether a call creates an entity or keeps one as it is. -/
def prepares : SolverCall → Bool
  | point .. | line .. | normal _ | circle .. | drag _ | diameter .. => true
  | _ => false

/-- Whether a call asks for a solution. -/
def isSolve : SolverCall → Bool
  | solve => true
  | _ => false

/-- There is one call that asks for a solution. -/
theorem eq_solve {call : SolverCall} (isSolve : call.isSolve) : call = solve := by
  cases call <;> first
    | rfl
    | cases isSolve

/-- Whether a call creates a constraint other than one that keeps an entity as it is. -/
def relates (call : SolverCall) : Bool := call.createsConstraint && !call.holds

/-- A call relates if it creates a constraint and keeps nothing as it is. -/
theorem relates_iff {call : SolverCall} :
    call.relates ↔ call.createsConstraint ∧ call.holds = false := by
  rw [relates, Bool.and_eq_true, Bool.not_eq_true']

/-- A call that prepares does not relate. -/
theorem not_relates_of_prepares {call : SolverCall} (prepares : call.prepares) : ¬call.relates := by
  cases call <;> first
    | exact Bool.false_ne_true
    | cases prepares

/-- A call that keeps an entity as it is prepares, and creates a constraint. -/
theorem prepares_of_holds {call : SolverCall} (holds : call.holds) :
    call.prepares ∧ call.createsConstraint := by
  cases call <;> first
    | exact ⟨rfl, rfl⟩
    | cases holds

end SolverCall

namespace Emission

/-- Some calls lead from one state of the emission to another, in which the constraints among them
are counted. -/
structure Adds (before : Emission) (calls : List SolverCall) (after : Emission) : Prop where
  calls_eq : after.calls.toList = before.calls.toList ++ calls
  constraints_eq :
    after.constraints = before.constraints + calls.countP SolverCall.createsConstraint

variable {before middle after : Emission} {calls later : List SolverCall}

/-- No calls lead to where the calls and the count are the same. -/
theorem Adds.nothing (calls : after.calls = before.calls)
    (constraints : after.constraints = before.constraints) : before.Adds [] after where
  calls_eq := by rw [calls, List.append_nil]
  constraints_eq := constraints

/-- What some calls add, and others after them. -/
theorem Adds.append (first : before.Adds calls middle) (second : middle.Adds later after) :
    before.Adds (calls ++ later) after where
  calls_eq := by rw [second.calls_eq, first.calls_eq, List.append_assoc]
  constraints_eq := by
    rw [second.constraints_eq, first.constraints_eq, List.countP_append, Nat.add_assoc]

/-- Calls that prepare lead from one state of the emission to another. -/
def Prepared (before after : Emission) : Prop :=
  ∃ calls, before.Adds calls after ∧ ∀ call ∈ calls, call.prepares

/-- Calls that prepare, and after them one that relates and is not counted yet, lead from one state
of the emission to another. -/
def Concluded (before after : Emission) : Prop :=
  ∃ middle call, before.Prepared middle ∧ call.relates ∧
    after = { middle with calls := middle.calls.push call }

/-- Where nothing is added, nothing has to be prepared. -/
theorem Prepared.of_same (calls : after.calls = before.calls)
    (constraints : after.constraints = before.constraints) : before.Prepared after :=
  ⟨[], Adds.nothing calls constraints, List.forall_mem_nil _⟩

/-- One call that prepares, counted if it creates a constraint. -/
theorem Prepared.of_call {call : SolverCall} (prepares : call.prepares)
    (calls : after.calls = before.calls.push call)
    (constraints : after.constraints =
      before.constraints + if call.createsConstraint then 1 else 0) : before.Prepared after := by
  refine ⟨[call], ⟨?_, ?_⟩, ?_⟩
  · rw [calls, Array.toList_push]
  · rw [constraints, List.countP_singleton]
  · intro other there
    rw [List.mem_singleton.mp there]
    exact prepares

/-- Preparations follow each other. -/
theorem Prepared.trans (first : before.Prepared middle) (second : middle.Prepared after) :
    before.Prepared after := by
  obtain ⟨calls, added, prepare⟩ := first
  obtain ⟨later, addedLater, prepareLater⟩ := second
  exact ⟨calls ++ later, added.append addedLater, List.forall_mem_append.mpr
    ⟨prepare, prepareLater⟩⟩

/-- A conclusion may be prepared for longer. -/
theorem Prepared.trans_concluded (first : before.Prepared middle)
    (second : middle.Concluded after) : before.Concluded after := by
  obtain ⟨last, call, prepared, relates, rfl⟩ := second
  exact ⟨last, call, first.trans prepared, relates, rfl⟩

/-- Once a conclusion is counted, the call that relates is the last one added. -/
theorem Concluded.counted (concluded : before.Concluded after) :
    ∃ calls call, (∀ call ∈ calls, call.prepares) ∧ call.relates ∧
      before.Adds (calls ++ [call]) { after with constraints := after.constraints + 1 } := by
  obtain ⟨middle, call, ⟨calls, added, prepare⟩, relates, rfl⟩ := concluded
  refine ⟨calls, call, prepare, relates, ?_, ?_⟩
  · show (middle.calls.push call).toList = _
    rw [Array.toList_push, added.calls_eq, List.append_assoc]
  · show middle.constraints + 1 = _
    rw [added.constraints_eq, List.countP_append, List.countP_singleton,
      if_pos (SolverCall.relates_iff.mp relates).1, Nat.add_assoc]

end Emission

namespace Emitting

variable {α β : Type} {before after : Emission}

/-- Two actions answer if the first does and the second does on what it left. -/
theorem run_bind_eq_ok {first : Emitting α} {next : α → Emitting β} {answer : β} :
    (first >>= next).run before = .ok (answer, after) ↔
      ∃ middle state, first.run before = .ok (middle, state) ∧
        (next middle).run state = .ok (answer, after) := by
  rw [StateT.run_bind, bind_eq_ok, Prod.exists]

/-- A step that knows no emission leaves it. -/
theorem run_liftM_eq_ok {step : Except Fault α} {answer : α} :
    (liftM step : Emitting α).run before = .ok (answer, after) ↔
      step = .ok answer ∧ before = after := by
  cases step with
  | error fault =>
    constructor
    · intro impossible
      cases impossible
    · rintro ⟨impossible, -⟩
      cases impossible
  | ok given =>
    show (Except.ok (given, before) : Except Fault _) = .ok (answer, after) ↔ _
    rw [Except.ok.injEq, Except.ok.injEq, Prod.mk.injEq]

/-- An action prepares if all it does to the emission is to add calls that prepare. -/
def Prepares (action : Emitting α) : Prop :=
  ∀ ⦃before answer after⦄, action.run before = .ok (answer, after) → before.Prepared after

/-- An action concludes if it answers yes, having added calls that prepare and one that relates. -/
def Concludes (action : Emitting Bool) : Prop :=
  ∀ ⦃before answer after⦄, action.run before = .ok (answer, after) →
    answer = true ∧ before.Concluded after

section Combining

/-- An answer prepares nothing. -/
theorem prepares_pure (answer : α) : Prepares (pure answer) := by
  intro before given after run
  cases run
  exact .of_same rfl rfl

/-- A step that knows no emission prepares nothing. -/
theorem prepares_liftM (step : Except Fault α) : Prepares (liftM step) := by
  intro before answer after run
  obtain ⟨-, rfl⟩ := run_liftM_eq_ok.mp run
  exact .of_same rfl rfl

/-- Two actions prepare if both do. -/
theorem prepares_bind {first : Emitting α} {next : α → Emitting β} (prepares : Prepares first)
    (followed : ∀ middle, Prepares (next middle)) : Prepares (first >>= next) := by
  intro before answer after run
  obtain ⟨middle, state, ran, continued⟩ := run_bind_eq_ok.mp run
  exact (prepares ran).trans (followed middle continued)

/-- What an action does after a look at the emission. -/
theorem prepares_get_bind {next : Emission → Emitting α} (prepares : ∀ seen, Prepares (next seen)) :
    Prepares (get >>= next) := fun before _ _ run => prepares before run

/-- A note of an entity is no call. -/
theorem prepares_modify {change : Emission → Emission}
    (calls : ∀ seen, (change seen).calls = seen.calls)
    (constraints : ∀ seen, (change seen).constraints = seen.constraints) :
    Prepares (modify change) := by
  intro before answer after run
  cases run
  exact .of_same (calls before) (constraints before)

/-- Creating an entity prepares. -/
theorem prepares_create {call : Nat → SolverCall} (prepares : ∀ entity, (call entity).prepares)
    (uncounted : ∀ entity, (call entity).createsConstraint = false) : Prepares (create call) := by
  intro before answer after run
  cases run
  refine .of_call (prepares (before.entities + 1)) rfl ?_
  simp [uncounted]

/-- Keeping an entity as it is, once it is counted, prepares. -/
theorem prepares_hold {call : SolverCall} (holds : call.holds) {next : Unit → Emitting α}
    (followed : Prepares (next ())) :
    Prepares (emit call >>= fun _ => countConstraint >>= next) := by
  have counted : Prepares (emit call >>= fun _ => countConstraint) := by
    intro before answer after run
    cases run
    obtain ⟨prepares, creates⟩ := SolverCall.prepares_of_holds holds
    refine .of_call prepares rfl ?_
    rw [if_pos creates]
  rw [← bind_assoc]
  exact prepares_bind counted fun _ => followed

/-- A conclusion may be prepared for. -/
theorem concludes_bind {first : Emitting α} {next : α → Emitting Bool} (prepares : Prepares first)
    (followed : ∀ middle, Concludes (next middle)) : Concludes (first >>= next) := by
  intro before answer after run
  obtain ⟨middle, state, ran, continued⟩ := run_bind_eq_ok.mp run
  obtain ⟨told, concluded⟩ := followed middle continued
  exact ⟨told, (prepares ran).trans_concluded concluded⟩

/-- A call that relates concludes. -/
theorem concludes_emit {call : SolverCall} (relates : call.relates) :
    Concludes (emit call >>= fun _ => pure true) := by
  intro before answer after run
  cases run
  exact ⟨rfl, before, call, .of_same rfl rfl, relates, rfl⟩

end Combining

section Geometry

variable (store : Store) (dragFixed : Bool)

/-- A point is created at most, and held in place. -/
theorem prepares_point (x y : Int) : Prepares (point store dragFixed x y) := by
  unfold point
  refine prepares_get_bind fun seen => ?_
  split
  · exact prepares_pure _
  · refine prepares_bind (prepares_liftM _) fun first => ?_
    refine prepares_bind (prepares_liftM _) fun second => ?_
    refine prepares_bind (prepares_create (fun _ => rfl) fun _ => rfl) fun entity => ?_
    refine prepares_bind (prepares_liftM _) fun heldAcross => ?_
    refine prepares_bind (prepares_liftM _) fun heldUp => ?_
    have noted : Prepares (do
        modify fun emission => { emission with points := ((x, y), entity) :: emission.points }
        return entity) :=
      prepares_bind (prepares_modify (fun _ => rfl) fun _ => rfl) fun _ => prepares_pure entity
    dsimp only
    split
    · exact prepares_hold rfl noted
    · exact noted

/-- So is the point that other geometry refers to. -/
theorem prepares_endPoint (view : View) : Prepares (endPoint store dragFixed view) := by
  unfold endPoint
  split
  · exact prepares_point store dragFixed _ _
  · exact prepares_liftM _

/-- A geometry is prepared at most once. -/
theorem prepares_once (id : Nat) {creation : Emitting Nat} (prepares : Prepares creation) :
    Prepares (once id creation) := by
  unfold once
  refine prepares_get_bind fun seen => ?_
  split
  · exact prepares_pure _
  · refine prepares_bind prepares fun entity => ?_
    exact prepares_bind (prepares_modify (fun _ => rfl) fun _ => rfl) fun _ => prepares_pure entity

/-- A line is created after its points. -/
theorem prepares_line (start finish : View) : Prepares (line store dragFixed start finish) := by
  unfold line
  refine prepares_bind (prepares_endPoint store dragFixed start) fun first => ?_
  refine prepares_bind (prepares_endPoint store dragFixed finish) fun second => ?_
  exact prepares_create (fun _ => rfl) fun _ => rfl

/-- A circle is created after its center, and kept at its diameter. -/
theorem prepares_circle (center : View) (radius : Int) :
    Prepares (circle store dragFixed center radius) := by
  unfold circle
  refine prepares_bind (prepares_liftM _) fun value => ?_
  refine prepares_bind (prepares_create (fun _ => rfl) fun _ => rfl) fun normal => ?_
  refine prepares_bind (prepares_endPoint store dragFixed center) fun middle => ?_
  refine prepares_bind (prepares_create (fun _ => rfl) fun _ => rfl) fun entity => ?_
  refine prepares_bind (prepares_liftM _) fun held => ?_
  dsimp only
  split
  · exact prepares_hold rfl (prepares_pure entity)
  · exact prepares_pure entity

/-- What is registered is prepared. -/
theorem prepares_geometry (entry : GeometryEntry) : Prepares (geometry store dragFixed entry) := by
  have ignored {action : Emitting Nat} (prepares : Prepares action) : Prepares (discard action) :=
    prepares_bind prepares fun _ => prepares_pure ()
  unfold geometry
  split
  · exact ignored (prepares_point store dragFixed _ _)
  · exact ignored (prepares_once _ (prepares_line store dragFixed _ _))
  · exact ignored (prepares_once _ (prepares_circle store dragFixed _ _))
  · exact prepares_pure ()

/-- All that is registered is prepared. -/
theorem prepares_geometries (entries : List GeometryEntry) :
    Prepares (entries.forM (geometry store dragFixed)) := by
  induction entries with
  | nil => exact prepares_pure ()
  | cons entry rest ih =>
    exact prepares_bind (prepares_geometry store dragFixed entry) fun _ => ih

end Geometry

end Emitting

namespace Sketch

open Emitting

section Operands

variable (sketch : Sketch) (dragFixed : Bool)

/-- A point that is an operand is prepared. -/
theorem prepares_emitPoint (operand : Operand) : Prepares (sketch.emitPoint dragFixed operand) := by
  unfold emitPoint
  split
  · exact prepares_point _ _ _ _
  · exact prepares_liftM _

/-- A line that is an operand is prepared. -/
theorem prepares_emitLine (operand : Operand) : Prepares (sketch.emitLine dragFixed operand) := by
  unfold emitLine
  split
  · dsimp only
    split
    · exact prepares_once _ (prepares_line _ _ _ _)
    · exact prepares_line _ _ _ _
  · exact prepares_liftM _

/-- The value of an operand prepares nothing. -/
theorem prepares_scalarValue (operand : Operand) : Prepares (sketch.scalarValue operand) := by
  unfold scalarValue
  split
  · exact prepares_liftM _
  · exact prepares_liftM _

/-- A circle that is an operand is prepared if it is registered, and else nothing happens. -/
theorem emitCircle?_cases {operand : Operand} {before after : Emission} {circle : Option Nat}
    (run : (sketch.emitCircle? dragFixed operand).run before = .ok (circle, after)) :
    (∃ entity, circle = some entity) ∧ before.Prepared after ∨ circle = none ∧ after = before := by
  unfold emitCircle? at run
  split at run
  · split at run
    · obtain ⟨entity, state, ran, continued⟩ := run_bind_eq_ok.mp run
      cases continued
      exact .inl ⟨⟨entity, rfl⟩, prepares_once _ (prepares_circle _ _ _ _) ran⟩
    · cases run
      exact .inr ⟨rfl, rfl⟩
  · cases run
    exact .inr ⟨rfl, rfl⟩

/-- A relation between two lines concludes once they are prepared. -/
theorem concludes_emitLinePair (first second : Operand) {call : Nat → Nat → Emitting SolverCall}
    (relates : ∀ first second, Concludes (call first second >>= fun call => do
      emit call
      return true)) :
    Concludes (do
      sketch.emitLinePair dragFixed first second call
      return true) := by
  unfold emitLinePair
  simp only [bind_assoc]
  refine concludes_bind (sketch.prepares_emitLine dragFixed first) fun start => ?_
  refine concludes_bind (sketch.prepares_emitLine dragFixed second) fun finish => ?_
  exact relates start finish

end Operands

variable {sketch : Sketch} {dragFixed : Bool} {before after : Emission}

/-- A constraint is emitted by calls that prepare and one that relates, or not at all. -/
theorem emitConstraint_cases {c : Constraint} {supported : Bool}
    (run : (sketch.emitConstraint dragFixed c).run before = .ok (supported, after)) :
    supported = true ∧ before.Concluded after ∨ supported = false ∧ after = before := by
  have point := sketch.prepares_emitPoint dragFixed
  have line := sketch.prepares_emitLine dragFixed
  have scalar := sketch.prepares_scalarValue
  unfold emitConstraint at run
  split at run
  · refine .inl (concludes_bind (point _) (fun first => ?_) run)
    exact concludes_bind (point _) fun second => concludes_emit rfl
  · refine .inl (concludes_bind (point _) (fun first => ?_) run)
    refine concludes_bind (point _) fun second => ?_
    exact concludes_bind (scalar _) fun value => concludes_emit rfl
  · refine .inl (concludes_bind (point _) (fun first => ?_) run)
    exact concludes_bind (line _) fun second => concludes_emit rfl
  · obtain ⟨circle, state, ran, continued⟩ := run_bind_eq_ok.mp run
    rcases sketch.emitCircle?_cases dragFixed ran with ⟨⟨entity, rfl⟩, prepared⟩ | ⟨rfl, rfl⟩
    · obtain ⟨told, concluded⟩ :=
        concludes_bind (point _) (fun first => concludes_emit rfl) continued
      exact .inl ⟨told, prepared.trans_concluded concluded⟩
    · cases continued
      exact .inr ⟨rfl, rfl⟩
  · exact .inl (sketch.concludes_emitLinePair dragFixed _ _ (fun _ _ => concludes_emit rfl) run)
  · exact .inl (sketch.concludes_emitLinePair dragFixed _ _ (fun _ _ => concludes_emit rfl) run)
  · refine .inl (sketch.concludes_emitLinePair dragFixed _ _ (fun _ _ => ?_) run)
    rw [bind_assoc]
    exact concludes_bind (scalar _) fun value => concludes_emit rfl
  · exact .inl (sketch.concludes_emitLinePair dragFixed _ _ (fun _ _ => concludes_emit rfl) run)
  · cases run
    exact .inr ⟨rfl, rfl⟩

end Sketch

/-- A call beside the constraint it was issued for, if any. -/
abbrev IssuedCall := Option Nat × SolverCall

/-- The constraint that a number stands for among issued calls: the one that the call with this
number was issued for, minus one if that call keeps an entity as it is or there is no such call. -/
def accountable (issued : List IssuedCall) (handle : Int) : Int :=
  let creating := issued.filter (·.2.createsConstraint)
  match if 0 < handle then creating[(handle - 1).toNat]? else none with
  | some (some id, call) => if call.holds then -1 else id
  | _ => -1

/-- The constraints that are named for the numbers that failed are those accountable for them, in
ascending order; a failure without numbers is no constraint's. -/
structure NamesFailures (issued : List IssuedCall) (failures ids : List Int) : Prop where
  ascend : ids.Pairwise (· < ·)
  named : failures ≠ [] → ∀ id, id ∈ ids ↔ ∃ handle ∈ failures, accountable issued handle = id
  unnamed : failures = [] → ids = [-1]

namespace Emitting

/-- The calls that an action adds to those before; none if it is refused. -/
def issues (action : Emitting α) (before : Emission) : List SolverCall :=
  match action.run before with
  | .ok (_, after) => after.calls.toList.drop before.calls.size
  | .error _ => []

/-- The emission that an action leaves; the one it found if it is refused. -/
def leaves (action : Emitting α) (before : Emission) : Emission :=
  match action.run before with
  | .ok (_, after) => after
  | .error _ => before

variable {action : Emitting α} {answer : α} {before after : Emission} {calls : List SolverCall}

/-- What an action adds is what it issues. -/
theorem issues_eq (run : action.run before = .ok (answer, after))
    (added : before.Adds calls after) :
    action.issues before = calls := by
  unfold issues
  rw [run]
  show after.calls.toList.drop before.calls.size = calls
  rw [added.calls_eq, ← Array.length_toList, List.drop_left]

/-- What an action that is not refused leaves. -/
theorem leaves_eq (run : action.run before = .ok (answer, after)) :
    action.leaves before = after := by
  unfold leaves
  rw [run]

end Emitting

namespace Sketch

/-- The calls issued for some constraints, one after the other. -/
def issuedFor (sketch : Sketch) (dragFixed : Bool) : List Constraint → Emission → List IssuedCall
  | [], _ => []
  | c :: rest, before =>
    let emitting := sketch.emitConstraints dragFixed [c]
    (emitting.issues before).map (some c.id, ·) ++
      sketch.issuedFor dragFixed rest (emitting.leaves before)

/-- All calls for a sketch: those for its geometry belong to no constraint. -/
def issuedCalls (sketch : Sketch) (dragFixed : Bool) : List IssuedCall :=
  let drawing := sketch.table.entries.forM (Emitting.geometry sketch.store dragFixed)
  (drawing.issues .empty).map (none, ·) ++
    sketch.issuedFor dragFixed sketch.constraints (drawing.leaves .empty)

end Sketch

/-- Numbers given to constraints are those of the calls issued for them, which are counted on from
some number. -/
def Numbers (count : Nat) (handles : List (Nat × Option Nat)) (issued : List IssuedCall) : Prop :=
  ∀ id number, (id, some number) ∈ handles ↔
    ∃ place call, number = count + 1 + place ∧ call.relates ∧
      (issued.filter (·.2.createsConstraint))[place]? = some (some id, call)

section Numbering

variable {count : Nat} {handles : List (Nat × Option Nat)} {issued : List IssuedCall}

/-- Without calls there are no numbers. -/
theorem Numbers.nil : Numbers count [] [] := by
  intro id number
  simp

/-- A constraint without a call gets no number. -/
theorem Numbers.unsupported (numbers : Numbers count handles issued) (id : Nat) :
    Numbers count ((id, none) :: handles) issued := by
  intro other number
  rw [← numbers, List.mem_cons]
  simp

/-- Calls that prepare take numbers but give them to no constraint. -/
theorem Numbers.prepared {calls : List SolverCall} (prepare : ∀ call ∈ calls, call.prepares)
    (owner : Option Nat)
    (numbers : Numbers (count + calls.countP SolverCall.createsConstraint) handles issued) :
    Numbers count handles (calls.map (owner, ·) ++ issued) := by
  let kept := (calls.map ((owner, ·) : SolverCall → IssuedCall)).filter (·.2.createsConstraint)
  have length : kept.length = calls.countP SolverCall.createsConstraint := by
    rw [← List.countP_eq_length_filter, List.countP_map]
    rfl
  intro id number
  rw [numbers, List.filter_append]
  constructor
  · rintro ⟨place, call, rfl, relates, found⟩
    refine ⟨kept.length + place, call, ?_, relates, ?_⟩
    · omega
    · rw [List.getElem?_append_right (Nat.le_add_right _ _), Nat.add_sub_cancel_left]
      exact found
  · rintro ⟨place, call, rfl, relates, found⟩
    by_cases within : place < kept.length
    · rw [List.getElem?_append_left within] at found
      obtain ⟨other, there, same⟩ :=
        List.mem_map.mp (List.mem_of_mem_filter (List.mem_of_getElem? found))
      cases same
      exact absurd relates (SolverCall.not_relates_of_prepares (prepare call there))
    · have beyond := Nat.le_of_not_lt within
      rw [List.getElem?_append_right beyond] at found
      exact ⟨place - kept.length, call, by omega, relates, found⟩

/-- A call that relates gives the next number to the constraint that it is issued for. -/
theorem Numbers.related {call : SolverCall} (relates : call.relates) (id : Nat)
    (numbers : Numbers (count + 1) handles issued) :
    Numbers count ((id, some (count + 1)) :: handles) ((some id, call) :: issued) := by
  have creates := (SolverCall.relates_iff.mp relates).1
  intro other number
  rw [@List.filter_cons_of_pos IssuedCall _ _ issued creates, List.mem_cons, numbers]
  constructor
  · rintro (same | ⟨place, later, rfl, laterRelates, found⟩)
    · cases same
      exact ⟨0, call, rfl, relates, rfl⟩
    · exact ⟨place + 1, later, by omega, laterRelates, found⟩
  · rintro ⟨_ | place, later, rfl, laterRelates, found⟩
    · rw [List.getElem?_cons_zero] at found
      cases found
      exact .inl rfl
    · exact .inr ⟨place, later, by omega, laterRelates, found⟩

/-- The constraint that a number was given to is the one that is accountable for it. -/
theorem Numbers.ownerOf_eq (numbers : Numbers 0 handles issued) (handle : Int) :
    ownerOf handles handle = accountable issued handle := by
  unfold ownerOf
  split
  case h_1 id own found =>
    unfold accountable
    dsimp only
    have listed := List.mem_of_find?_eq_some found
    have matched := List.find?_some found
    cases own with
    | none => cases matched
    | some number =>
      obtain rfl : (number : Int) = handle := of_decide_eq_true matched
      obtain ⟨place, call, rfl, relates, numbered⟩ := (numbers id number).mp listed
      rw [if_pos (by omega), show (((0 + 1 + place : Nat) : Int) - 1).toNat = place by omega,
        numbered]
      simp [(SolverCall.relates_iff.mp relates).2]
  case h_2 found =>
    unfold accountable
    dsimp only
    by_cases positive : 0 < handle
    · rw [if_pos positive]
      split
      case h_1 id call numbered =>
        cases keeps : call.holds with
        | true => rfl
        | false =>
          -- such a call would have given its number to a constraint
          have creates := (List.mem_filter.mp (List.mem_of_getElem? numbered)).2
          have listed := (numbers id handle.toNat).mpr ⟨(handle - 1).toNat, call, by omega,
            SolverCall.relates_iff.mpr ⟨creates, keeps⟩, numbered⟩
          exact absurd (decide_eq_true (Int.toNat_of_nonneg (Int.le_of_lt positive)))
            (List.find?_eq_none.mp found _ listed)
      case h_2 => rfl
    · rw [if_neg positive]

/-- Failures are named by the constraints that the numbers were given to. -/
theorem Numbers.namesFailures (numbers : Numbers 0 handles issued) (failures : List Int) :
    NamesFailures issued failures (failedConstraints handles failures) := by
  unfold failedConstraints
  cases failures with
  | nil =>
    exact ⟨List.pairwise_singleton _ _, fun impossible => absurd rfl impossible, fun _ => rfl⟩
  | cons first rest =>
    refine ⟨pairwise_ascendingTags _, fun _ id => ?_, fun impossible => nomatch impossible⟩
    show id ∈ ascendingTags _ ↔ _
    rw [mem_ascendingTags, List.mem_map]
    simp only [numbers.ownerOf_eq]

end Numbering

/-- What is known of constraints that are emitted by some calls: each call is either preparation or
relates, the numbers given count on from those before, and no call is issued for a constraint
without a number. -/
structure Accounts (constraints : List Constraint) (before : Emission)
    (handles : List (Nat × Option Nat)) (issued : List IssuedCall) (after : Emission) : Prop where
  adds : before.Adds (issued.map (·.2)) after
  sorts : ∀ entry ∈ issued, entry.2.prepares ∨ entry.2.relates
  numbers : ∀ ⦃others later⦄, Numbers after.constraints others later →
    Numbers before.constraints (handles ++ others) (issued ++ later)
  named : ∀ id call, (some id, call) ∈ issued → ∃ number, (id, some number) ∈ handles
  flagged : ∀ c ∈ constraints, Answers c.isHard
  ids : handles.map (·.1) = (constraints.filter fun c => affirmed c.isHard).map (·.id)

namespace Accounts

variable {before middle after : Emission}

/-- Accounts of constraints emitted one after the other. -/
theorem append {constraints others : List Constraint} {handles later : List (Nat × Option Nat)}
    {issued issuedLater : List IssuedCall}
    (first : Accounts constraints before handles issued middle)
    (second : Accounts others middle later issuedLater after) :
    Accounts (constraints ++ others) before (handles ++ later) (issued ++ issuedLater) after where
  adds := by
    rw [List.map_append]
    exact first.adds.append second.adds
  sorts := List.forall_mem_append.mpr ⟨first.sorts, second.sorts⟩
  numbers := fun _ _ numbers => by
    rw [List.append_assoc, List.append_assoc]
    exact first.numbers (second.numbers numbers)
  named := fun id call there => by
    rcases List.mem_append.mp there with here | beyond
    · obtain ⟨number, given⟩ := first.named id call here
      exact ⟨number, List.mem_append_left _ given⟩
    · obtain ⟨number, given⟩ := second.named id call beyond
      exact ⟨number, List.mem_append_right _ given⟩
  flagged := List.forall_mem_append.mpr ⟨first.flagged, second.flagged⟩
  ids := by rw [List.map_append, first.ids, second.ids, List.filter_append, List.map_append]

/-- Calls that prepare for geometry belong to no constraint. -/
theorem prepared {calls : List SolverCall} (added : before.Adds calls after)
    (prepare : ∀ call ∈ calls, call.prepares) :
    Accounts [] before [] (calls.map (none, ·)) after where
  adds := by
    rw [List.map_map]
    exact (List.map_id calls).symm ▸ added
  sorts := by
    intro entry there
    obtain ⟨call, among, rfl⟩ := List.mem_map.mp there
    exact .inl (prepare call among)
  numbers := fun _ _ numbers => .prepared prepare none (added.constraints_eq ▸ numbers)
  named := by
    intro id call there
    obtain ⟨_, _, impossible⟩ := List.mem_map.mp there
    cases impossible
  flagged := List.forall_mem_nil _
  ids := rfl

/-- A constraint that nothing is emitted for has no number. -/
theorem nothing {c : Constraint} {hard : Bool} (known : c.isHard = .ok hard) :
    Accounts [c] before (if hard then [(c.id, none)] else []) [] before where
  adds := .nothing rfl rfl
  sorts := List.forall_mem_nil _
  numbers := fun _ _ numbers => by
    cases hard with
    | false => exact numbers
    | true => exact numbers.unsupported c.id
  named := fun _ _ there => nomatch there
  flagged := List.forall_mem_singleton.mpr ⟨hard, known⟩
  ids := by cases hard <;> simp [affirmed, known]

/-- A constraint that concludes with a call has its number. -/
theorem concluded {c : Constraint} (known : c.isHard = .ok true) {calls : List SolverCall}
    {call : SolverCall} (added : before.Adds (calls ++ [call]) after)
    (prepare : ∀ call ∈ calls, call.prepares) (relates : call.relates) :
    Accounts [c] before [(c.id, some after.constraints)] ((calls ++ [call]).map (some c.id, ·))
      after where
  adds := by
    rw [List.map_map]
    exact (List.map_id (calls ++ [call])).symm ▸ added
  sorts := by
    intro entry there
    obtain ⟨other, among, rfl⟩ := List.mem_map.mp there
    rcases List.mem_append.mp among with early | last
    · exact .inl (prepare other early)
    · rw [List.mem_singleton.mp last]
      exact .inr relates
  numbers := fun _ _ numbers => by
    have counted : after.constraints =
        before.constraints + calls.countP SolverCall.createsConstraint + 1 := by
      rw [added.constraints_eq, List.countP_append, List.countP_singleton,
        if_pos (SolverCall.relates_iff.mp relates).1, Nat.add_assoc]
    rw [List.map_append, List.append_assoc]
    rw [counted] at numbers ⊢
    exact .prepared prepare _ (.related relates _ numbers)
  named := fun id other there => by
    obtain ⟨_, _, same⟩ := List.mem_map.mp there
    cases same
    exact ⟨_, List.mem_singleton_self _⟩
  flagged := List.forall_mem_singleton.mpr ⟨true, known⟩
  ids := by simp [affirmed, known]

end Accounts

namespace Sketch

open Emitting

variable {sketch : Sketch} {dragFixed : Bool} {before after : Emission}

/-- Constraints are emitted one after the other. -/
theorem emitConstraints_cons (c : Constraint) (rest : List Constraint) :
    sketch.emitConstraints dragFixed (c :: rest) = (do
      let own ← sketch.emitConstraints dragFixed [c]
      let later ← sketch.emitConstraints dragFixed rest
      return own ++ later) := by
  simp only [emitConstraints, bind_assoc]
  refine congrArg _ (funext fun hard => ?_)
  cases hard with
  | false => simp
  | true =>
    simp only [↓reduceIte, bind_assoc]
    refine congrArg _ (funext fun supported => ?_)
    cases supported <;> simp

/-- One constraint is accounted for, beside its calls. -/
theorem accounts_single {c : Constraint} {own : List (Nat × Option Nat)}
    (run : (sketch.emitConstraints dragFixed [c]).run before = .ok (own, after)) :
    Accounts [c] before own
      (((sketch.emitConstraints dragFixed [c]).issues before).map (some c.id, ·)) after := by
  have ran := run
  simp only [emitConstraints] at run
  obtain ⟨hard, start, known, continued⟩ := run_bind_eq_ok.mp run
  obtain ⟨isHard, rfl⟩ := run_liftM_eq_ok.mp known
  cases hard with
  | false =>
    cases continued
    rw [issues_eq ran (.nothing rfl rfl)]
    exact .nothing isHard
  | true =>
    obtain ⟨supported, middle, emitted, counted⟩ := run_bind_eq_ok.mp continued
    rcases emitConstraint_cases emitted with ⟨rfl, concluded⟩ | ⟨rfl, rfl⟩
    · obtain ⟨calls, call, prepare, relates, added⟩ := concluded.counted
      cases counted
      rw [issues_eq ran added]
      exact .concluded isHard added prepare relates
    · cases counted
      rw [issues_eq ran (.nothing rfl rfl)]
      exact .nothing isHard

/-- Constraints are accounted for, each beside its calls. -/
theorem accounts_emitConstraints {constraints : List Constraint}
    {handles : List (Nat × Option Nat)}
    (run : (sketch.emitConstraints dragFixed constraints).run before = .ok (handles, after)) :
    Accounts constraints before handles (sketch.issuedFor dragFixed constraints before) after := by
  induction constraints generalizing before handles with
  | nil =>
    cases run
    exact .prepared (.nothing rfl rfl) (List.forall_mem_nil _)
  | cons c rest ih =>
    rw [emitConstraints_cons] at run
    obtain ⟨own, middle, ran, continued⟩ := run_bind_eq_ok.mp run
    obtain ⟨later, last, ranLater, ended⟩ := run_bind_eq_ok.mp continued
    cases ended
    rw [issuedFor, leaves_eq ran]
    exact (accounts_single ran).append (ih ranLater)

/-- All that is emitted for a sketch is accounted for. -/
theorem accounts_emitAll {handles : List (Nat × Option Nat)}
    (run : (sketch.emitAll dragFixed).run .empty = .ok (handles, after)) :
    Accounts sketch.constraints .empty handles (sketch.issuedCalls dragFixed) after := by
  obtain ⟨_, drawn, ran, continued⟩ := run_bind_eq_ok.mp run
  obtain ⟨calls, added, prepare⟩ := prepares_geometries _ _ _ ran
  have drawing := Accounts.prepared added prepare
  rw [issuedCalls, issues_eq ran added, leaves_eq ran]
  exact drawing.append (accounts_emitConstraints continued)

/-- What is issued for some constraints is issued for one of them. -/
theorem exists_of_issuedFor {constraints : List Constraint} {owner : Option Nat} {call : SolverCall}
    (there : (owner, call) ∈ sketch.issuedFor dragFixed constraints before) :
    ∃ c ∈ constraints, owner = some c.id := by
  induction constraints generalizing before with
  | nil => cases there
  | cons c rest ih =>
    rcases List.mem_append.mp there with here | later
    · obtain ⟨_, _, same⟩ := List.mem_map.mp here
      cases same
      exact ⟨c, List.mem_cons_self, rfl⟩
    · obtain ⟨other, among, same⟩ := ih later
      exact ⟨other, List.mem_cons_of_mem c among, same⟩

/-- Calls are issued for constraints in the order of their identifiers. -/
theorem issuedFor_ascends {constraints : List Constraint}
    (ascend : constraints.Pairwise (·.id < ·.id)) (before : Emission) :
    ((sketch.issuedFor dragFixed constraints before).filterMap (·.1)).Pairwise (· ≤ ·) := by
  induction ascend generalizing before with
  | nil => exact .nil
  | @cons c rest least _ ih =>
    rw [issuedFor, List.filterMap_append, List.pairwise_append]
    have own {id : Nat} {calls : List SolverCall}
        (there : id ∈ (calls.map ((some c.id, ·) : SolverCall → IssuedCall)).filterMap (·.1)) :
        id = c.id := by
      obtain ⟨_, issued, same⟩ := List.mem_filterMap.mp there
      obtain ⟨call, -, rfl⟩ := List.mem_map.mp issued
      exact (Option.some.inj same).symm
    refine ⟨?_, ih _, ?_⟩
    · exact List.pairwise_iff_forall_sublist.mpr fun within => by
        rw [own (within.subset List.mem_cons_self),
          own (within.subset (List.mem_cons_of_mem _ (List.mem_singleton_self _)))]
    · intro id here other later
      obtain ⟨⟨owner, call⟩, issued, same⟩ := List.mem_filterMap.mp later
      obtain ⟨d, among, known⟩ := exists_of_issuedFor issued
      obtain rfl : owner = some other := same
      rw [own here, Option.some.inj known]
      exact Nat.le_of_lt (least d among)

/-- All calls are issued for constraints in the order of their identifiers. -/
theorem issuedCalls_ascend (ascend : sketch.constraints.Pairwise (·.id < ·.id)) :
    ((sketch.issuedCalls dragFixed).filterMap (·.1)).Pairwise (· ≤ ·) := by
  rw [issuedCalls, List.filterMap_append, List.filterMap_map]
  have nobody (calls : List SolverCall) :
      calls.filterMap ((·.1) ∘ ((none, ·) : SolverCall → IssuedCall)) = [] := by
    rw [List.filterMap_eq_nil_iff]
    exact fun _ _ => rfl
  rw [nobody, List.nil_append]
  exact issuedFor_ascends ascend _

/-- What a cross-check makes of a sketch: its calls are those issued for the geometry and the hard
constraints, each of which it makes a call for or finds unsupported, and the failures it reports are
accounted for. -/
structure CrossChecks (sketch : Sketch) (dragFixed : Bool) (failures : List Int)
    (exchange : Exchange) : Prop where
  calls : exchange.calls.toList = (sketch.issuedCalls dragFixed).map (·.2) ∨
    exchange.calls.toList = (sketch.issuedCalls dragFixed).map (·.2) ++ [.solve]
  /-- Once the other solver is asked, a failure is that of the constraints it names by number. -/
  failed : .solve ∈ exchange.calls → ∀ ids, exchange.verdict = .failed ids →
    NamesFailures (sketch.issuedCalls dragFixed) failures ids
  hard : ∃ hard, sketch.hard = .ok hard ∧ (hard.map (·.id)).Pairwise (· < ·) ∧
    ∀ id, id ∈ hard.map (·.id) ↔ id ∈ exchange.unsupported ∨
      ∃ call, (some id, call) ∈ sketch.issuedCalls dragFixed ∧ call.createsConstraint
  issuedAscend : ((sketch.issuedCalls dragFixed).filterMap (·.1)).Pairwise (· ≤ ·)
  unsupportedAscend : exchange.unsupported.Pairwise (· < ·)
  /-- Nothing at all is issued for a constraint that there is no call for. -/
  silent : ∀ id ∈ exchange.unsupported, ∀ call, (some id, call) ∉ sketch.issuedCalls dragFixed

end Sketch

namespace Session

/-- Something is known of every answer that a request gives, on whatever sketch. -/
def Finds (request : Session α) (known : α → Prop) : Prop :=
  ∀ ⦃sketch answer after⦄, request.outcome sketch = (.ok answer, after) → known answer

/-- What is known of the answers is known of this one. -/
theorem Finds.known {request : Session α} {known : α → Prop} {sketch after : Sketch} {answer : α}
    (finds : Finds request known) (answered : request.outcome sketch = (.ok answer, after)) :
    known answer := finds answered

/-- What is known of an answer. -/
theorem finds_pure {known : α → Prop} {answer : α} (knows : known answer) :
    Finds (pure answer) known := by
  intro sketch given after answered
  cases answered
  exact knows

/-- What is known of the answer of a last step. -/
theorem finds_bind {first : Session α} {next : α → Session β} {known : β → Prop}
    (knows : ∀ middle, Finds (next middle) known) : Finds (first >>= next) known := by
  intro sketch answer after answered
  rw [outcome_bind] at answered
  rcases reached : first.outcome sketch with ⟨fault | middle, state⟩
  · rw [reached] at answered
    cases answered
  · rw [reached] at answered
    exact knows middle answered

/-- What is known either way. -/
theorem finds_ite {yes no : Session α} {known : α → Prop} {condition : Prop}
    [Decidable condition] (affirmed : Finds yes known) (denied : Finds no known) :
    Finds (if condition then yes else no) known := by
  split
  · exact affirmed
  · exact denied

/-- How a cross-check ends that has emitted some constraints: before the other solver is asked, or
with its reply. -/
def Ends (handles : List (Nat × Option Nat)) (emission : Emission) (failures : List Int)
    (found : Exchange) : Prop :=
  found.unsupported = (handles.filter (·.2.isNone)).map (·.1) ∧
    (found.calls = emission.calls ∨
      found.calls = emission.calls.push .solve ∧
        ∀ ids, found.verdict = .failed ids → ids = failedConstraints handles failures)

/-- A cross-check that answers has emitted the whole sketch. -/
theorem exchange_ends {options : ExchangeOptions} {reply : SolverReply} {sketch after : Sketch}
    {found : Exchange} (answered : (exchange options reply).outcome sketch = (.ok found, after)) :
    ∃ handles emission, (sketch.emitAll options.dragFixed).run .empty = .ok (handles, emission) ∧
      Ends handles emission reply.failures found := by
  unfold exchange at answered
  rw [outcome_get_bind, outcome_liftM_bind] at answered
  cases run : (sketch.emitAll options.dragFixed).run .empty with
  | error fault =>
    rw [run] at answered
    cases answered
  | ok emitted =>
    obtain ⟨handles, emission⟩ := emitted
    rw [run] at answered
    refine ⟨handles, emission, rfl, ?_⟩
    dsimp -zeta only at answered
    refine @Finds.known _ _ (Ends handles emission reply.failures) _ _ _ ?_ answered
    extract_lets unsupported calls finish
    have finishes (seen : Unit) : Finds (finish seen) (Ends handles emission reply.failures) := by
      refine finds_ite (finds_pure ⟨rfl, .inl rfl⟩) (finds_bind fun _ => finds_ite ?_ ?_)
      · exact finds_bind fun _ => finds_pure ⟨rfl, .inr ⟨rfl, fun _ solved => nomatch solved⟩⟩
      · exact finds_pure ⟨rfl, .inr ⟨rfl, fun _ failed => (Verdict.failed.inj failed).symm⟩⟩
    exact finds_ite (finishes ()) (finds_bind finishes)

end Session

namespace Sketch

/-- A cross-check tells the other solver about every hard constraint that there is a call for, and
maps the numbers that the other solver reports back to the constraints they were given for. -/
theorem exchange_crossChecks {sketch after : Sketch} (numbered : sketch.Numbered)
    {options : ExchangeOptions} {reply : SolverReply} {exchange : Exchange}
    (answered : (Session.exchange options reply).outcome sketch = (.ok exchange, after)) :
    sketch.CrossChecks options.dragFixed reply.failures exchange := by
  obtain ⟨handles, emission, run, unsupported, ending⟩ := Session.exchange_ends answered
  have accounts := accounts_emitAll run
  have emitted : emission.calls.toList = (sketch.issuedCalls options.dragFixed).map (·.2) :=
    accounts.adds.calls_eq
  have numbers : Numbers 0 handles (sketch.issuedCalls options.dragFixed) := by
    have all := accounts.numbers Numbers.nil
    rwa [List.append_nil, List.append_nil] at all
  have unasked : .solve ∉ emission.calls := by
    rw [← Array.mem_toList_iff, emitted, List.mem_map]
    rintro ⟨⟨owner, call⟩, issued, rfl⟩
    rcases accounts.sorts _ issued with impossible | impossible <;> cases impossible
  have hardAscend : (handles.map (·.1)).Pairwise (· < ·) := by
    rw [accounts.ids, List.pairwise_map]
    exact numbered.constraintsAscend.sublist List.filter_sublist
  have mem_unsupported (id : Nat) : id ∈ exchange.unsupported ↔ (id, none) ∈ handles := by
    rw [unsupported]
    simp
  constructor
  case calls =>
    rcases ending with early | ⟨late, -⟩
    · exact .inl (by rw [early, emitted])
    · exact .inr (by rw [late, Array.toList_push, emitted])
  case failed =>
    intro asked ids failed
    rcases ending with early | ⟨-, named⟩
    · exact absurd (early ▸ asked) unasked
    · rw [named ids failed]
      exact numbers.namesFailures reply.failures
  case hard =>
    refine ⟨_, filterM_eq_ok.mpr ⟨accounts.flagged, rfl⟩, accounts.ids ▸ hardAscend, fun id => ?_⟩
    rw [← accounts.ids, mem_unsupported, List.mem_map]
    constructor
    · rintro ⟨⟨_, _ | number⟩, listed, rfl⟩
      · exact .inl listed
      · obtain ⟨_, call, -, relates, found⟩ := (numbers _ number).mp listed
        exact .inr ⟨call, List.mem_of_mem_filter (List.mem_of_getElem? found),
          (SolverCall.relates_iff.mp relates).1⟩
    · rintro (listed | ⟨call, issued, -⟩)
      · exact ⟨_, listed, rfl⟩
      · obtain ⟨number, listed⟩ := accounts.named id call issued
        exact ⟨_, listed, rfl⟩
  case issuedAscend => exact issuedCalls_ascend numbered.constraintsAscend
  case unsupportedAscend =>
    rw [unsupported]
    exact hardAscend.sublist (List.filter_sublist.map _)
  case silent =>
    intro id passed call issued
    obtain ⟨number, listed⟩ := accounts.named id call issued
    have distinct : (handles.map (·.1)).Nodup := hardAscend.imp Nat.ne_of_lt
    cases List.inj_on_of_nodup_map distinct ((mem_unsupported id).mp passed) listed rfl

/-- Requests that fix two points, relate them by a distance and by an angle, and remove the first
point, which only the constraints refer to from then on. -/
def pinnedRequests : List Request :=
  [.addPoint (.int 0) (.int 0) (.bool true) (.int 7),
    .addPoint (.int 3) (.int 4) (.bool true) (.int 0),
    .addConstraint (.text "p2p_distance") [.int 0, .int 1, .int 6] (.bool true) (.bool false)
      (.int 1) (.int 0),
    .addConstraint (.text "p2p_angle") [.int 0, .int 1, .int 1] (.bool true) (.bool false)
      (.int 1) (.int 0),
    .removeTag (.int 7)]

/-- The point that is left is held by the first call with a number, and the one that is met in the
distance by the second, so the third number is that of the distance. -/
theorem exchange_crossChecks_pinned :
    let sketch := (start 0 .standard .silent).afterAll pinnedRequests
    let reply : SolverReply := ⟨1, [3], 0, []⟩
    sketch.Numbered ∧
      ∃ exchange after, (Session.exchange ⟨true, true⟩ reply).outcome sketch =
          (.ok exchange, after) ∧
        .solve ∈ exchange.calls ∧ exchange.verdict = .failed [2] ∧
          sketch.CrossChecks true [3] exchange := by
  intro sketch reply
  have numbered : sketch.Numbered :=
    @Reached.numbered _ .all
      ⟨0, .standard, .silent, pinnedRequests, fun request _ => request.within_all, rfl⟩
  have seen : (match ((Session.exchange ⟨true, true⟩ reply).outcome sketch).1 with
      | .ok ⟨.failed ids, _, _, calls⟩ => some (ids, calls.toList.any SolverCall.isSolve)
      | _ => none) = some ([2], true) := by
    decide +kernel
  rcases ended : (Session.exchange ⟨true, true⟩ reply).outcome sketch with ⟨fault | exchange, after⟩
  · rw [ended] at seen
    cases seen
  · rw [ended] at seen
    have checked := exchange_crossChecks numbered ended
    obtain ⟨verdict | ids, freedom, unsupported, calls⟩ := exchange
    · cases seen
    · obtain ⟨rfl, solves⟩ := Prod.mk.inj (Option.some.inj seen)
      obtain ⟨call, among, isSolve⟩ := List.any_eq_true.mp solves
      have asked : .solve ∈ calls := by
        rw [← SolverCall.eq_solve isSolve]
        exact Array.mem_toList_iff.mp among
      exact ⟨numbered, _, after, rfl, asked, rfl, checked⟩

end Sketch

end Drafting
