import Drafting.Proofs.Belonging
import Drafting.Proofs.Handling

/-!
# Two sketches that share views

Requests to two sessions come in any order, and any of them may be handed views that were saved from
either session, at any time, or that were bound nowhere. The store of a session keeps its identity,
and its generation counts how often the session was cleared. So a view belongs to the session that
it was saved from, until that is cleared, and to the other one never.
-/

namespace Drafting

/-- One of two sessions. -/
inductive Side where
  | left
  | right
deriving DecidableEq

/-- The sketches of two sessions. -/
abbrev Desk := Side → Sketch

namespace Desk

/-- Two new sketches. -/
def start (identity : Side → Nat) (options : Side → SolveOptions) (journal : Side → Journal) :
    Desk :=
  fun side => .start (identity side) (options side) (journal side)

/-- The sketches after a request to one of the sessions. -/
def ask (desk : Desk) (step : Side × Request) : Desk :=
  Function.update desk step.1 ((desk step.1).after step.2)

/-- The sketches after requests to the sessions, one after the other. -/
def askAll (desk : Desk) (steps : List (Side × Request)) : Desk := steps.foldl ask desk

/-- The requests to one of the sessions, in order. -/
def asked (side : Side) (steps : List (Side × Request)) : List Request :=
  (steps.filter (·.1 = side)).map (·.2)

/-- What is requested of a session is among the steps. -/
theorem mem_asked {side : Side} {steps : List (Side × Request)} {request : Request} :
    request ∈ asked side steps ↔ (side, request) ∈ steps := by
  simp [asked]

/-- A session sees only what is requested of it. -/
theorem askAll_apply (desk : Desk) (steps : List (Side × Request)) (side : Side) :
    desk.askAll steps side = (desk side).afterAll (asked side steps) := by
  induction steps generalizing desk with
  | nil => rfl
  | cons step rest ih =>
    show askAll (desk.ask step) rest side = _
    rw [ih]
    by_cases here : step.1 = side
    · subst here
      have mine : asked step.1 (step :: rest) = step.2 :: asked step.1 rest := by simp [asked]
      rw [mine, show desk.ask step step.1 = (desk step.1).after step.2 from
        Function.update_self ..]
      rfl
    · have others : asked side (step :: rest) = asked side rest := by simp [asked, here]
      rw [others, show desk.ask step side = desk side from
        Function.update_of_ne (Ne.symm here) ..]

/-- A session keeps its store. -/
theorem identity_askAll (identity : Side → Nat) (options : Side → SolveOptions)
    (journal : Side → Journal) (steps : List (Side × Request)) (side : Side) :
    ((start identity options journal).askAll steps side).store.identity = identity side := by
  rw [askAll_apply]
  obtain ⟨begun, binding, -⟩ :=
    Sketch.binding_afterAll (start identity options journal side) (asked side steps)
  exact congrArg Binding.store binding

/-- Whatever two sessions are asked, in any order and with any views among the operands, nothing
from elsewhere enters either of them: what is registered or referred to in a session belongs to it.
A request that is handed a view from elsewhere is refused and changes nothing but the journal; if it
comes to look at the view, it is refused because of it. A view that was saved from a session belongs
there until that session is cleared, and belongs to no other session. -/
theorem nothing_from_elsewhere (identity : Side → Nat) (options : Side → SolveOptions)
    (journal : Side → Journal) (apart : identity .left ≠ identity .right)
    (steps : List (Side × Request)) (side : Side) :
    let sketch := (start identity options journal).askAll steps side
    sketch.Native ∧
      (∀ (request : Request) (before : List Value) (view : View) (after : List Value),
        request.operands = before ++ .view view :: after → ¬ view.Belongs sketch.store →
          ∃ fault journal,
            request.perform.outcome sketch = (.error fault, sketch.withJournal journal) ∧
            (request.Examines sketch before view → fault.category = .indexOutOfRange)) ∧
      ∀ earlier later other, steps = earlier ++ later →
        ∀ entry ∈ ((start identity options journal).askAll earlier other).table.entries,
          (entry.view.Belongs sketch.store ↔ other = side ∧ (side, .clear) ∉ later) := by
  intro sketch
  have native (steps : List (Side × Request)) (side : Side) :
      ((start identity options journal).askAll steps side).Native := by
    rw [askAll_apply]
    exact @Sketch.Reached.native _ .all
      ⟨_, _, _, _, fun request _ => request.within_all, rfl⟩
  refine ⟨native steps side, fun request before view after handed elsewhere =>
    Request.refused_elsewhere handed elsewhere, ?_⟩
  rintro earlier later other rfl entry there
  have bound := (native earlier other).bound entry there
  -- The session has begun some generations since the view was saved.
  have continued : sketch = ((start identity options journal).askAll earlier side).afterAll
      (asked side later) := by
    rw [← askAll_apply]
    exact congrFun (List.foldl_append ..) side
  obtain ⟨begun, binding, count⟩ := Sketch.binding_afterAll
    ((start identity options journal).askAll earlier side) (asked side later)
  rw [← continued] at binding
  rw [← mem_asked, ← count]
  constructor
  · intro belongs
    have same : ((start identity options journal).askAll earlier other).store.binding =
        sketch.store.binding := by
      rcases belongs entry.view List.mem_cons_self with bare | here
      · cases bare.symm.trans bound
      · exact Option.some.inj (bound.symm.trans here)
    rw [binding] at same
    have store := congrArg Binding.store same
    dsimp only [Store.binding] at store
    rw [identity_askAll, identity_askAll] at store
    obtain rfl : other = side := by
      cases other <;> cases side
      · rfl
      · exact absurd store apart
      · exact absurd store.symm apart
      · rfl
    have generation := congrArg Binding.generation same
    dsimp only [Store.binding] at generation
    exact ⟨rfl, by omega⟩
  · rintro ⟨rfl, rfl⟩
    exact (View.belongs_congr binding).mpr ((native earlier other).views entry there)

/-- Two stores. -/
def ordinal : Side → Nat
  | .left => 0
  | .right => 1

/-- A line between two points in the one session, two points in the other. -/
def sharing : List (Side × Request) :=
  [(.right, .addPoint (.float 0.0) (.float 0.0) (.bool false) (.int 0)),
    (.right, .addPoint (.float 1.0) (.float 0.0) (.bool false) (.int 0)),
    (.right, .addLine (.int 0) (.int 1) (.int 0)),
    (.left, .addPoint (.float 0.0) (.float 0.0) (.bool false) (.int 0)),
    (.left, .addPoint (.float 1.0) (.float 0.0) (.bool false) (.int 0))]

/-- The two sketches. -/
def shared : Desk := (start ordinal (fun _ => .standard) fun _ => .silent).askAll sharing

/-- The first point on the right. -/
def sharedPoint : View := ⟨.point 0 1, some ⟨1, 0⟩⟩

/-- The line on the right. -/
def sharedLine : View := ⟨.line sharedPoint ⟨.point 2 3, some ⟨1, 0⟩⟩, some ⟨1, 0⟩⟩

/-- A point of the right is refused as such on the left. -/
theorem nothing_from_elsewhere_shared :
    ordinal .left ≠ ordinal .right ∧
      ∃ fault journal, (Request.addConstraint (.text "p2p_coincident")
          [.int 0, .view sharedPoint] (.bool true) (.bool false) (.float 1.0)
          (.int 0)).perform.outcome (shared .left) =
        (.error fault, (shared .left).withJournal journal) ∧
      fault.category = .indexOutOfRange := by
  have apart : ordinal .left ≠ ordinal .right := by decide
  obtain ⟨-, turned, belongs⟩ := nothing_from_elsewhere ordinal (fun _ => .standard)
    (fun _ => .silent) apart sharing .left
  have registered : (shared .right).table.entries.map (·.view) =
      [sharedPoint, ⟨.point 2 3, some ⟨1, 0⟩⟩, sharedLine] := by decide +kernel
  obtain ⟨entry, there, view⟩ : ∃ entry ∈ (shared .right).table.entries,
      entry.view = sharedPoint := by
    rw [← List.mem_map, registered]
    exact List.mem_cons_self
  have elsewhere : ¬ sharedPoint.Belongs (shared .left).store := by
    rw [← view]
    intro here
    cases ((belongs sharing [] .right rfl entry there).mp here).1
  obtain ⟨fault, journal, refused, sort⟩ := turned (.addConstraint (.text "p2p_coincident")
    [.int 0, .view sharedPoint] (.bool true) (.bool false) (.float 1.0) (.int 0)) [.int 0]
    sharedPoint [] rfl elsewhere
  refine ⟨apart, fault, journal, refused, sort ⟨⟨_, rfl⟩, ?_⟩⟩
  exact ⟨_, .point, _, rfl, rfl, rfl, rfl, nofun⟩

/-- What is looked at before a view from elsewhere is refused first: a line that is taken for an
identifier, a place for a number, an operand in front of it that names nothing. -/
theorem elsewhere_unexamined :
    (¬ sharedPoint.Belongs (shared .left).store ∧ ¬ sharedLine.Belongs (shared .left).store) ∧
      (∃ fault, ((Request.addLine (.view sharedLine) (.int 0) (.int 0)).perform.outcome
        (shared .left)).1 = .error fault ∧ fault.category = .unresolvedReference) ∧
      (∃ fault, ((Request.addConstraint (.text "p2p_distance")
        [.int 0, .int 1, .view sharedPoint] (.bool true) (.bool false) (.float 1.0)
        (.int 0)).perform.outcome (shared .left)).1 = .error fault ∧
          fault.category = .invalidConstraint) ∧
      ∃ fault, ((Request.addConstraint (.text "p2p_coincident") [.int 9, .view sharedPoint]
        (.bool true) (.bool false) (.float 1.0) (.int 0)).perform.outcome (shared .left)).1 =
          .error fault ∧ fault.category = .unresolvedReference := by
  have left : (shared .left).store.binding = ⟨0, 0⟩ := by decide +kernel
  have elsewhere (view : View) (bound : view.binding = some ⟨1, 0⟩) :
      ¬ view.Belongs (shared .left).store := by
    intro belongs
    have here := belongs view List.mem_cons_self
    rw [bound, left] at here
    rcases here with impossible | impossible <;> cases impossible
  exact ⟨⟨elsewhere _ rfl, elsewhere _ rfl⟩, ⟨_, rfl, rfl⟩, ⟨_, rfl, rfl⟩, ⟨_, rfl, rfl⟩⟩

end Desk

end Drafting
