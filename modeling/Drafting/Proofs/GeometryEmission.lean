import Drafting.Proofs.FailureAttribution

/-!
# Depicting geometry

A cross-check depicts a sketch to the other solver by entities. Whoever is the first to refer to the
point over two slots has it placed, and everyone else who does so refers to the same entity. A
registered line or circle is drawn once, under its identifier.

The calls that place points come between the others whenever a point is met for the first time, so
the two are told apart: those that place points are spelled out by the points, in order of creation,
and the others by what they depict, in order of emission.
-/

namespace Drafting

namespace SolverCall

/-- Whether a call creates a point or keeps one in place. -/
def places : SolverCall → Bool
  | point .. | drag _ => true
  | _ => false

/-- The entity that a call creates. -/
def created? : SolverCall → Option Nat
  | point _ _ entity | line _ _ entity | normal entity | circle _ _ _ entity => some entity
  | _ => none

/-- The entities that a call refers to. -/
def refersTo : SolverCall → List Nat
  | point .. | normal _ | solve => []
  | drag entity | diameter entity _ => [entity]
  | line first second _ | circle first second _ _ | coincident first second
  | distance first second _ | parallel first second | perpendicular first second
  | angle first second _ | lengthDifference first second _ => [first, second]

end SolverCall

/-- Calls that number the entities they create on from those that there are, and refer to entities
that were created before. -/
inductive Creates : Nat → List SolverCall → Nat → Prop
  | nil {count : Nat} : Creates count [] count
  | entity {count last : Nat} {call : SolverCall} {calls : List SolverCall}
      (refers : ∀ entity ∈ call.refersTo, 0 < entity ∧ entity ≤ count)
      (created : call.created? = some (count + 1)) (others : Creates (count + 1) calls last) :
      Creates count (call :: calls) last
  | other {count last : Nat} {call : SolverCall} {calls : List SolverCall}
      (refers : ∀ entity ∈ call.refersTo, 0 < entity ∧ entity ≤ count)
      (created : call.created? = none) (others : Creates count calls last) :
      Creates count (call :: calls) last

/-- What creates entities, and what does so after it. -/
theorem Creates.append {start middle last : Nat} {calls later : List SolverCall}
    (first : Creates start calls middle) (second : Creates middle later last) :
    Creates start (calls ++ later) last := by
  induction first with
  | nil => exact second
  | entity refers created _ ih => exact .entity refers created (ih second)
  | other refers created _ ih => exact .other refers created (ih second)

/-- Calls that are spelled out by some members, each by calls of its own. -/
inductive SpelledOut (spells : α → List SolverCall → Prop) : List α → List SolverCall → Prop
  | nil : SpelledOut spells [] []
  | cons {member : α} {rest : List α} {own later : List SolverCall} (first : spells member own)
      (others : SpelledOut spells rest later) : SpelledOut spells (member :: rest) (own ++ later)

namespace SpelledOut

variable {spells : α → List SolverCall → Prop} {members rest : List α}
  {calls later : List SolverCall}

/-- One member spells out its own calls. -/
theorem single {member : α} (first : spells member calls) : SpelledOut spells [member] calls := by
  have spelled := cons first nil
  rwa [List.append_nil] at spelled

/-- What some members spell out, and others after them. -/
theorem append (first : SpelledOut spells members calls) (second : SpelledOut spells rest later) :
    SpelledOut spells (members ++ rest) (calls ++ later) := by
  induction first with
  | nil => exact second
  | cons own _ ih =>
    rw [List.append_assoc]
    exact cons own ih

/-- What is spelled out in one way is so in a weaker one. -/
theorem mono {weaker : α → List SolverCall → Prop} (spelled : SpelledOut spells members calls)
    (weakens : ∀ member own, spells member own → weaker member own) :
    SpelledOut weaker members calls := by
  induction spelled with
  | nil => exact nil
  | cons own _ ih => exact cons (weakens _ _ own) ih

end SpelledOut

namespace Figure

/-- The two slots of a point. -/
def pair? : Figure → Option (Int × Int)
  | point x y => some (x, y)
  | _ => none

/-- The slots of the points that a point, a line or a circle consists of. -/
def pairs : Figure → List (Int × Int)
  | point x y => [(x, y)]
  | line start finish => start.figure.pair?.toList ++ finish.figure.pair?.toList
  | circle center _ => center.figure.pair?.toList
  | _ => []

/-- Whether a figure has an entity of its own besides those of points. -/
def isDrawn : Figure → Bool
  | line .. | circle .. => true
  | _ => false

end Figure

namespace View

/-- The two slots of a point. -/
def pair? (view : View) : Option (Int × Int) := view.figure.pair?

/-- The slots of the points that a view consists of. -/
def pairs (view : View) : List (Int × Int) := view.figure.pairs

/-- Whether a view has an entity of its own besides those of points. -/
def isDrawn (view : View) : Bool := view.figure.isDrawn

end View

/-- Points by their slots, each with its entity. -/
abbrev PointEntities := List ((Int × Int) × Nat)

/-- The point that a view is has an entity. -/
def Marks (points : PointEntities) (view : View) (entity : Nat) : Prop :=
  ∃ x y, view.figure = .point x y ∧ ((x, y), entity) ∈ points

/-- The calls that place a point: it is created with the values of its slots, and kept in place if
this is asked for and both slots are fixed. -/
inductive Places (store : Store) (dragFixed : Bool) : (Int × Int) × Nat → List SolverCall → Prop
  | intro {x y : Int} {entity : Nat} {first second : Float} {across up : Bool}
      (firstValue : store.valueAt x = .ok first) (secondValue : store.valueAt y = .ok second)
      (acrossFixed : store.fixedAt x = .ok across) (upFixed : store.fixedAt y = .ok up) :
      Places store dragFixed ((x, y), entity)
        (.point first second entity :: if dragFixed && across && up then [.drag entity] else [])

/-- The calls that draw a registered line or circle over points that have entities. A circle lies in
a plane of its own, and its diameter is given if its radius is fixed. -/
inductive Renders (store : Store) (points : PointEntities) :
    GeometryEntry × Nat → List SolverCall → Prop
  | line {entry : GeometryEntry} {start finish : View} {first second entity : Nat}
      (figure : entry.view.figure = .line start finish) (starts : Marks points start first)
      (finishes : Marks points finish second) :
      Renders store points (entry, entity) [.line first second entity]
  | circle {entry : GeometryEntry} {center : View} {radius : Int} {normal middle entity : Nat}
      {value : Float} {fixed : Bool} (figure : entry.view.figure = .circle center radius)
      (centers : Marks points center middle) (radiusValue : store.valueAt radius = .ok value)
      (radiusFixed : store.fixedAt radius = .ok fixed) :
      Renders store points (entry, entity)
        (.normal normal :: .circle normal middle value entity ::
          if fixed then [.diameter entity (2.0 * value)] else [])

/-- A point keeps its entity where more points have one. -/
theorem Marks.mono {points more : PointEntities} (kept : points ⊆ more) {view : View} {entity : Nat}
    (marks : Marks points view entity) : Marks more view entity := by
  obtain ⟨x, y, figure, there⟩ := marks
  exact ⟨x, y, figure, kept there⟩

/-- What is drawn stays drawn where more points have an entity. -/
theorem Renders.mono {store : Store} {points more : PointEntities} (kept : points ⊆ more)
    {drawn : GeometryEntry × Nat} {calls : List SolverCall}
    (renders : Renders store points drawn calls) : Renders store more drawn calls := by
  cases renders with
  | line figure starts finishes => exact .line figure (starts.mono kept) (finishes.mono kept)
  | circle figure centers value fixed => exact .circle figure (centers.mono kept) value fixed

namespace Emission

/-- An entity that has been created. -/
def Knows (emission : Emission) (entity : Nat) : Prop := 0 < entity ∧ entity ≤ emission.entities

/-- The state of an emission fits the calls that have been made: they number their entities, and
those that place points are spelled out by the points, of which no two share slots or an entity. -/
structure Sound (store : Store) (dragFixed : Bool) (emission : Emission) : Prop where
  pairs : (emission.points.map (·.1)).Nodup
  apart : (emission.points.map (·.2)).Nodup
  placed : SpelledOut (Places store dragFixed) emission.points.reverse
    (emission.calls.toList.filter (·.places))
  creates : Creates 0 emission.calls.toList emission.entities
  points : ∀ entry ∈ emission.points, emission.Knows entry.2
  figures : ∀ entry ∈ emission.figures, emission.Knows entry.2

/-- A sound emission leads to another by placing the points that are asked for, as far as they are
not there yet, by making other calls, and by keeping entities for geometry. -/
structure Step (store : Store) (dragFixed : Bool) (before : Emission) (asked : List (Int × Int))
    (others : List SolverCall) (keyed : List (Nat × Nat)) (after : Emission) : Prop where
  sound : after.Sound store dragFixed
  pairs : ∀ pair, pair ∈ after.points.map (·.1) ↔ pair ∈ before.points.map (·.1) ∨ pair ∈ asked
  kept : before.points ⊆ after.points
  entities : before.entities ≤ after.entities
  calls : after.calls.toList.filter (!·.places) =
    before.calls.toList.filter (!·.places) ++ others
  figures : after.figures = keyed.reverse ++ before.figures

variable {store : Store} {dragFixed : Bool} {before middle after : Emission}
  {asked more : List (Int × Int)} {others later : List SolverCall} {keyed rest : List (Nat × Nat)}

/-- Nothing is emitted soundly. -/
theorem sound_empty : empty.Sound store dragFixed where
  pairs := .nil
  apart := .nil
  placed := .nil
  creates := .nil
  points := List.forall_mem_nil _
  figures := List.forall_mem_nil _

/-- A known entity stays known. -/
theorem Knows.mono {entity : Nat} (knows : before.Knows entity)
    (grows : before.entities ≤ after.entities) : after.Knows entity :=
  ⟨knows.1, Nat.le_trans knows.2 grows⟩

/-- The entity of a point is known. -/
theorem Sound.knows_of_marks (sound : before.Sound store dragFixed) {view : View} {entity : Nat}
    (marks : Marks before.points view entity) : before.Knows entity := by
  obtain ⟨x, y, -, there⟩ := marks
  exact sound.points _ there

namespace Step

/-- A sound emission leads to itself. -/
theorem refl (sound : before.Sound store dragFixed) :
    Step store dragFixed before [] [] [] before where
  sound := sound
  pairs _ := (or_iff_left List.not_mem_nil).symm
  kept := List.Subset.refl _
  entities := Nat.le_refl _
  calls := (List.append_nil _).symm
  figures := rfl

/-- One step and another after it. -/
theorem append (first : Step store dragFixed before asked others keyed middle)
    (second : Step store dragFixed middle more later rest after) :
    Step store dragFixed before (asked ++ more) (others ++ later) (keyed ++ rest) after where
  sound := second.sound
  pairs pair := by rw [second.pairs, first.pairs, List.mem_append, or_assoc]
  kept := List.Subset.trans first.kept second.kept
  entities := Nat.le_trans first.entities second.entities
  calls := by rw [second.calls, first.calls, List.append_assoc]
  figures := by rw [second.figures, first.figures, List.reverse_append, List.append_assoc]

/-- The geometries that entities are kept for. -/
theorem mem_keys (step : Step store dragFixed before asked others keyed after) {id : Nat} :
    id ∈ after.figures.map (·.1) ↔ id ∈ keyed.map (·.1) ∨ id ∈ before.figures.map (·.1) := by
  rw [step.figures, List.map_append, List.mem_append, List.map_reverse, List.mem_reverse]

/-- Points that are there may be asked for as well. -/
theorem asking (step : Step store dragFixed before [] others keyed after)
    (there : ∀ pair ∈ asked, pair ∈ after.points.map (·.1)) :
    Step store dragFixed before asked others keyed after where
  sound := step.sound
  pairs pair := by
    constructor
    · exact fun known => .inl ((step.pairs pair).mp known |>.resolve_right List.not_mem_nil)
    · rintro (known | wanted)
      · exact (step.pairs pair).mpr (.inl known)
      · exact there pair wanted
  kept := step.kept
  entities := step.entities
  calls := step.calls
  figures := step.figures

/-- A call that places no point, and refers to known entities. -/
theorem of_call {call : SolverCall} (sound : before.Sound store dragFixed)
    (places : call.places = false) (refers : ∀ entity ∈ call.refersTo, before.Knows entity)
    (created : call.created? = none ∧ after.entities = before.entities ∨
      call.created? = some (before.entities + 1) ∧ after.entities = before.entities + 1)
    (calls : after.calls = before.calls.push call) (points : after.points = before.points)
    (figures : after.figures = before.figures) :
    Step store dragFixed before [] [call] [] after := by
  have grows : before.entities ≤ after.entities := by omega
  have creates : Creates before.entities [call] after.entities := by
    rcases created with ⟨nothing, same⟩ | ⟨next, counted⟩
    · rw [same]
      exact .other refers nothing .nil
    · rw [counted]
      exact .entity refers next .nil
  have sorted : [call].filter (·.places) = [] ∧ [call].filter (!·.places) = [call] := by
    rw [List.filter_singleton, List.filter_singleton, places]
    exact ⟨rfl, rfl⟩
  exact {
    sound := {
      pairs := points ▸ sound.pairs
      apart := points ▸ sound.apart
      placed := by
        rw [points, calls, Array.toList_push, List.filter_append, sorted.1, List.append_nil]
        exact sound.placed
      creates := by
        rw [calls, Array.toList_push]
        exact sound.creates.append creates
      points := points ▸ fun entry there => (sound.points entry there).mono grows
      figures := figures ▸ fun entry there => (sound.figures entry there).mono grows }
    pairs := fun pair => by rw [points, or_iff_left List.not_mem_nil]
    kept := points ▸ List.Subset.refl _
    entities := grows
    calls := by rw [calls, Array.toList_push, List.filter_append, sorted.2]
    figures }

/-- The calls that place a point which is not there yet. -/
theorem of_place {x y : Int} {calls : List SolverCall} (sound : before.Sound store dragFixed)
    (new : (x, y) ∉ before.points.map (·.1))
    (places : Places store dragFixed ((x, y), before.entities + 1) calls)
    (made : after.calls.toList = before.calls.toList ++ calls)
    (counted : after.entities = before.entities + 1)
    (points : after.points = ((x, y), before.entities + 1) :: before.points)
    (figures : after.figures = before.figures) :
    Step store dragFixed before [(x, y)] [] [] after := by
  have grows : before.entities ≤ after.entities := counted ▸ Nat.le_succ _
  have knows : after.Knows (before.entities + 1) := ⟨Nat.succ_pos _, Nat.le_of_eq counted.symm⟩
  have creates : Creates before.entities calls after.entities := by
    rw [counted]
    cases places
    refine .entity (List.forall_mem_nil _) rfl ?_
    split
    · refine .other ?_ rfl .nil
      exact List.forall_mem_singleton.mpr ⟨Nat.succ_pos _, Nat.le_refl _⟩
    · exact .nil
  have sorted : calls.filter (·.places) = calls ∧ calls.filter (!·.places) = [] := by
    cases places
    split <;> exact ⟨rfl, rfl⟩
  have unused : before.entities + 1 ∉ before.points.map (·.2) := by
    intro there
    obtain ⟨entry, among, same⟩ := List.mem_map.mp there
    exact Nat.not_succ_le_self _ (same ▸ (sound.points entry among).2)
  exact {
    sound := {
      pairs := by
        rw [points, List.map_cons]
        exact sound.pairs.cons new
      apart := by
        rw [points, List.map_cons]
        exact sound.apart.cons unused
      placed := by
        rw [points, made, List.reverse_cons, List.filter_append, sorted.1]
        exact sound.placed.append (.single places)
      creates := by
        rw [made]
        exact sound.creates.append creates
      points := by
        rw [points]
        exact List.forall_mem_cons.mpr
          ⟨knows, fun entry there => (sound.points entry there).mono grows⟩
      figures := figures ▸ fun entry there => (sound.figures entry there).mono grows }
    pairs := fun pair => by
      rw [points, List.map_cons, List.mem_cons, List.mem_singleton, or_comm]
    kept := points ▸ List.subset_cons_self _ _
    entities := grows
    calls := by rw [made, List.filter_append, sorted.2]
    figures }

/-- A known entity may be kept for a geometry. -/
theorem keep (step : Step store dragFixed before asked others keyed after) {entity : Nat}
    (knows : after.Knows entity) (id : Nat) :
    Step store dragFixed before asked others (keyed ++ [(id, entity)])
      { after with figures := (id, entity) :: after.figures } where
  sound := { step.sound with
    figures := List.forall_mem_cons.mpr ⟨knows, step.sound.figures⟩ }
  pairs := step.pairs
  kept := step.kept
  entities := step.entities
  calls := step.calls
  figures := by
    rw [step.figures, List.reverse_append]
    rfl

end Step

end Emission

namespace Emitting

open Emission

variable {store : Store} {dragFixed : Bool} {before after : Emission} {entity : Nat}

/-- An action that starts with a look at the emission. -/
theorem run_get_bind {next : Emission → Emitting α} :
    (get >>= next).run before = (next before).run before := rfl

/-- An action whose answer does not matter. -/
theorem run_discard_eq_ok {action : Emitting α} :
    (discard action).run before = .ok ((), after) ↔
      ∃ answer, action.run before = .ok (answer, after) := by
  show (action >>= fun _ => pure ()).run before = _ ↔ _
  rw [run_bind_eq_ok]
  constructor
  · rintro ⟨answer, last, ran, ended⟩
    cases ended
    exact ⟨answer, ran⟩
  · rintro ⟨answer, ran⟩
    exact ⟨answer, after, ran, rfl⟩

/-- A point is asked for: it is there, or it is placed. -/
theorem point_step {x y : Int} (sound : before.Sound store dragFixed)
    (run : (point store dragFixed x y).run before = .ok (entity, after)) :
    ((x, y), entity) ∈ after.points ∧ Step store dragFixed before [(x, y)] [] [] after := by
  unfold point at run
  rw [run_get_bind] at run
  split at run
  case h_1 found =>
    cases run
    have there := listed_of_lookup found
    exact ⟨there, (Step.refl sound).asking
      (List.forall_mem_singleton.mpr (List.mem_map_of_mem there))⟩
  case h_2 missed =>
    obtain ⟨first, _, read, run⟩ := run_bind_eq_ok.mp run
    obtain ⟨firstValue, rfl⟩ := run_liftM_eq_ok.mp read
    obtain ⟨second, _, read, run⟩ := run_bind_eq_ok.mp run
    obtain ⟨secondValue, rfl⟩ := run_liftM_eq_ok.mp read
    obtain ⟨next, created, creation, run⟩ := run_bind_eq_ok.mp run
    cases creation
    -- The flags are read even where points are not to be held.
    obtain ⟨across, _, read, run⟩ := run_bind_eq_ok.mp run
    obtain ⟨acrossFixed, rfl⟩ := run_liftM_eq_ok.mp read
    obtain ⟨up, _, read, run⟩ := run_bind_eq_ok.mp run
    obtain ⟨upFixed, rfl⟩ := run_liftM_eq_ok.mp read
    have places := @Places.intro _ dragFixed _ _ (before.entities + 1) _ _ _ _ firstValue
      secondValue acrossFixed upFixed
    dsimp only at run
    split at run
    case isTrue holds =>
      rw [if_pos holds] at places
      cases run
      refine ⟨List.mem_cons_self, .of_place sound (unlisted_of_lookup missed) places ?_ rfl
        rfl rfl⟩
      simp
    case isFalse free =>
      rw [if_neg free] at places
      cases run
      refine ⟨List.mem_cons_self, .of_place sound (unlisted_of_lookup missed) places ?_ rfl
        rfl rfl⟩
      simp

/-- So is the point that other geometry refers to. -/
theorem endPoint_step {view : View} (sound : before.Sound store dragFixed)
    (run : (endPoint store dragFixed view).run before = .ok (entity, after)) :
    Marks after.points view entity ∧
      Step store dragFixed before view.pair?.toList [] [] after := by
  unfold endPoint at run
  split at run
  case h_1 x y figure =>
    obtain ⟨there, step⟩ := point_step sound run
    rw [View.pair?, figure]
    exact ⟨⟨x, y, figure, there⟩, step⟩
  case h_2 => cases run

/-- A call that creates an entity other than a point. -/
theorem create_step {call : Nat → SolverCall} (sound : before.Sound store dragFixed)
    (run : (create call).run before = .ok (entity, after))
    (places : ∀ entity, (call entity).places = false)
    (created : ∀ entity, (call entity).created? = some entity)
    (refers : ∀ entity ∈ (call (before.entities + 1)).refersTo, before.Knows entity) :
    after.Knows entity ∧ Step store dragFixed before [] [call entity] [] after := by
  cases run
  exact ⟨⟨Nat.succ_pos _, Nat.le_refl _⟩,
    .of_call sound (places _) refers (.inr ⟨created _, rfl⟩) rfl rfl rfl⟩

/-- A call that creates no entity. -/
theorem emit_step {call : SolverCall} (sound : before.Sound store dragFixed)
    (run : (emit call).run before = .ok ((), after))
    (places : call.places = false) (created : call.created? = none)
    (refers : ∀ entity ∈ call.refersTo, before.Knows entity) :
    Step store dragFixed before [] [call] [] after := by
  cases run
  exact .of_call sound places refers (.inl ⟨created, rfl⟩) rfl rfl rfl

/-- To count a constraint changes nothing that has an entity. -/
theorem countConstraint_step (sound : before.Sound store dragFixed)
    (run : countConstraint.run before = .ok ((), after)) :
    Step store dragFixed before [] [] [] after := by
  cases run
  exact { Step.refl sound with sound := { sound with } }

/-- A line is drawn over its points. -/
theorem line_step {start finish : View} (sound : before.Sound store dragFixed)
    (run : (line store dragFixed start finish).run before = .ok (entity, after)) :
    ∃ first second, Marks after.points start first ∧ Marks after.points finish second ∧
      after.Knows entity ∧
      Step store dragFixed before (start.pair?.toList ++ finish.pair?.toList)
        [.line first second entity] [] after := by
  unfold line at run
  obtain ⟨first, middle, ran, run⟩ := run_bind_eq_ok.mp run
  obtain ⟨starts, toStart⟩ := endPoint_step sound ran
  obtain ⟨second, last, ran, run⟩ := run_bind_eq_ok.mp run
  obtain ⟨finishes, toFinish⟩ := endPoint_step toStart.sound ran
  have starts := starts.mono toFinish.kept
  have refers : ∀ entity ∈ [first, second], last.Knows entity :=
    List.forall_mem_cons.mpr ⟨toFinish.sound.knows_of_marks starts,
      List.forall_mem_singleton.mpr (toFinish.sound.knows_of_marks finishes)⟩
  obtain ⟨knows, drawn⟩ :=
    create_step toFinish.sound run (fun _ => rfl) (fun _ => rfl) refers
  have all := (toStart.append toFinish).append drawn
  rw [List.append_nil] at all
  exact ⟨first, second, starts.mono drawn.kept, finishes.mono drawn.kept, knows, all⟩

/-- A circle is drawn around its center. -/
theorem circle_step {center : View} {radius : Int} (sound : before.Sound store dragFixed)
    (run : (circle store dragFixed center radius).run before = .ok (entity, after)) :
    ∃ normal middle value fixed, Marks after.points center middle ∧
      store.valueAt radius = .ok value ∧ store.fixedAt radius = .ok fixed ∧ after.Knows entity ∧
      Step store dragFixed before center.pair?.toList
        (.normal normal :: .circle normal middle value entity ::
          if fixed then [.diameter entity (2.0 * value)] else []) [] after := by
  unfold circle at run
  obtain ⟨value, _, read, run⟩ := run_bind_eq_ok.mp run
  obtain ⟨radiusValue, rfl⟩ := run_liftM_eq_ok.mp read
  obtain ⟨normal, flat, ran, run⟩ := run_bind_eq_ok.mp run
  obtain ⟨plane, toPlane⟩ :=
    create_step sound ran (fun _ => rfl) (fun _ => rfl) (List.forall_mem_nil _)
  obtain ⟨middle, placed, ran, run⟩ := run_bind_eq_ok.mp run
  obtain ⟨centers, toCenter⟩ := endPoint_step toPlane.sound ran
  obtain ⟨_, round, ran, run⟩ := run_bind_eq_ok.mp run
  have refers : ∀ entity ∈ [normal, middle], placed.Knows entity :=
    List.forall_mem_cons.mpr ⟨plane.mono toCenter.entities,
      List.forall_mem_singleton.mpr (toCenter.sound.knows_of_marks centers)⟩
  obtain ⟨knows, toRound⟩ :=
    create_step toCenter.sound ran (fun _ => rfl) (fun _ => rfl) refers
  have drawn := (toPlane.append toCenter).append toRound
  rw [List.nil_append, List.append_nil] at drawn
  obtain ⟨fixed, _, read, run⟩ := run_bind_eq_ok.mp run
  obtain ⟨radiusFixed, rfl⟩ := run_liftM_eq_ok.mp read
  have centers := centers.mono toRound.kept
  dsimp only at run
  split at run
  case isTrue holds =>
    obtain ⟨_, given, ran, run⟩ := run_bind_eq_ok.mp run
    obtain ⟨_, counted, count, run⟩ := run_bind_eq_ok.mp run
    cases run
    have toDiameter :=
      emit_step drawn.sound ran rfl rfl (List.forall_mem_singleton.mpr knows)
    have toCounted := countConstraint_step toDiameter.sound count
    have all := (drawn.append toDiameter).append toCounted
    rw [List.append_nil, List.append_nil] at all
    have later := toDiameter.append toCounted
    refine ⟨normal, middle, value, fixed, centers.mono later.kept, radiusValue, radiusFixed,
      knows.mono later.entities, ?_⟩
    rw [if_pos holds]
    exact all
  case isFalse free =>
    cases run
    refine ⟨normal, middle, value, fixed, centers, radiusValue, radiusFixed, knows, ?_⟩
    rw [if_neg free]
    exact drawn

/-- A geometry that has an entity is not emitted again. -/
theorem once_known {id : Nat} {creation : Emitting Nat} {known : Nat}
    (found : before.figures.lookup id = some known)
    (run : (once id creation).run before = .ok (entity, after)) :
    entity = known ∧ after = before := by
  unfold once at run
  rw [run_get_bind, found] at run
  cases run
  exact ⟨rfl, rfl⟩

/-- A geometry that has no entity keeps the one that is created. -/
theorem once_new {id : Nat} {creation : Emitting Nat}
    (new : id ∉ before.figures.map (·.1))
    (run : (once id creation).run before = .ok (entity, after)) :
    ∃ created, creation.run before = .ok (entity, created) ∧
      after = { created with figures := (id, entity) :: created.figures } := by
  unfold once at run
  rw [run_get_bind] at run
  split at run
  case h_1 found => exact absurd (List.mem_map_of_mem (listed_of_lookup found)) new
  case h_2 =>
    obtain ⟨given, created, ran, run⟩ := run_bind_eq_ok.mp run
    cases run
    exact ⟨created, ran, rfl⟩

/-- The identifier that an entity is kept under. -/
def keyOf (drawn : GeometryEntry × Nat) : Nat × Nat := (drawn.1.id, drawn.2)

/-- A registered geometry has its points placed, and is drawn if it is a line or a circle. -/
theorem geometry_step {entry : GeometryEntry} (sound : before.Sound store dragFixed)
    (new : entry.id ∉ before.figures.map (·.1))
    (run : (geometry store dragFixed entry).run before = .ok ((), after)) :
    ∃ drawn calls, drawn.map (·.1) = [entry].filter (·.view.isDrawn) ∧
      SpelledOut (Renders store after.points) drawn calls ∧
      Step store dragFixed before entry.view.pairs calls (drawn.map keyOf) after := by
  unfold geometry at run
  split at run
  case h_1 x y figure =>
    obtain ⟨entity, ran⟩ := run_discard_eq_ok.mp run
    rw [List.filter_singleton, View.isDrawn, View.pairs, figure]
    exact ⟨[], [], rfl, .nil, (point_step sound ran).2⟩
  case h_2 start finish figure =>
    obtain ⟨entity, kept⟩ := run_discard_eq_ok.mp run
    obtain ⟨created, ran, rfl⟩ := once_new new kept
    obtain ⟨first, second, starts, finishes, knows, step⟩ := line_step sound ran
    rw [List.filter_singleton, View.isDrawn, View.pairs, figure]
    exact ⟨[(entry, entity)], _, rfl, .single (.line figure starts finishes),
      step.keep knows entry.id⟩
  case h_3 center radius figure =>
    obtain ⟨entity, kept⟩ := run_discard_eq_ok.mp run
    obtain ⟨created, ran, rfl⟩ := once_new new kept
    obtain ⟨normal, middle, value, fixed, centers, radiusValue, radiusFixed, knows, step⟩ :=
      circle_step sound ran
    rw [List.filter_singleton, View.isDrawn, View.pairs, figure]
    exact ⟨[(entry, entity)], _, rfl,
      .single (.circle figure centers radiusValue radiusFixed), step.keep knows entry.id⟩
  case h_4 noPoint noLine noCircle =>
    cases run
    have nothing : entry.view.figure.isDrawn = false ∧ entry.view.figure.pairs = [] := by
      cases figure : entry.view.figure with
      | point => exact absurd figure (noPoint _ _)
      | line => exact absurd figure (noLine _ _)
      | circle => exact absurd figure (noCircle _ _)
      | _ => exact ⟨rfl, rfl⟩
    rw [List.filter_singleton, View.isDrawn, View.pairs, nothing.1, nothing.2]
    exact ⟨[], [], rfl, .nil, .refl sound⟩

/-- Registered geometries with identifiers of their own have their points placed, and the lines and
circles among them are drawn one after the other. -/
theorem geometries_step {entries : List GeometryEntry} (sound : before.Sound store dragFixed)
    (ascend : entries.Pairwise (·.id < ·.id))
    (new : ∀ entry ∈ entries, entry.id ∉ before.figures.map (·.1))
    (run : (entries.forM (geometry store dragFixed)).run before = .ok ((), after)) :
    ∃ drawn calls, drawn.map (·.1) = entries.filter (·.view.isDrawn) ∧
      SpelledOut (Renders store after.points) drawn calls ∧
      Step store dragFixed before (entries.flatMap (·.view.pairs)) calls (drawn.map keyOf)
        after := by
  induction ascend generalizing before with
  | nil =>
    cases run
    exact ⟨[], [], rfl, .nil, .refl sound⟩
  | @cons entry rest least _ ih =>
    obtain ⟨_, middle, ran, continued⟩ := run_bind_eq_ok.mp run
    obtain ⟨drawn, calls, listed, spelled, step⟩ :=
      geometry_step sound (new entry List.mem_cons_self) ran
    have keys : (drawn.map keyOf).map (·.1) = ([entry].filter (·.view.isDrawn)).map (·.id) := by
      rw [← listed, List.map_map, List.map_map]
      rfl
    -- The identifiers ascend, so nothing is kept yet for the geometries still to come.
    have newLater : ∀ other ∈ rest, other.id ∉ middle.figures.map (·.1) := by
      intro other among there
      rcases step.mem_keys.mp there with own | before
      · rw [keys] at own
        obtain ⟨same, here, equal⟩ := List.mem_map.mp own
        rw [List.mem_singleton.mp (List.mem_of_mem_filter here)] at equal
        exact Nat.ne_of_lt (least other among) equal
      · exact new other (List.mem_cons_of_mem _ among) before
    obtain ⟨drawnLater, callsLater, listedLater, spelledLater, stepLater⟩ :=
      ih step.sound newLater continued
    refine ⟨drawn ++ drawnLater, calls ++ callsLater, ?_, ?_, ?_⟩
    · rw [List.map_append, listed, listedLater, ← List.filter_append, List.singleton_append]
    · exact (spelled.mono fun _ _ renders => renders.mono stepLater.kept).append spelledLater
    · rw [List.map_append, List.flatMap_cons]
      exact step.append stepLater

end Emitting

end Drafting
