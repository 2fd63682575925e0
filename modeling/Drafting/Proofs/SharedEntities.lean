import Drafting.Proofs.ConstraintEmission

/-!
# Entities for a sketch

A cross-check makes one entity for each pair of slots that a point of the sketch is over, whether
the point is registered, an end of a line, the center of a circle or an operand, and refers to it
wherever the point takes part. It makes one for each registered line and circle, and gives back the
coordinates of each registered point as those of its own entity.
-/

namespace Drafting

/-- A constraint is given a number, or none, under its own identifier. -/
theorem Sorts.mem_handles {constraints told : List Constraint} {handles : List (Nat × Option Nat)}
    (sorts : Sorts constraints handles told) {handle : Nat × Option Nat}
    (there : handle ∈ handles) : ∃ c ∈ constraints, c.id = handle.1 := by
  induction sorts with
  | nil => cases there
  | soft _ _ ih =>
    obtain ⟨d, later, same⟩ := ih there
    exact ⟨d, List.mem_cons_of_mem _ later, same⟩
  | unsupported _ _ ih | told _ _ ih =>
    rcases List.mem_cons.mp there with rfl | among
    · exact ⟨_, List.mem_cons_self, rfl⟩
    · obtain ⟨d, later, same⟩ := ih among
      exact ⟨d, List.mem_cons_of_mem _ later, same⟩

/-- Every constraint is hard or not. -/
theorem Sorts.flagged {constraints told : List Constraint} {handles : List (Nat × Option Nat)}
    (sorts : Sorts constraints handles told) : ∀ c ∈ constraints, Answers c.isHard := by
  induction sorts with
  | nil => exact List.forall_mem_nil _
  | soft known _ ih | unsupported known _ ih | told known _ ih =>
    exact List.forall_mem_cons.mpr ⟨⟨_, known⟩, ih⟩

/-- Among constraints with ascending identifiers, those that are told are the hard ones that are not
listed without a number. -/
theorem Sorts.told_eq {constraints told : List Constraint} {handles : List (Nat × Option Nat)}
    (sorts : Sorts constraints handles told) (ascend : constraints.Pairwise (·.id < ·.id)) :
    told = (constraints.filter fun c => affirmed c.isHard).filter fun c =>
      !((handles.filter (·.2.isNone)).map (·.1)).contains c.id := by
  induction sorts with
  | nil => rfl
  | @soft c rest told handles isSoft _ ih =>
    have passed : ¬affirmed c.isHard := by
      rw [isSoft]
      exact Bool.false_ne_true
    rw [@List.filter_cons_of_neg Constraint _ c rest passed]
    exact ih ascend.of_cons
  | @unsupported c rest told handles isHard _ ih =>
    have kept : affirmed c.isHard := by
      rw [isHard]
      rfl
    rw [@List.filter_cons_of_pos Constraint _ c rest kept, ih ascend.of_cons,
      @List.filter_cons_of_pos _ _ (c.id, none) handles rfl, List.map_cons,
      List.filter_cons_of_neg (by simp)]
    refine List.filter_congr fun d there => ?_
    have differs : (d.id == c.id) = false := beq_false_of_ne
      (Nat.ne_of_gt (List.rel_of_pairwise_cons ascend (List.mem_of_mem_filter there)))
    rw [List.contains_cons, differs, Bool.false_or]
  | @told c number rest told handles isHard others ih =>
    have kept : affirmed c.isHard := by
      rw [isHard]
      rfl
    have unlisted : ¬((handles.filter (·.2.isNone)).map (·.1)).contains c.id := by
      rw [List.contains_iff_mem, List.mem_map]
      rintro ⟨handle, among, same⟩
      obtain ⟨d, later, equal⟩ := others.mem_handles (List.mem_of_mem_filter among)
      exact Nat.ne_of_lt (List.rel_of_pairwise_cons ascend later) (same.symm.trans equal.symm)
    rw [@List.filter_cons_of_pos Constraint _ c rest kept,
      @List.filter_cons_of_neg _ _ (c.id, some number) handles Bool.false_ne_true,
      List.filter_cons_of_pos (by simpa using unlisted), ← ih ascend.of_cons]

/-- What calls make of a sketch for another solver: points by their slots and registered lines and
circles, each with its entity. -/
structure Sketch.Portrayed (sketch : Sketch) (dragFixed : Bool) (told : List Constraint)
    (calls : List SolverCall) (points : PointEntities) (drawn : List (GeometryEntry × Nat)) :
    Prop where
  /-- Points that share both slots share one entity, and others do not. -/
  distinct : (points.map (·.1)).Nodup ∧ (points.map (·.2)).Nodup
  /-- The points are those of registered geometry and those that a constraint is told of. -/
  concerned : ∀ pair, pair ∈ points.map (·.1) ↔
    pair ∈ sketch.table.entries.flatMap (·.view.pairs) ∨ pair ∈ told.flatMap Constraint.pairs
  placed : SpelledOut (Places sketch.store dragFixed) points (calls.filter (·.places))
  registered : drawn.map (·.1) = sketch.table.entries.filter (·.view.isDrawn)
  others : ∃ drawing telling, calls.filter (!·.places) = drawing ++ telling ∧
    SpelledOut (Renders sketch.store points) drawn drawing ∧
    SpelledOut (Tells sketch points drawn) told telling
  /-- Every call but one that creates an entity refers to entities that were created before. -/
  creates : ∃ count, Creates 0 calls count

/-- The coordinates of a registered point are given back as those of its own entity: the solved
ones if there are any, and else those in the store, with which the entity was created. -/
inductive ReadsBack (store : Store) (reply : SolverReply) (points : PointEntities) :
    GeometryEntry → Nat × Float × Float → Prop
  | solved {entry : GeometryEntry} {x y : Int} {entity : Nat} {first second : Float}
      (figure : entry.view.figure = .point x y) (there : ((x, y), entity) ∈ points)
      (read : reply.coordinates.lookup entity = some (first, second)) :
      ReadsBack store reply points entry (entry.id, first, second)
  | unmoved {entry : GeometryEntry} {x y : Int} {entity : Nat} {first second : Float}
      (figure : entry.view.figure = .point x y) (there : ((x, y), entity) ∈ points)
      (unread : reply.coordinates.lookup entity = none) (firstValue : store.valueAt x = .ok first)
      (secondValue : store.valueAt y = .ok second) :
      ReadsBack store reply points entry (entry.id, first, second)

/-- What a cross-check makes of a sketch: its calls portray the sketch with the hard constraints
that it does not report as unsupported, and what it gives back of a solved sketch is the coordinates
of every registered point. -/
def Sketch.SharesEntities (sketch : Sketch) (dragFixed : Bool) (reply : SolverReply)
    (exchange : Exchange) : Prop :=
  ∃ hard calls points drawn, sketch.hard = .ok hard ∧
    sketch.Portrayed dragFixed (hard.filter fun c => !exchange.unsupported.contains c.id) calls
      points drawn ∧
    (exchange.calls.toList = calls ∨ exchange.calls.toList = calls ++ [.solve]) ∧
    ∀ coordinates, exchange.verdict = .solved coordinates →
      List.Forall₂ (ReadsBack sketch.store reply points)
        (sketch.table.entries.filter (·.view.pair?.isSome)) coordinates

namespace Sketch

open Emission Emitting

variable {sketch after : Sketch} {dragFixed : Bool} {emission : Emission}
  {handles : List (Nat × Option Nat)}

/-- Once all geometry is emitted, it is covered. -/
theorem covered_of_drawn {drawn : List (GeometryEntry × Nat)} {calls : List SolverCall}
    (ascend : sketch.table.entries.Pairwise (·.id < ·.id))
    (listed : drawn.map (·.1) = sketch.table.entries.filter (·.view.isDrawn))
    (step : Step sketch.store dragFixed .empty (sketch.table.entries.flatMap (·.view.pairs)) calls
      (drawn.map keyOf) emission) : sketch.Covered drawn emission where
  figures := by
    intro entry registered isDrawn
    have among : entry ∈ drawn.map (·.1) := listed ▸ List.mem_filter.mpr ⟨registered, isDrawn⟩
    obtain ⟨place, within, same⟩ := List.mem_map.mp among
    have keyed : entry.id ∈ emission.figures.map (·.1) := by
      rw [step.mem_keys, List.map_map]
      exact .inl (List.mem_map.mpr ⟨place, within, congrArg GeometryEntry.id same⟩)
    cases found : emission.figures.lookup entry.id with
    | none => exact absurd keyed (unlisted_of_lookup found)
    | some entity =>
      have kept := listed_of_lookup found
      rw [step.figures, show Emission.empty.figures = [] from rfl, List.append_nil,
        List.mem_reverse] at kept
      obtain ⟨⟨other, _⟩, there, equal⟩ := List.mem_map.mp kept
      obtain ⟨sameId, rfl⟩ := Prod.mk.inj equal
      -- Identifiers are unique, so what is kept under this one was drawn for this geometry.
      have otherRegistered : other ∈ sketch.table.entries :=
        List.mem_of_mem_filter (listed ▸ List.mem_map_of_mem there)
      have distinct : (sketch.table.entries.map (·.id)).Nodup :=
        List.pairwise_map.mpr (ascend.imp Nat.ne_of_lt)
      rw [List.inj_on_of_nodup_map distinct otherRegistered registered sameId] at there
      exact ⟨_, there, rfl⟩
  pairs entry registered pair among :=
    (step.pairs pair).mpr (.inr (List.mem_flatMap.mpr ⟨entry, registered, among⟩))

/-- All that is emitted for a sketch portrays it. -/
theorem emitAll_portrayed (numbered : sketch.Numbered)
    (run : (sketch.emitAll dragFixed).run .empty = .ok (handles, emission)) :
    ∃ told drawn, Sorts sketch.constraints handles told ∧
      sketch.Portrayed dragFixed told emission.calls.toList emission.points.reverse drawn := by
  unfold emitAll at run
  obtain ⟨_, middle, ran, run⟩ := run_bind_eq_ok.mp run
  have nothing : ∀ entry ∈ sketch.table.entries, entry.id ∉ Emission.empty.figures.map (·.1) :=
    fun _ _ => List.not_mem_nil
  obtain ⟨drawn, drawing, listed, renders, toDrawn⟩ :=
    geometries_step sound_empty numbered.entriesAscend nothing ran
  have covered := covered_of_drawn numbered.entriesAscend listed toDrawn
  obtain ⟨told, telling, sorts, tells, toTold⟩ := emitConstraints_tells toDrawn.sound covered run
  have step := toDrawn.append toTold
  have points : emission.points ⊆ emission.points.reverse :=
    fun _ there => List.mem_reverse.mpr there
  refine ⟨told, drawn, sorts, ⟨?_, ?_⟩, ?_, step.sound.placed, listed,
    ⟨drawing, telling, step.calls, ?_, ?_⟩, _, step.sound.creates⟩
  · rw [List.map_reverse]
    exact List.nodup_reverse.mpr step.sound.pairs
  · rw [List.map_reverse]
    exact List.nodup_reverse.mpr step.sound.apart
  · intro pair
    rw [List.map_reverse, List.mem_reverse, step.pairs, List.mem_append]
    exact or_iff_right List.not_mem_nil
  · exact renders.mono fun _ _ drawn => drawn.mono (List.Subset.trans toTold.kept points)
  · exact tells.mono fun _ _ tells => tells.mono points

/-- The coordinates of a point that is placed are given back as those of its own entity. -/
theorem readsBack_of_point {reply : SolverReply} {entry : GeometryEntry} {x y : Int}
    {answer : Nat × Float × Float} (figure : entry.view.figure = .point x y)
    (placed : (x, y) ∈ emission.points.map (·.1))
    (answered : (match reply.coordinates.lookup ((emission.points.lookup (x, y)).getD 0) with
      | some coordinates => Except.ok (entry.id, coordinates)
      | none => do
        return (entry.id, ← sketch.store.valueAt x, ← sketch.store.valueAt y)) = .ok answer) :
    ReadsBack sketch.store reply emission.points.reverse entry answer := by
  cases found : emission.points.lookup (x, y) with
  | none => exact absurd placed (unlisted_of_lookup found)
  | some entity =>
    have there := List.mem_reverse.mpr (listed_of_lookup found)
    rw [found, Option.getD_some] at answered
    cases read : reply.coordinates.lookup entity with
    | some coordinates =>
      rw [read] at answered
      cases answered
      exact .solved figure there read
    | none =>
      rw [read] at answered
      obtain ⟨first, firstValue, continued⟩ := bind_eq_ok.mp answered
      obtain ⟨second, secondValue, ended⟩ := bind_eq_ok.mp continued
      cases ended
      exact .unmoved figure there read firstValue secondValue

/-- The coordinates of registered points, all of which are placed, are given back as those of their
own entities. -/
theorem solvedPoints_readsBack {reply : SolverReply} {coordinates : List (Nat × Float × Float)}
    (placed : ∀ entry ∈ sketch.table.entries, ∀ pair ∈ entry.view.pairs,
      pair ∈ emission.points.map (·.1))
    (solved : sketch.solvedPoints emission reply = .ok coordinates) :
    List.Forall₂ (ReadsBack sketch.store reply emission.points.reverse)
      (sketch.table.entries.filter (·.view.pair?.isSome)) coordinates := by
  unfold solvedPoints at solved
  have each := mapM_eq_ok.mp solved
  clear solved
  generalize sketch.table.entries = entries at placed each ⊢
  induction entries generalizing coordinates with
  | nil =>
    cases each
    exact .nil
  | cons entry rest ih =>
    have later := fun other there => placed other (List.mem_cons_of_mem entry there)
    cases figure : entry.view.figure with
    | point x y =>
      have isPoint : entry.view.pair? = some (x, y) := by
        rw [View.pair?, figure]
        rfl
      have own : (x, y) ∈ entry.view.pairs := by
        rw [View.pairs, figure]
        exact List.mem_singleton_self _
      rw [List.filterMap_cons] at each
      simp only [figure] at each
      cases each with
      | cons answered others =>
        rw [List.filter_cons_of_pos (by simp [isPoint])]
        exact .cons (readsBack_of_point figure (placed entry List.mem_cons_self _ own) answered)
          (ih later others)
    | _ =>
      have noPoint : entry.view.pair? = none := by
        rw [View.pair?, figure]
        rfl
      rw [List.filterMap_cons] at each
      simp only [figure] at each
      rw [List.filter_cons_of_neg (by simp [noPoint])]
      exact ih later each

end Sketch

namespace Session

/-- An answer that comes after something was looked for is known if it is so whatever was found. -/
theorem finds_liftM_bind {step : Except Fault α} {next : α → Session β} {known : β → Prop}
    (knows : ∀ found, step = .ok found → Finds (next found) known) :
    Finds (liftM step >>= next) known := by
  intro sketch answer after answered
  rw [outcome_liftM_bind] at answered
  cases looked : step with
  | error fault =>
    rw [looked] at answered
    cases answered
  | ok found =>
    rw [looked] at answered
    exact knows found looked answered

/-- A cross-check that solves a sketch gives the coordinates of its points back from the reply. -/
theorem exchange_solves {options : ExchangeOptions} {reply : SolverReply} {sketch after : Sketch}
    {exchange : Exchange} {coordinates : List (Nat × Float × Float)}
    {handles : List (Nat × Option Nat)} {emission : Emission}
    (run : (sketch.emitAll options.dragFixed).run .empty = .ok (handles, emission))
    (answered : (Session.exchange options reply).outcome sketch = (.ok exchange, after))
    (solved : exchange.verdict = .solved coordinates) :
    sketch.solvedPoints emission reply = .ok coordinates := by
  unfold Session.exchange at answered
  rw [outcome_get_bind, outcome_liftM_bind, run] at answered
  dsimp -zeta only at answered
  refine @Finds.known _ _ (fun found => found.verdict = .solved coordinates →
    sketch.solvedPoints emission reply = .ok coordinates) _ _ _ ?_ answered solved
  extract_lets unsupported calls finish
  have finishes (seen : Unit) : Finds (finish seen) fun found =>
      found.verdict = .solved coordinates →
        sketch.solvedPoints emission reply = .ok coordinates := by
    refine finds_ite (finds_pure fun impossible => nomatch impossible) ?_
    refine finds_bind fun _ => finds_ite ?_ (finds_pure fun impossible => nomatch impossible)
    refine finds_liftM_bind fun found looked => finds_pure fun same => ?_
    rw [looked, Verdict.solved.inj same]
  exact finds_ite (finishes ()) (finds_bind finishes)

end Session

namespace Sketch

/-- A cross-check shares the entities of points by their slots among all that refers to them: it
creates one for each pair of slots that a point of the sketch is over, with the values in the store,
holds it in place only if it has to, and refers to it wherever that point takes part. Each
registered line and circle has one entity. -/
theorem exchange_sharesEntities {sketch after : Sketch} (reached : sketch.Reached .all)
    {options : ExchangeOptions} {reply : SolverReply} {exchange : Exchange}
    (answered : (Session.exchange options reply).outcome sketch = (.ok exchange, after)) :
    sketch.SharesEntities options.dragFixed reply exchange := by
  have numbered := reached.numbered
  obtain ⟨handles, emission, run, unsupported, ending⟩ := Session.exchange_ends answered
  obtain ⟨told, drawn, sorts, portrayed⟩ := emitAll_portrayed numbered run
  have hard : sketch.hard = .ok (sketch.constraints.filter fun c => affirmed c.isHard) :=
    filterM_eq_ok.mpr ⟨sorts.flagged, rfl⟩
  have issued : exchange.calls.toList = emission.calls.toList ∨
      exchange.calls.toList = emission.calls.toList ++ [.solve] := by
    rcases ending with early | ⟨late, -⟩
    · exact .inl (by rw [early])
    · exact .inr (by rw [late, Array.toList_push])
  refine ⟨_, emission.calls.toList, emission.points.reverse, drawn, hard, ?_, issued,
    fun coordinates solved => ?_⟩
  · rw [unsupported, ← sorts.told_eq numbered.constraintsAscend]
    exact portrayed
  · refine solvedPoints_readsBack (fun entry registered pair among => ?_)
      (Session.exchange_solves run answered solved)
    have concerned := (portrayed.concerned pair).mpr
      (.inl (List.mem_flatMap.mpr ⟨entry, registered, among⟩))
    rwa [List.map_reverse, List.mem_reverse] at concerned

/-- Requests that draw a line and a fixed circle over two points, one of them fixed, relate the line
to another one over the same points, and remove that other line, which only the constraint refers to
from then on. -/
def sharingRequests : List Request :=
  [.addPoint (.int 0) (.int 0) (.bool true) (.int 0),
    .addPoint (.int 3) (.int 4) (.bool false) (.int 0),
    .addLine (.int 0) (.int 1) (.int 0),
    .addCircle (.int 0) (.int 2) (.bool true) (.int 0),
    .addLine (.int 1) (.int 0) (.int 7),
    .addConstraint (.text "parallel") [.int 2, .int 4] (.bool true) (.bool false) (.int 1) (.int 0),
    .addConstraint (.text "p2p_distance") [.int 0, .int 1, .int 5] (.bool true) (.bool false)
      (.int 1) (.int 0),
    .removeTag (.int 7)]

/-- The two points are created once each and one of them is held in place, two lines and a circle
are drawn over them, and what is solved for the second point is read back. -/
theorem exchange_sharesEntities_sharing :
    let sketch := (start 0 .standard .silent).afterAll sharingRequests
    let reply : SolverReply := ⟨0, [], 0, [(2, 6.0, 8.0)]⟩
    sketch.Reached .all ∧
      ∃ exchange after, (Session.exchange ⟨true, true⟩ reply).outcome sketch =
          (.ok exchange, after) ∧
        exchange.succeeded ∧ exchange.calls.toList.countP SolverCall.places = 3 ∧
          sketch.SharesEntities true reply exchange := by
  intro sketch reply
  have reached : sketch.Reached .all :=
    ⟨0, .standard, .silent, sharingRequests, fun request _ => request.within_all, rfl⟩
  have seen : ((Session.exchange ⟨true, true⟩ reply).outcome sketch).1.toOption.map
      (fun exchange => (exchange.succeeded, exchange.calls.toList.countP SolverCall.places)) =
        some (true, 3) := by
    decide +kernel
  rcases ended : (Session.exchange ⟨true, true⟩ reply).outcome sketch with ⟨fault | exchange, after⟩
  · rw [ended] at seen
    cases seen
  · rw [ended] at seen
    obtain ⟨succeeded, counted⟩ := Prod.mk.inj (Option.some.inj seen)
    exact ⟨reached, exchange, after, rfl, succeeded, counted,
      exchange_sharesEntities reached ended⟩

end Sketch

end Drafting
