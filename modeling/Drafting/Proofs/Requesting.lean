import Drafting.Proofs.Drawing
import Drafting.Proofs.Solving

/-!
# Every request proceeds by changes

Removing, solving, applying and clearing are chains of changes as well, and so is every request and
every list of requests. What each change preserves is therefore preserved by all that a session
does, refusals included.
-/

namespace Drafting

variable {scope : Scope}

open Session

namespace Session

/-- Retiring slots is a change, and a line about it another one. -/
theorem proceeds_retire {tag : Value} : Proceeds (Change scope) (retire tag) := by
  refine .bind (proceeds_onStore fun sketch hits store done => ?_) fun hits => ?_
  · obtain ⟨t, -, answered⟩ := bind_eq_ok.mp done
    cases answered
    exact .retired t
  · by_cases none : hits.isEmpty
    · rw [if_pos none]
      exact .pure hits
    · rw [if_neg none]
      exact .bind proceeds_noteTag fun _ => .pure hits

/-- Removing by a tag removes constraints, retires slots and removes geometry as far as it goes. -/
theorem proceeds_removeTag {tag : Value} : Proceeds (Change scope) (removeTag tag) := by
  refine .bind .get fun sketch => ?_
  refine .bind (Looks.filterM fun c => .liftM _).proceeds fun removed => ?_
  refine .bind (.modify fun sketch => .removed _) fun _ => ?_
  refine .bind proceeds_retire fun retired => ?_
  refine .bind proceeds_noteTag fun _ => ?_
  refine .get_bind fun sketch => ?_
  rw [outcome_liftM_bind]
  cases dropped : sketch.table.removeTag tag with
  | error fault => exact .refl
  | ok result =>
    obtain ⟨entries, selected, answered⟩ := bind_eq_ok.mp dropped
    cases answered
    exact .single (.dropped entries fun entry among => mem_of_filterM selected among)

/-- A solve that is judged is kept, and nothing else changes. -/
theorem proceeds_solve {backend : Backend} {request : Value} :
    Proceeds (Change scope) (solve backend request) := by
  intro sketch
  obtain ⟨journal, solved⟩ := outcome_solve backend request sketch
  rw [solved]
  cases attempted : sketch.attemptBy backend request with
  | error fault => exact .single (.noted journal)
  | ok attempt =>
    obtain ⟨algorithm, problem, proposal, -, -, judged⟩ := Sketch.attemptBy_eq_ok attempted
    exact .head (.attempted judged) (.single (.noted journal))

/-- Storing measurements changes the slots that constraints measure. -/
theorem changes_commitMeasurement {measured : List (Nat × Float)} {sketch : Sketch}
    (slots : ∀ pair ∈ measured, ∃ c ∈ sketch.constraints,
      c.measuredSlot? = .ok (some pair.1)) :
    Changes scope sketch
      ((measured.forM fun pair => commitMeasurement pair.1 pair.2).outcome sketch).2 := by
  induction measured generalizing sketch with
  | nil => exact .refl
  | cons pair rest ih =>
    obtain ⟨c, registered, measures⟩ := slots pair List.mem_cons_self
    have others : ∀ pair ∈ rest, ∃ c ∈ sketch.constraints, c.measuredSlot? = .ok (some pair.1) :=
      fun pair later => slots pair (List.mem_cons_of_mem _ later)
    show Changes scope sketch ((commitMeasurement pair.1 pair.2 >>= fun _ =>
      rest.forM fun pair => commitMeasurement pair.1 pair.2).outcome sketch).2
    rw [outcome_bind]
    rcases outcome_commitMeasurement_cases pair.1 pair.2 sketch with
      ⟨fault, refused, -⟩ | unchanged | stored
    · rw [refused]
    · rw [unchanged]
      exact ih others
    · rw [stored]
      exact .head (.measured pair.2 registered measures) (ih others)

/-- Applying writes the solution that is pending, and then stores what was measured. -/
theorem proceeds_apply {bestEffort : Value} : Proceeds (Change scope) (apply bestEffort) := by
  intro sketch
  obtain ⟨journal, ⟨fault, refused, -⟩ | ⟨nothing, -⟩ |
    ⟨slots, values, pending, ⟨fault, refused, -⟩ | ⟨applied, -⟩⟩⟩ :=
      outcome_apply_cases bestEffort sketch
  · rw [refused]
    exact .single (.noted journal)
  · rw [nothing]
    exact .single (.noted journal)
  · rw [refused]
    exact .single (.noted journal)
  · rw [applied, outcome_discard_bind]
    have wrote : Changes scope sketch ((sketch.written slots values).withJournal journal) :=
      .head (.applied pending) (.single (.noted journal))
    refine wrote.trans ?_
    rcases outcome_commitMeasurements_cases (sketch.written slots values).store.snapshot
        ((sketch.written slots values).withJournal journal) with
      ⟨fault, later, refused, -⟩ | ⟨measured, later, went, -, measures⟩
    · rw [refused]
      exact .single (.noted later)
    · have stored := @changes_commitMeasurement scope measured
        (((sketch.written slots values).withJournal journal).withJournal later) measures
      rw [went, outcome_bind]
      revert stored
      rcases (measured.forM fun pair => commitMeasurement pair.1 pair.2).outcome _ with
        ⟨fault | ⟨⟩, after⟩ <;> intro stored
      · exact .head (.noted later) stored
      · exact .head (.noted later) stored

/-- Clearing drops everything but the kinds and the options. -/
theorem proceeds_clear : Proceeds (Change scope) clear :=
  fun _ => .head .cleared (.single (.noted _))

end Session

/-- Every request proceeds by changes. -/
theorem Request.proceeds {request : Request} (within : request.Within scope) :
    Proceeds (Change scope) request.perform := by
  cases request with
  | addParameter => exact .bind proceeds_addParameter fun _ => .pure _
  | parameter => exact .bind proceeds_parameter fun _ => .pure _
  | addPoint => exact .bind proceeds_addPoint fun _ => .pure _
  | addLine => exact .bind (proceeds_addLine within) fun _ => .pure _
  | addCircle => exact .bind (proceeds_addCircle within) fun _ => .pure _
  | addArc => exact .bind (proceeds_addArc within) fun _ => .pure _
  | addEllipse => exact .bind (proceeds_addEllipse within) fun _ => .pure _
  | addArcOfEllipse => exact .bind (proceeds_addArcOfEllipse within) fun _ => .pure _
  | addHyperbola => exact .bind (proceeds_addHyperbola within) fun _ => .pure _
  | addArcOfHyperbola => exact .bind (proceeds_addArcOfHyperbola within) fun _ => .pure _
  | addParabola => exact .bind (proceeds_addParabola within) fun _ => .pure _
  | addArcOfParabola => exact .bind (proceeds_addArcOfParabola within) fun _ => .pure _
  | addSpline => exact .bind proceeds_addSpline fun _ => .pure _
  | geometry => exact .bind proceeds_geometry fun _ => .pure _
  | valueOf => exact .bind proceeds_valueOf fun _ => .pure _
  | pointCoordinates => exact .bind proceeds_pointCoordinates fun _ => .pure _
  | addConstraint => exact .bind (proceeds_addConstraint within.1 within.2) fun _ => .pure _
  | registerKind => exact .bind proceeds_registerKind fun _ => .pure _
  | removeTag => exact .bind proceeds_removeTag fun _ => .pure _
  | solve => exact .bind proceeds_solve fun _ => .pure _
  | apply => exact .bind proceeds_apply fun _ => .pure _
  | diagnosis => exact .bind .get fun _ => .pure _
  | clear => exact .bind proceeds_clear fun _ => .pure _

/-- Every list of requests proceeds by changes. -/
theorem Sketch.changes_afterAll {sketch : Sketch} {requests : List Request}
    (within : ∀ request ∈ requests, request.Within scope) :
    Changes scope sketch (sketch.afterAll requests) := by
  induction requests generalizing sketch with
  | nil => exact .refl
  | cons request rest ih =>
    have first := Request.proceeds (within request List.mem_cons_self) sketch
    have others := @ih (sketch.after request)
      fun later there => within later (List.mem_cons_of_mem _ there)
    exact first.trans others

/-- What holds of every new sketch and is kept by every change holds of every sketch that is
reached. -/
theorem Sketch.Reached.invariant {holds : Sketch → Prop} {sketch : Sketch}
    (reached : sketch.Reached scope)
    (begins : ∀ identity options journal, holds (start identity options journal))
    (kept : ∀ {before after}, holds before → Change scope before after → holds after) :
    holds sketch := by
  obtain ⟨identity, options, journal, requests, within, rfl⟩ := reached
  have changes := @changes_afterAll scope (start identity options journal) requests within
  generalize (start identity options journal).afterAll requests = sketch at changes
  induction changes with
  | refl => exact begins identity options journal
  | tail _ change ih => exact kept ih change

end Drafting
