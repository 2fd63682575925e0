import Drafting.Proofs.ConvergedApply
import Drafting.Proofs.EditedSessions

/-!
# Applying what was found last

What a solve found is kept until the next solve that is answered, or until the sketch is cleared,
whatever is edited in between; a solve that is refused leaves no trace. Here it is followed along
the edits of a session from the answers alone, and applying is shown to commit exactly that: slots
that were free then and are free now get their component, the constraints that only measure are
measured there, and everything else stays.
-/

namespace Drafting

/-- What a solve found: a vector for the slots that were free, and whether it converged. -/
structure Finding where
  free : List Nat
  vector : List Float
  converged : Bool
deriving DecidableEq

namespace Finding

/-- Whether a find can be applied: it has to be finite, and to have converged unless any effort is
good enough. -/
def applies (found : Finding) (effort : Bool) : Bool :=
  found.vector.all Float.isFinite && (found.converged || effort)

/-- The component of a find for a slot, if the slot was free. -/
def component? (found : Finding) (place : Nat) : Option Float :=
  (found.free.zip found.vector).lookup place

end Finding

/-- A backend proposes one value for each free slot. -/
def Backend.Fills (backend : Backend) : Prop :=
  ∀ problem algorithm options proposal,
    (backend.run problem algorithm options).proposal = .ok proposal →
      proposal.x.length = problem.start.length

/-- Whether the backend of an edit, if it is a solve, proposes one value for each free slot. -/
def Edit.Fills : Edit → Prop
  | ask (.solve backend _) => backend.Fills
  | _ => True

/-- A slot with the component of a find, if there is one and the slot is not fixed. -/
def Slot.settled (slot : Slot) (component : Option Float) : Slot :=
  match component with
  | some value => slot.taking value
  | none => slot

namespace Sketch

/-- What a backend proposes when it is asked for a solve. -/
def proposalBy (sketch : Sketch) (backend : Backend) (request : Value) : Except Fault Proposal := do
  let algorithm ← Algorithm.parseRequest request >>= sketch.algorithmFor
  let problem ← sketch.problem algorithm
  (backend.run problem algorithm sketch.options).proposal

/-- What was found last once an edit is done: what its solve found if it is one and is answered,
nothing if it clears, and else what was found before. -/
def foundBy (sketch : Sketch) (last : Option Finding) : Edit → Option Finding
  | .ask .clear => none
  | .ask (.solve backend request) =>
    match ((Session.solve backend request).outcome sketch).1, sketch.proposalBy backend request with
    | .ok status, .ok proposal => some ⟨sketch.store.freeIndices, proposal.x, status.converged⟩
    | _, _ => last
  | _ => last

/-- What was found last after some edits. -/
def lastFound (sketch : Sketch) (last : Option Finding) : List Edit → Option Finding
  | [] => last
  | edit :: rest => (sketch.edited edit).lastFound (sketch.foundBy last edit) rest

/-- The attempt that a sketch keeps is what was found last, in this generation of the store. -/
def Recalls (sketch : Sketch) : Option Finding → Prop
  | none => sketch.attempt = none
  | some found => ∃ attempt, sketch.attempt = some attempt ∧
    attempt.generation = sketch.store.generation ∧ attempt.free = found.free ∧
    attempt.solution = (if found.vector.all Float.isFinite then some found.vector else none) ∧
    attempt.status.converged = found.converged ∧
    found.vector.length = found.free.length ∧ found.free.Nodup

variable {sketch after : Sketch} {last : Option Finding}

/-- Steady steps recall the same. -/
theorem Recalls.steady (recalls : sketch.Recalls last) (steady : sketch.Steady after) :
    after.Recalls last := by
  cases last with
  | none => exact steady.1.trans recalls
  | some found =>
    obtain ⟨attempt, kept, current, rest⟩ := recalls
    refine ⟨attempt, steady.1.trans kept, ?_, rest⟩
    rw [current]
    exact (congrArg Binding.generation steady.2).symm

/-- A proposal that is judged was proposed. -/
theorem attemptBy_eq_bind (sketch : Sketch) (backend : Backend) (request : Value)
    {attempt : Attempt} (attempted : sketch.attemptBy backend request = .ok attempt) :
    ∃ algorithm problem proposal, sketch.proposalBy backend request = .ok proposal ∧
      sketch.problem algorithm = .ok problem ∧
      (backend.run problem algorithm sketch.options).proposal = .ok proposal ∧
      sketch.judge backend.leastSquares algorithm proposal = .ok attempt := by
  obtain ⟨algorithm, chosen, rest⟩ := bind_eq_ok.mp attempted
  obtain ⟨problem, posed, rest⟩ := bind_eq_ok.mp rest
  obtain ⟨proposal, proposed, judged⟩ := bind_eq_ok.mp rest
  exact ⟨algorithm, problem, proposal,
    bind_eq_ok.mpr ⟨algorithm, chosen, bind_eq_ok.mpr ⟨problem, posed, proposed⟩⟩, posed, proposed,
    judged⟩

/-- A problem starts with one value for each free slot. -/
theorem length_start {algorithm : Algorithm} {problem : Problem}
    (posed : sketch.problem algorithm = .ok problem) :
    problem.start.length = sketch.store.freeIndices.length := by
  obtain ⟨hard, -, rest⟩ := bind_eq_ok.mp posed
  obtain ⟨wishes, -, answered⟩ := bind_eq_ok.mp rest
  obtain rfl := pure_eq_ok.mp answered
  exact List.length_map ..

/-- A solve that is answered is recalled, and one that is refused leaves no trace. -/
theorem Recalls.solved (recalls : sketch.Recalls last) {backend : Backend} (fills : backend.Fills)
    (request : Value) : (sketch.edited (.ask (.solve backend request))).Recalls
      (sketch.foundBy last (.ask (.solve backend request))) := by
  obtain ⟨journal, solved⟩ := Session.outcome_solve backend request sketch
  have leaves : sketch.edited (.ask (.solve backend request)) =
      ((Session.solve backend request >>= fun status =>
        pure (Answer.status status)).outcome sketch).2 := rfl
  rw [leaves, Session.outcome_bind]
  unfold foundBy
  dsimp only
  rw [solved]
  cases attempted : sketch.attemptBy backend request with
  | error fault => exact recalls.steady ⟨rfl, rfl⟩
  | ok attempt =>
    obtain ⟨algorithm, problem, proposal, same, posed, proposed, judged⟩ :=
      sketch.attemptBy_eq_bind backend request attempted
    obtain ⟨_, _, -, -, -, -, free, solution, generation⟩ := judge_eq_ok judged
    rw [same]
    refine ⟨attempt, rfl, generation, free, solution, rfl, ?_, ?_⟩
    · exact (fills problem algorithm _ proposal proposed).trans (length_start posed)
    · exact List.nodup_range.filter _

/-- Clearing recalls nothing. -/
theorem attempt_after_clear (sketch : Sketch) : (sketch.after .clear).attempt = none := rfl

/-- What was found last is recalled after every edit. -/
theorem Recalls.edited (recalls : sketch.Recalls last) {edit : Edit} (fills : edit.Fills) :
    (sketch.edited edit).Recalls (sketch.foundBy last edit) := by
  by_cases steady : edit.IsSteady
  · have still : sketch.foundBy last edit = last := by
      cases edit with
      | ask request =>
        cases request with
        | solve | clear => cases steady
        | _ => rfl
      | _ => rfl
    rw [still]
    exact recalls.steady (steady_edited steady)
  · cases edit with
    | ask request =>
      cases request with
      | solve backend algorithm => exact recalls.solved fills algorithm
      | clear => exact attempt_after_clear sketch
      | _ => exact absurd trivial steady
    | _ => exact absurd trivial steady

/-- What was found last is recalled after edits one after the other. -/
theorem Recalls.editedAll {edits : List Edit} (recalls : sketch.Recalls last)
    (fills : ∀ edit ∈ edits, edit.Fills) :
    (sketch.editedAll edits).Recalls (sketch.lastFound last edits) := by
  induction edits generalizing sketch last with
  | nil => exact recalls
  | cons edit rest ih =>
    exact ih (recalls.edited (fills edit List.mem_cons_self)) fun later there =>
      fills later (List.mem_cons_of_mem _ there)

/-- What can be applied is what was found last, if that applies. -/
theorem Recalls.applicable? (recalls : sketch.Recalls last) {bestEffort : Value} {effort : Bool}
    (known : bestEffort.truth = .ok effort) :
    sketch.applicable? bestEffort =
      .ok ((last.filter (·.applies effort)).map fun found => (found.free, found.vector)) := by
  unfold Sketch.applicable?
  cases last with
  | none =>
    rw [show sketch.attempt = none from recalls]
    rfl
  | some found =>
    obtain ⟨attempt, kept, current, free, solution, converged, -⟩ := recalls
    rw [kept]
    dsimp only
    rw [solution, Option.filter_some]
    unfold Finding.applies
    by_cases finite : found.vector.all Float.isFinite
    · rw [if_pos finite, finite]
      dsimp only
      rw [if_neg (not_not.mpr current), converged, free, known]
      cases found.converged <;> cases effort <;> rfl
    · rw [if_neg finite, Bool.eq_false_iff.mpr finite]
      rfl

end Sketch

/-- A store is another one with a finding put into the slots that are still free. -/
structure Store.FilledBy (filled store : Store) (found : Finding) : Prop where
  binding : filled.binding = store.binding
  slots : ∀ place : Nat,
    filled.slots[place]? =
      store.slots[place]?.map fun slot => slot.settled (found.component? place)

/-- A store is another one with what some constraints measure there: a finite measurement is put
into its slot and fixed, and every other slot stays. -/
structure Store.MeasuredBy (committed filled : Store) (constraints : List Constraint) : Prop where
  binding : committed.binding = filled.binding
  measured : ∀ c ∈ constraints, ∀ (place : Nat) value,
    c.measurement filled.snapshot = .ok (some (place, value)) → value.isFinite →
      ∃ slot, filled.slots[place]? = some slot ∧
        committed.slots[place]? = some { slot with value, fixed := true }
  kept : ∀ place : Nat,
    (∀ c ∈ constraints, ∀ value, c.measurement filled.snapshot = .ok (some (place, value)) →
      ¬ value.isFinite) → committed.slots[place]? = filled.slots[place]?

/-- Writing a finding puts it into the slots that are still free. -/
theorem Sketch.filledBy_written (sketch : Sketch) {found : Finding}
    (count : found.vector.length = found.free.length) (distinct : found.free.Nodup) :
    (sketch.written found.free found.vector).store.FilledBy sketch.store found where
  binding := Store.binding_writeFreeAll ..
  slots place := by
    have keys : (found.free.zip found.vector).map (·.1) = found.free :=
      List.map_fst_zip (Nat.le_of_eq count.symm)
    show (sketch.store.writeFreeAll (found.free.zip found.vector)).2.slots[place]? = _
    unfold Finding.component?
    cases looked : (found.free.zip found.vector).lookup place with
    | none =>
      rw [Store.slots_writeFreeAll_of_absent (unlisted_of_lookup looked)]
      exact Option.map_id'.symm
    | some value =>
      exact Store.slots_writeFreeAll_of_mem (keys.symm ▸ distinct) (listed_of_lookup looked)

/-- Storing measurements puts them into their slots. -/
theorem Sketch.measuredBy_commit {sketch : Sketch} (own : sketch.MeasuresOwn)
    (sound : sketch.Sound) {filled : Store} (size : filled.size = sketch.store.size)
    {measured : List (Nat × Float)}
    (found : measurements filled.snapshot sketch.constraints = .ok measured) :
    (filled.commit measured).MeasuredBy filled sketch.constraints where
  binding := Store.binding_commit ..
  measured c registered place value measures finite := by
    have listed := (mem_measurements found).mpr ⟨c, registered, measures⟩
    have inside : place < filled.size := size ▸ own.inside sound found _ listed
    refine ⟨filled.slots[place], Array.getElem?_eq_getElem inside, ?_⟩
    rw [Store.slots_commit_of_mem (nodup_measurements (own.apart sound) found) listed finite,
      Array.getElem?_eq_getElem inside]
    rfl
  kept place idle := by
    refine Store.slots_commit_of_idle fun pair there same => ?_
    obtain ⟨c, registered, measures⟩ := (mem_measurements found).mp there
    refine idle c registered pair.2 ?_
    rw [measures, ← same]

/-- Whether a built-in kind that is referred to by reference can fail to be measured: its flag is no
truth value, or it is one of the two that measure an angle. -/
theorem Sketch.Orderly.unmeasurable {sketch : Sketch} (orderly : sketch.Orderly) {c : Constraint}
    (registered : c ∈ sketch.constraints) {vector : Array Float}
    (size : vector.size = sketch.store.size) (fails : ¬ c.Measurable vector) :
    (∃ fault, c.modifiers.driving.truth = .error fault) ∨
      c.kind = BuiltinKind.pointAngle.name ∨ c.kind = BuiltinKind.lineAngle.name := by
  cases known : c.modifiers.driving.truth with
  | error fault => exact .inl ⟨fault, rfl⟩
  | ok drives =>
    right
    by_contra plain
    exact fails (orderly.measurable registered known size (not_or.mp plain))

section Applying

variable (identity : Nat) (options : SolveOptions) (journal : Journal)

/-- A session of edits begins with a new sketch, its backends propose one value for each free slot,
and then it applies. Without a finding that applies, the answer is no and nothing changes. With
one, every slot that was free at its solve and still is gets its component. Then, if every
constraint can be measured there, the answer is yes and the finite measurements of those that only
measure are stored and fixed; if one cannot, applying is refused with the finding written and
nothing measured. By reference only what measures an angle can be such, or what has no truth value
for driving. Whatever is fixed and not measured stays so from then on, as long as no slot is
overwritten directly and nothing is cleared. -/
theorem apply_commits_lastFound (edits : List Edit) (fills : ∀ edit ∈ edits, edit.Fills)
    {bestEffort : Value} {effort : Bool} (known : bestEffort.truth = .ok effort) :
    let begun := Sketch.start identity options journal
    let sketch := begun.editedAll edits
    let last := begun.lastFound none edits
    ((∀ found, last = some found → found.applies effort = false) →
      ∃ journal, (Session.apply bestEffort).outcome sketch =
        (.ok false, { sketch with journal })) ∧
    (∀ found, last = some found → found.applies effort →
      ∃ filled : Store, filled.FilledBy sketch.store found ∧
        ((∀ c ∈ sketch.constraints, c.Measurable filled.snapshot) →
          ∃ committed journal, committed.MeasuredBy filled sketch.constraints ∧
            (Session.apply bestEffort).outcome sketch =
              (.ok true, { sketch with store := committed, journal })) ∧
        ((∃ c ∈ sketch.constraints, ¬ c.Measurable filled.snapshot) →
          ∃ fault journal, (Session.apply bestEffort).outcome sketch =
            (.error fault, { sketch with store := filled, journal })) ∧
        ((∀ edit ∈ edits, edit.Within .byReference) →
          ∀ c ∈ sketch.constraints, ¬ c.Measurable filled.snapshot →
            (∃ fault, c.modifiers.driving.truth = .error fault) ∨
              c.kind = BuiltinKind.pointAngle.name ∨ c.kind = BuiltinKind.lineAngle.name)) ∧
    ∀ more place value, (∀ edit ∈ more, edit.IsGentle) → sketch.store.Holds place value →
      (∀ c ∈ sketch.constraints, c.measuredSlot? ≠ .ok (some place)) →
        (sketch.editedAll more).store.Holds place value := by
  intro begun sketch last
  have recalls : sketch.Recalls last := Sketch.Recalls.editedAll rfl fills
  have sound : sketch.Sound := Sketch.invariant_editedAll
    (fun edit _ => edit.within_all) Sketch.Sound.alteration (Sketch.sound_start ..)
  have own : sketch.MeasuresOwn := Sketch.invariant_editedAll
    (fun edit _ => edit.within_all) Sketch.MeasuresOwn.alteration (List.forall_mem_nil _)
  obtain ⟨written, outcome⟩ := Session.outcome_apply own sound bestEffort
  rw [recalls.applicable? known] at outcome
  refine ⟨fun nothing => ?_, fun found same applies => ?_, ?_⟩
  · have none : last.filter (·.applies effort) = none := by
      rw [Option.filter_eq_none_iff]
      exact fun found there => Bool.eq_false_iff.mp (nothing found there)
    rw [none] at outcome
    exact ⟨written, outcome⟩
  · rw [same, Option.filter_some, if_pos applies] at outcome
    rw [same] at recalls
    obtain ⟨attempt, -, -, -, -, -, count, distinct⟩ := recalls
    have finite : found.vector.all Float.isFinite := (Bool.and_eq_true_iff.mp applies).1
    have fits : Store.checkRow found.free found.vector.length found.vector = .ok () := by
      unfold Store.checkRow
      rw [if_neg (not_not.mpr count), if_pos finite]
    have size : (sketch.written found.free found.vector).store.size = sketch.store.size :=
      Store.size_writeFreeAll ..
    dsimp only [Option.map_some] at outcome
    rw [fits] at outcome
    refine ⟨_, sketch.filledBy_written count distinct, fun all => ?_, fun fails => ?_,
      fun within c registered => ?_⟩
    · obtain ⟨measured, listed⟩ := measurements_ok_iff.mpr all
      rw [listed] at outcome
      exact ⟨_, written, Sketch.measuredBy_commit own sound size listed, outcome⟩
    · cases listed : measurements (sketch.written found.free found.vector).store.snapshot
          sketch.constraints with
      | ok measured =>
        obtain ⟨c, registered, unmeasured⟩ := fails
        exact absurd (measurements_ok_iff.mp ⟨measured, listed⟩ c registered) unmeasured
      | error fault =>
        rw [listed] at outcome
        exact ⟨fault, written, outcome⟩
    · have orderly : sketch.Orderly := Sketch.invariant_editedAll within
        Sketch.Orderly.alteration
        ⟨Sketch.sound_start .., Sketch.private_start .., Sketch.standard_start ..⟩
      exact orderly.unmeasurable registered ((Store.size_snapshot _).trans size)
  · intro more place value gentle holds idle
    exact ((Sketch.Pins.mk holds idle).editedAll gentle).holds

end Applying

/-- The backend that shifts every free value by two. -/
def shifter : Backend :=
  ⟨"shifter", fun problem _ _ => ⟨[], .ok ⟨problem.start.map (· + 2.0), 1, ""⟩⟩,
    shortestCombination⟩

/-- Two points with the step between them measured; after a solve a coordinate is pinned. -/
def pinning : List Edit :=
  [.ask (.addPoint (.float 0.0) (.float 0.0) (.bool false) (.int 0)),
    .ask (.addPoint (.float 1.0) (.float 1.0) (.bool false) (.int 0)),
    .ask (.addConstraint (.text "difference")
      [.property (.int 0) (.text "x"), .property (.int 1) (.text "x"), .float 7.0]
      (.bool false) (.bool false) (.float 1.0) (.int 0)),
    .ask (.solve shifter (.text "dogleg")),
    .set (.int 1) (.float 9.0) (.bool true)]

/-- The points are shifted, but for the coordinate that was pinned, and the step is measured. -/
theorem apply_commits_lastFound_pinning :
    ∃ committed journal,
      (Session.apply (.bool false)).outcome
          ((Sketch.start 0 .standard .silent).editedAll pinning) =
        (.ok true,
          { (Sketch.start 0 .standard .silent).editedAll pinning with
            store := committed, journal }) ∧
      committed.slots[0]?.map (fun slot => (slot.value, slot.fixed)) = some (2.0, false) ∧
      committed.slots[1]?.map (fun slot => (slot.value, slot.fixed)) = some (9.0, true) ∧
      committed.slots[4]?.map (fun slot => (slot.value, slot.fixed)) = some (1.0, true) := by
  have fills : ∀ edit ∈ pinning, edit.Fills := by
    intro edit there
    simp only [pinning, List.mem_cons, List.not_mem_nil, or_false] at there
    rcases there with rfl | rfl | rfl | rfl | rfl
    · trivial
    · trivial
    · trivial
    · intro problem algorithm options proposal given
      cases given
      exact List.length_map ..
    · trivial
  have same : (Sketch.start 0 .standard .silent).lastFound none pinning =
      some ⟨[0, 1, 2, 3], [2.0, 2.0, 3.0, 3.0], true⟩ := by decide +kernel
  obtain ⟨-, succeeds, -⟩ := @apply_commits_lastFound 0 .standard .silent pinning fills
    (.bool false) false rfl
  obtain ⟨filled, filledBy, commits, -⟩ := succeeds _ same (by decide +kernel)
  -- Of all stores only one is filled so, and that one can be computed.
  have written := @Sketch.filledBy_written ((Sketch.start 0 .standard .silent).editedAll pinning)
    ⟨[0, 1, 2, 3], [2.0, 2.0, 3.0, 3.0], true⟩ rfl (by decide)
  have only := Array.ext_getElem? fun place =>
    (filledBy.slots place).trans (written.slots place).symm
  have snapshot : filled.snapshot = #[2.0, 9.0, 3.0, 3.0, 7.0] := by
    unfold Store.snapshot
    rw [only]
    decide +kernel
  have measurable : ∀ c ∈ ((Sketch.start 0 .standard .silent).editedAll pinning).constraints,
      c.Measurable #[2.0, 9.0, 3.0, 3.0, 7.0] := by decide +kernel
  obtain ⟨committed, journal, measuredBy, applied⟩ := commits (snapshot ▸ measurable)
  have values : ∀ c ∈ ((Sketch.start 0 .standard .silent).editedAll pinning).constraints,
      c.valueSlot = some 4 := by decide +kernel
  have kept (place : Nat) (other : place ≠ 4) :
      committed.slots[place]? = filled.slots[place]? := by
    refine measuredBy.kept place fun c registered value measures => ?_
    have slot := valueSlot_of_measurement measures
    rw [values c registered] at slot
    exact absurd (Option.some.inj slot).symm other
  refine ⟨committed, journal, applied, ?_, ?_, ?_⟩
  · rw [kept 0 (by decide), only]
    decide +kernel
  · rw [kept 1 (by decide), only]
    decide +kernel
  · have measures : ∃ c ∈ ((Sketch.start 0 .standard .silent).editedAll pinning).constraints,
        (c.measurement #[2.0, 9.0, 3.0, 3.0, 7.0]).toOption = some (some (4, 1.0)) := by
      decide +kernel
    obtain ⟨c, registered, step⟩ := measures
    cases read : c.measurement #[2.0, 9.0, 3.0, 3.0, 7.0] with
    | error fault =>
      rw [read] at step
      cases step
    | ok found =>
      rw [read] at step
      cases step
      obtain ⟨slot, -, stored⟩ := measuredBy.measured c registered 4 1.0 (snapshot ▸ read)
        (by decide +kernel)
      rw [stored]
      rfl

end Drafting
