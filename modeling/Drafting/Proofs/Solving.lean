import Drafting.Proofs.Measurement
import Drafting.Sketch.Solving

/-!
# Outcomes of solving and applying

A solve keeps an attempt that was judged on the sketch as it was, and changes nothing else but the
journal. Applying writes the solution of the attempt into the slots that are still free, and then
measures at what was written.
-/

namespace Drafting

/-- The sketch with values written into those of some slots that are free. -/
def Sketch.written (sketch : Sketch) (slots : List Nat) (values : List Float) : Sketch :=
  { sketch with store := (sketch.store.writeFreeAll (slots.zip values)).2 }

namespace Session

/-- Records are written line by line. -/
theorem outcome_notes (records : List Record) (sketch : Sketch) :
    ∃ journal, (records.forM fun record =>
      note record.level record.source record.message).outcome sketch =
        (.ok (), sketch.withJournal journal) := by
  induction records generalizing sketch with
  | nil => exact ⟨sketch.journal, rfl⟩
  | cons record rest ih => exact ih _

/-- What happened in a search is written line by line. -/
theorem outcome_noteEvents (wanted : Bool) (number : Nat) (events : List Event) (sketch : Sketch) :
    ∃ journal, (noteEvents wanted number events).outcome sketch =
      (.ok (), sketch.withJournal journal) := by
  induction events generalizing number sketch with
  | nil => exact ⟨sketch.journal, rfl⟩
  | cons event rest ih =>
    cases event with
    | remark level text => exact ih number _
    | look x rows =>
      unfold noteEvents
      by_cases shown : wanted = true
      · rw [if_pos shown]
        exact ih (number + 1) _
      · rw [if_neg shown]
        exact ih (number + 1) sketch

/-- The outcome of a solve is written, and then answered. -/
theorem outcome_noteOutcome_return (level : Level) (status : SolveStatus) (looks : Nat)
    (sketch : Sketch) :
    ∃ journal, (do
        noteOutcome level status looks
        return status : Session SolveStatus).outcome sketch =
      (.ok status, sketch.withJournal journal) := by
  unfold noteOutcome
  by_cases silent : status.conflicting.isEmpty && status.redundant.isEmpty &&
      status.partiallyRedundant.isEmpty
  · rw [if_pos silent]
    exact ⟨_, rfl⟩
  · rw [if_neg silent]
    exact ⟨_, rfl⟩

/-- The algorithm is chosen, and written if it is not the one that was requested. -/
theorem outcome_effectiveAlgorithm (request : Value) (sketch : Sketch) :
    ∃ journal, (effectiveAlgorithm request).outcome sketch =
      (Algorithm.parseRequest request >>= sketch.algorithmFor, sketch.withJournal journal) := by
  unfold effectiveAlgorithm
  rw [outcome_liftM_bind]
  cases Algorithm.parseRequest request with
  | error fault => exact ⟨sketch.journal, rfl⟩
  | ok requested =>
    dsimp only
    rw [outcome_get_bind, outcome_liftM_bind]
    rw [ok_bind]
    cases sketch.algorithmFor requested with
    | error fault => exact ⟨sketch.journal, rfl⟩
    | ok effective =>
      by_cases other : effective ≠ requested
      · dsimp only
        rw [if_pos other]
        exact ⟨_, rfl⟩
      · dsimp only
        rw [if_neg other]
        exact ⟨sketch.journal, rfl⟩

/-- The begin of a solve is written unless its problem cannot be posed. -/
theorem outcome_noteStart (level : Level) (algorithm : Algorithm) (backend : String)
    (sketch : Sketch) :
    ∃ journal, (noteStart level algorithm backend).outcome sketch =
      ((sketch.problem algorithm).map fun _ => (), sketch.withJournal journal) := by
  unfold noteStart Sketch.problem
  rw [outcome_get_bind, outcome_liftM_bind]
  cases sketch.hard with
  | error fault => exact ⟨sketch.journal, rfl⟩
  | ok hard =>
    dsimp only
    rw [outcome_liftM_bind]
    cases sketch.heeded algorithm with
    | error fault => exact ⟨sketch.journal, rfl⟩
    | ok wishes => exact ⟨_, rfl⟩

end Session

/-- The attempt that a solve by a backend comes to. -/
def Sketch.attemptBy (sketch : Sketch) (backend : Backend) (request : Value) :
    Except Fault Attempt := do
  let algorithm ← Algorithm.parseRequest request >>= sketch.algorithmFor
  let problem ← sketch.problem algorithm
  sketch.judge backend.leastSquares algorithm
    (← (backend.run problem algorithm sketch.options).proposal)

/-- An attempt is a judged proposal for the problem that was posed. -/
theorem Sketch.attemptBy_eq_ok {sketch : Sketch} {backend : Backend} {request : Value}
    {attempt : Attempt} (attempted : sketch.attemptBy backend request = .ok attempt) :
    ∃ algorithm problem proposal, sketch.problem algorithm = .ok problem ∧
      (backend.run problem algorithm sketch.options).proposal = .ok proposal ∧
      sketch.judge backend.leastSquares algorithm proposal = .ok attempt := by
  obtain ⟨algorithm, -, rest⟩ := bind_eq_ok.mp attempted
  obtain ⟨problem, posed, rest⟩ := bind_eq_ok.mp rest
  obtain ⟨proposal, proposed, judged⟩ := bind_eq_ok.mp rest
  exact ⟨algorithm, problem, proposal, posed, proposed, judged⟩

namespace Session

/-- A solve keeps the attempt it comes to and changes nothing else but the journal. If it comes to
none, it is refused and changes nothing but the journal. -/
theorem outcome_solve (backend : Backend) (request : Value) (sketch : Sketch) :
    ∃ journal, (solve backend request).outcome sketch =
      match sketch.attemptBy backend request with
      | .ok attempt => (.ok attempt.status, { sketch with attempt := some attempt, journal })
      | .error fault => (.error fault, sketch.withJournal journal) := by
  unfold solve Sketch.attemptBy
  rw [outcome_get_bind]
  dsimp only
  obtain ⟨chosen, choice⟩ := outcome_effectiveAlgorithm request sketch
  rw [outcome_bind, choice]
  cases Algorithm.parseRequest request >>= sketch.algorithmFor with
  | error fault => exact ⟨chosen, rfl⟩
  | ok algorithm =>
  rw [ok_bind]
  dsimp only
  obtain ⟨started, begun⟩ := outcome_noteStart
    (if sketch.options.debugMode = .none then .debug else .info) algorithm backend.name
    (sketch.withJournal chosen)
  have same (journal : Journal) :
      (sketch.withJournal journal).problem algorithm = sketch.problem algorithm := rfl
  have again (journal later : Journal) :
      ((sketch.withJournal journal).withJournal later).problem algorithm =
        sketch.problem algorithm := rfl
  rw [outcome_bind, begun, same]
  cases posed : sketch.problem algorithm with
  | error fault => exact ⟨started, rfl⟩
  | ok problem =>
  rw [ok_bind]
  dsimp only [Except.map]
  rw [outcome_get_bind, outcome_liftM_bind, again, posed]
  dsimp only
  obtain ⟨searched, written⟩ := outcome_noteEvents
    (sketch.options.debugMode = .iteration) 1 (backend.run problem algorithm sketch.options).events
    ((sketch.withJournal chosen).withJournal started)
  rw [outcome_bind, written]
  dsimp only
  rw [outcome_get_bind, outcome_liftM_bind]
  cases (backend.run problem algorithm sketch.options).proposal with
  | error fault => exact ⟨searched, rfl⟩
  | ok proposal =>
  have judges (first second third : Journal) :
      (((sketch.withJournal first).withJournal second).withJournal third).judge
          backend.leastSquares algorithm proposal =
        sketch.judge backend.leastSquares algorithm proposal := rfl
  rw [ok_bind]
  dsimp only
  rw [outcome_liftM_bind, judges]
  cases sketch.judge backend.leastSquares algorithm proposal with
  | error fault => exact ⟨searched, rfl⟩
  | ok attempt =>
  dsimp only
  obtain ⟨recorded, noted⟩ := outcome_notes attempt.diagnosis.records
    (((sketch.withJournal chosen).withJournal started).withJournal searched)
  rw [outcome_bind, noted]
  dsimp only
  rw [outcome_modify_bind]
  exact outcome_noteOutcome_return
    (if sketch.options.debugMode = .none then .debug else .info) attempt.status
    (backend.run problem algorithm sketch.options).looks
    { sketch with attempt := some attempt, journal := recorded }

/-- A solve moves nothing in the store. -/
theorem store_outcome_solve (backend : Backend) (request : Value) (sketch : Sketch) :
    ((solve backend request).outcome sketch).2.store = sketch.store := by
  obtain ⟨journal, solved⟩ := outcome_solve backend request sketch
  rw [solved]
  cases sketch.attemptBy backend request <;> rfl

/-- Measuring and storing is refused where a constraint cannot be measured, or stores what was
measured, slot by slot. -/
theorem outcome_commitMeasurements_cases (vector : Array Float) (sketch : Sketch) :
    (∃ fault journal, (commitMeasurements vector).outcome sketch =
        (.error fault, sketch.withJournal journal) ∧
          ∃ c ∈ sketch.constraints, ¬ c.Measurable vector) ∨
      ∃ measured journal, (commitMeasurements vector).outcome sketch =
          (do
            measured.forM fun pair => commitMeasurement pair.1 pair.2
            return measured : Session _).outcome (sketch.withJournal journal) ∧
        (∀ c ∈ sketch.constraints, c.Measurable vector) ∧
        ∀ pair ∈ measured, ∃ c ∈ sketch.constraints, c.measuredSlot? = .ok (some pair.1) := by
  unfold commitMeasurements
  rw [outcome_bind]
  rcases outcome_measure_cases vector sketch with
    ⟨fault, journal, refused, fails⟩ | ⟨measured, journal, went, all, slots⟩
  · rw [refused]
    exact .inl ⟨fault, journal, rfl, fails⟩
  · rw [went]
    exact .inr ⟨measured, journal, rfl, all, slots⟩

/-- That a solution is stale is written. -/
theorem outcome_noteStale (sketch : Sketch) :
    ∃ journal, noteStale.outcome sketch = (.ok (), sketch.withJournal journal) := by
  unfold noteStale
  rw [outcome_get_bind]
  cases sketch.attempt with
  | none => exact ⟨sketch.journal, rfl⟩
  | some attempt =>
    by_cases stale : attempt.solution.isSome && attempt.generation ≠ sketch.store.generation
    · dsimp only
      rw [if_pos stale]
      exact ⟨_, rfl⟩
    · dsimp only
      rw [if_neg stale]
      exact ⟨sketch.journal, rfl⟩

/-- Applying is refused, or there is nothing to apply, or the solution is written and then
everything is measured. -/
theorem outcome_apply_cases (bestEffort : Value) (sketch : Sketch) :
    ∃ journal,
      (∃ fault, (apply bestEffort).outcome sketch = (.error fault, sketch.withJournal journal) ∧
        sketch.applicable? bestEffort = .error fault) ∨
      ((apply bestEffort).outcome sketch = (.ok false, sketch.withJournal journal) ∧
        sketch.applicable? bestEffort = .ok none) ∨
      ∃ slots values, sketch.applicable? bestEffort = .ok (some (slots, values)) ∧
        ((∃ fault, (apply bestEffort).outcome sketch = (.error fault, sketch.withJournal journal) ∧
            Store.checkRow slots values.length values = .error fault) ∨
          (apply bestEffort).outcome sketch = (do
              discard (commitMeasurements (sketch.written slots values).store.snapshot)
              return true : Session Bool).outcome
                ((sketch.written slots values).withJournal journal) ∧
            Store.checkRow slots values.length values = .ok ()) := by
  unfold apply
  obtain ⟨journal, noted⟩ := outcome_noteStale sketch
  refine ⟨journal, ?_⟩
  rw [outcome_bind, noted]
  dsimp only
  rw [outcome_get_bind, outcome_liftM_bind]
  have same : (sketch.withJournal journal).applicable? bestEffort =
    sketch.applicable? bestEffort := rfl
  rw [same]
  cases applicable : sketch.applicable? bestEffort with
  | error fault => exact .inl ⟨fault, rfl, rfl⟩
  | ok solution =>
    right
    cases solution with
    | none => exact .inl ⟨rfl, rfl⟩
    | some solution =>
      obtain ⟨slots, values⟩ := solution
      refine .inr ⟨slots, values, rfl, ?_⟩
      dsimp only
      rw [outcome_discard_bind, outcome_onStore]
      have assigned : (sketch.withJournal journal).store.assign slots values =
        (Store.checkRow slots values.length values >>= fun _ =>
          .ok (sketch.store.writeFreeAll (slots.zip values))) := rfl
      rw [assigned]
      cases checked : Store.checkRow slots values.length values with
      | error fault => exact .inl ⟨fault, rfl, rfl⟩
      | ok _ => exact .inr ⟨rfl, rfl⟩

end Session

end Drafting
