import Drafting.Proofs.SolveAnswers
import Drafting.Proofs.Classification
import Drafting.Proofs.Ordering

/-!
# What a converged status says

A solve converges by the residual at the proposal, whether or not the proposal is finite. If it is,
the diagnosis is made and the solution kept at the very same vector: every row there is within the
tolerance of convergence, no constraint is in conflict if that is the finer tolerance, and applying
succeeds wherever all constraints can be measured. If it is not, the diagnosis is made at the values
of the store, no solution is kept, and applying does nothing.
-/

namespace Drafting

section Diagnosing

variable {leastSquares : LeastSquares} {constraints : List Constraint} {full : Array Float}
  {free : List Nat} {options : SolveOptions}

/-- The rows of a constraint are among those of all. -/
theorem mem_of_mem_rows {vector : Array Float} {all rows : List Float} {c : Constraint}
    (stacked : stackedRows constraints vector = .ok all) (there : c ∈ constraints)
    (evaluated : c.rows vector = .ok rows) {row : Float} (among : row ∈ rows) : row ∈ all := by
  obtain ⟨blocks, found, joined⟩ := bind_eq_ok.mp stacked
  obtain ⟨block, listed, here⟩ := exists_of_mapM found there
  cases joined
  obtain rfl : rows = block := Except.ok.inj (evaluated.symm.trans here)
  exact List.mem_flatten.mpr ⟨rows, listed, among⟩

/-- If the largest magnitude of the residual is within a tolerance, no constraint misses it. -/
theorem not_misses_of_maxAbs_le {vector : Array Float} {all : List Float} {tolerance : Float}
    (stacked : stackedRows constraints vector = .ok all) (small : maxAbs all ≤ tolerance) :
    ∀ c ∈ constraints, ¬ c.Misses vector tolerance := by
  rintro c there ⟨rows, evaluated, row, among, great⟩
  have largest : row.abs ≤ maxAbs all :=
    abs_le_maxAbs (isNaN_of_le small).1 (mem_of_mem_rows stacked there evaluated among)
  exact great (float_le_trans largest small)

/-- A diagnosis finds no conflict where no constraint misses the tolerance. -/
theorem diagnose_peaceful {d : Diagnosis}
    (diagnosed : diagnose leastSquares constraints full free options = .ok d)
    (holds : ∀ c ∈ constraints, ¬ c.Misses full options.conflictTolerance) :
    d.conflictingIds = [] ∧ d.conflicting = [] := by
  obtain ⟨residual, rows, broken, dependent, -, -, breaks, grouped, rfl⟩ :=
    diagnose_eq_classify diagnosed
  have nowhere (id : Nat) : id ∉ (classify constraints broken
      (rows.filter (·.isIndependent)).length free.length dependent).conflictingIds := by
    intro named
    obtain ⟨group, -, -, m, listed, -, missed⟩ := (conflicting_classify breaks id).mp named
    exact holds m listed missed
  refine ⟨List.eq_nil_iff_forall_not_mem.mpr nowhere,
    List.eq_nil_iff_forall_not_mem.mpr fun tag present => ?_⟩
  obtain ⟨c, -, named, -⟩ := (areTagsOf_tagsOf _ _ tag).mp present
  exact nowhere c.id named

end Diagnosing

namespace Session

variable {sketch solved : Sketch}

/-- What a solve that answers keeps: the judged proposal for the problem that was posed. -/
theorem outcome_solve_posed {backend : Backend} {request : Value} {status : SolveStatus}
    (proposes : ∀ algorithm problem proposal, sketch.posed request = .ok (algorithm, problem) →
      (backend.run problem algorithm sketch.options).proposal = .ok proposal →
        proposal.x.length = sketch.store.freeIndices.length)
    (answered : (solve backend request).outcome sketch = (.ok status, solved)) :
    ∃ algorithm problem proposal hard rows diagnosis journal,
      sketch.posed request = .ok (algorithm, problem) ∧
      (backend.run problem algorithm sketch.options).proposal = .ok proposal ∧
      proposal.x.length = sketch.store.freeIndices.length ∧ sketch.hard = .ok hard ∧
      stackedRows hard (sketch.proposedAt proposal.x) = .ok rows ∧
      diagnose backend.leastSquares hard (sketch.diagnosedAt proposal.x) sketch.store.freeIndices
        sketch.options = .ok diagnosis ∧
      status = (sketch.attemptOf algorithm proposal rows diagnosis).status ∧
      solved =
        { sketch with
          attempt := some (sketch.attemptOf algorithm proposal rows diagnosis), journal } := by
  obtain ⟨attempt, attempted⟩ := (solve_ok_iff backend request sketch).mp ⟨_, _, answered⟩
  obtain ⟨algorithm, chosen, rest⟩ := bind_eq_ok.mp attempted
  obtain ⟨problem, raised, rest⟩ := bind_eq_ok.mp rest
  obtain ⟨proposal, proposed, judged⟩ := bind_eq_ok.mp rest
  have posed : sketch.posed request = .ok (algorithm, problem) :=
    bind_eq_ok.mpr ⟨algorithm, chosen, bind_eq_ok.mpr ⟨problem, raised, rfl⟩⟩
  have count := proposes algorithm problem proposal posed proposed
  obtain ⟨hard, listed⟩ := Sketch.hard_of_posed posed
  rw [Sketch.judge_eq listed count] at judged
  obtain ⟨rows, stacked, rest⟩ := bind_eq_ok.mp judged
  obtain ⟨diagnosis, diagnosed, kept⟩ := bind_eq_ok.mp rest
  obtain ⟨journal, outcome⟩ := outcome_solve backend request sketch
  rw [outcome, attempted] at answered
  cases answered
  cases kept
  exact ⟨algorithm, problem, proposal, hard, rows, diagnosis, journal, posed, proposed, count,
    listed, stacked, diagnosed, rfl, rfl⟩

/-- Without a solution applying answers no, and only the journal changes. -/
theorem outcome_apply_nothing {attempt : Attempt} (bestEffort : Value)
    (kept : sketch.attempt = some attempt) (nothing : attempt.solution = none) :
    ∃ journal, (apply bestEffort).outcome sketch = (.ok false, sketch.withJournal journal) := by
  have pending : sketch.applicable? bestEffort = .ok none := by
    unfold Sketch.applicable?
    rw [kept]
    dsimp only
    rw [nothing]
    rfl
  obtain ⟨journal, ⟨fault, -, impossible⟩ | ⟨answered, -⟩ | ⟨slots, values, impossible, -⟩⟩ :=
    outcome_apply_cases bestEffort sketch
  · rw [pending] at impossible
    cases impossible
  · exact ⟨journal, answered⟩
  · rw [pending] at impossible
    cases impossible

/-- Applying a solution for all free slots answers yes if every constraint can be measured at it,
and else is refused with the solution written. -/
theorem outcome_apply_solution (own : sketch.MeasuresOwn) (sound : sketch.Sound)
    {bestEffort : Value} {x : List Float}
    (pending : sketch.applicable? bestEffort = .ok (some (sketch.store.freeIndices, x)))
    (finite : x.all Float.isFinite) (count : x.length = sketch.store.freeIndices.length) :
    ((∀ c ∈ sketch.constraints, c.Measurable (sketch.proposedAt x)) →
      ∃ applied, (apply bestEffort).outcome sketch = (.ok true, applied)) ∧
    ((∃ c ∈ sketch.constraints, ¬ c.Measurable (sketch.proposedAt x)) →
      ∃ fault left, (apply bestEffort).outcome sketch = (.error fault, left) ∧
        left.store.snapshot = sketch.proposedAt x) := by
  have fits : Store.checkRow sketch.store.freeIndices x.length x = .ok () := by
    unfold Store.checkRow
    rw [if_neg (not_not.mpr count), if_pos finite]
  obtain ⟨journal, applied⟩ := outcome_apply own sound bestEffort
  rw [pending] at applied
  dsimp only at applied
  rw [fits] at applied
  dsimp only at applied
  rw [applied]
  have written : (sketch.written sketch.store.freeIndices x).store.snapshot =
    sketch.proposedAt x := sketch.snapshot_written x
  constructor
  · intro all
    obtain ⟨measured, found⟩ := measurements_ok_iff.mpr (written ▸ all)
    rw [found]
    exact ⟨_, rfl⟩
  · rintro ⟨c, registered, fails⟩
    cases found : measurements (sketch.written sketch.store.freeIndices x).store.snapshot
        sketch.constraints with
    | ok measured =>
      have all := measurements_ok_iff.mp ⟨measured, found⟩ c registered
      exact absurd (written ▸ all) fails
    | error fault => exact ⟨fault, _, rfl, written⟩

end Session

/-- A sketch is built of built-in kinds and views of points, its tolerance of convergence is at most
that of conflicts, and it is solved by a backend that proposes one value for each free slot. Let the
solve have converged. If the proposal is finite, nothing conflicts; applying answers yes if every
constraint can be measured at the proposal, and else is refused with the proposal in the store,
which only what measures an angle can cause. If the proposal is not finite, the diagnosis was made
at the values of the store, and applying answers no and changes nothing but the journal. -/
theorem converged_status_consistent {sketch solved : Sketch} (reached : sketch.Reached .pointed)
    (ordered : sketch.options.convergence ≤ sketch.options.conflictTolerance) (backend : Backend)
    (request bestEffort : Value)
    (proposes : ∀ algorithm problem proposal, sketch.posed request = .ok (algorithm, problem) →
      (backend.run problem algorithm sketch.options).proposal = .ok proposal →
        proposal.x.length = sketch.store.freeIndices.length)
    {status : SolveStatus}
    (answered : (Session.solve backend request).outcome sketch = (.ok status, solved))
    (converged : status.converged) :
    ∃ algorithm problem proposal, sketch.posed request = .ok (algorithm, problem) ∧
      (backend.run problem algorithm sketch.options).proposal = .ok proposal ∧
      (proposal.x.all Float.isFinite →
        status.conflicting = [] ∧ solved.diagnosis.conflictingIds = [] ∧
        ((∀ c ∈ solved.constraints, c.Measurable (sketch.proposedAt proposal.x)) →
          ∃ applied, (Session.apply bestEffort).outcome solved = (.ok true, applied)) ∧
        ((∃ c ∈ solved.constraints, ¬ c.Measurable (sketch.proposedAt proposal.x)) →
          ∃ fault left, (Session.apply bestEffort).outcome solved = (.error fault, left) ∧
            left.store.snapshot = sketch.proposedAt proposal.x) ∧
        ∀ c ∈ solved.constraints, ¬ c.Measurable (sketch.proposedAt proposal.x) →
          c.kind = BuiltinKind.pointAngle.name ∨ c.kind = BuiltinKind.lineAngle.name) ∧
      (¬ proposal.x.all Float.isFinite →
        (∃ hard, sketch.hard = .ok hard ∧
          diagnose backend.leastSquares hard sketch.store.snapshot sketch.store.freeIndices
            sketch.options = .ok solved.diagnosis) ∧
        ∃ journal, (Session.apply bestEffort).outcome solved =
          (.ok false, solved.withJournal journal)) := by
  obtain ⟨algorithm, problem, proposal, hard, rows, diagnosis, journal, posed, proposed, count,
    listed, stacked, diagnosed, rfl, rfl⟩ := Session.outcome_solve_posed proposes answered
  have readable := reached.readable
  refine ⟨algorithm, problem, proposal, posed, proposed, fun finite => ?_, fun infinite => ?_⟩
  · have small : maxAbs rows ≤ sketch.options.convergence := by
      have both := (Bool.and_eq_true ..).mp converged
      exact of_decide_eq_true both.2
    have holds := not_misses_of_maxAbs_le stacked (float_le_trans small ordered)
    have same : sketch.diagnosedAt proposal.x = sketch.proposedAt proposal.x := if_pos finite
    rw [same] at diagnosed
    obtain ⟨ids, tags⟩ := diagnose_peaceful diagnosed holds
    have kept : (sketch.attemptOf algorithm proposal rows diagnosis).solution = some proposal.x :=
      if_pos finite
    have pending := @Sketch.applicable?_of_converged
      { sketch with
        attempt := some (sketch.attemptOf algorithm proposal rows diagnosis), journal }
      _ proposal.x bestEffort rfl kept rfl converged
    obtain ⟨succeeds, fails⟩ := @Session.outcome_apply_solution
      { sketch with
        attempt := some (sketch.attemptOf algorithm proposal rows diagnosis), journal }
      readable.own (readable.sound.mono (Nat.le_refl _) (.refl _) (.refl _) rfl) bestEffort
      proposal.x pending finite count
    refine ⟨tags, ids, succeeds, fails, fun c registered unmeasured => ?_⟩
    by_contra plain
    obtain ⟨drives, known⟩ := Sketch.drives_of_hard listed registered
    have size : (sketch.proposedAt proposal.x).size = sketch.store.size :=
      Sketch.size_of_mem_examined List.mem_cons_self
    exact unmeasured (readable.standard.measurable readable.sound registered
      (readable.own c registered) known size (not_or.mp plain))
  · have same : sketch.diagnosedAt proposal.x = sketch.store.snapshot := if_neg infinite
    rw [same] at diagnosed
    exact ⟨⟨hard, listed, diagnosed⟩,
      Session.outcome_apply_nothing bestEffort rfl (if_neg infinite)⟩

/-- The backend that proposes one for the first parameter and zero for the second. -/
def careful : Backend :=
  ⟨"careful", fun _ _ _ => ⟨[], .ok ⟨[1.0, 0.0], 1, ""⟩⟩, shortestCombination⟩

/-- The two parameters converge, without a conflict and to be applied. -/
theorem converged_status_consistent_pinnedTwice : ∃ status solved applied,
    (Session.solve careful (.text "dogleg")).outcome pinnedTwice = (.ok status, solved) ∧
      status.converged ∧ status.conflicting = [] ∧
      (Session.apply (.bool false)).outcome solved = (.ok true, applied) := by
  have free : pinnedTwice.store.freeIndices = [0, 1] := by decide +kernel
  have found : (pinnedTwice.attemptBy careful (.text "dogleg")).toOption.map
      (fun attempt => attempt.status.converged) = some true := by decide +kernel
  have measurable : ∀ c ∈ pinnedTwice.constraints,
      c.Measurable (pinnedTwice.proposedAt [1.0, 0.0]) := by decide +kernel
  obtain ⟨journal, outcome⟩ := Session.outcome_solve careful (.text "dogleg") pinnedTwice
  cases attempted : pinnedTwice.attemptBy careful (.text "dogleg") with
  | error fault =>
    rw [attempted] at found
    cases found
  | ok attempt =>
  rw [attempted] at found outcome
  have converged := Option.some.inj found
  obtain ⟨_, _, proposal, -, proposed, agrees, -⟩ :=
    converged_status_consistent reached_pinnedTwice (by decide +kernel) careful (.text "dogleg")
      (.bool false)
      (fun _ _ _ _ given => by
        cases given
        rw [free]
        rfl) outcome converged
  cases proposed
  obtain ⟨peaceful, -, succeeds, -⟩ := agrees (by decide +kernel)
  obtain ⟨applied, done⟩ := succeeds measurable
  exact ⟨_, _, applied, outcome, converged, peaceful, done⟩

-- A value that no constraint reads keeps the solution from being stored, not from converging.
example : (pinnedTwice.attemptBy careless (.text "dogleg")).toOption.map (fun attempt =>
    (attempt.status.converged, attempt.solution)) = some (true, none) := by decide +kernel

end Drafting
