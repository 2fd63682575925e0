import Drafting.Proofs.ResidualDomains
import Drafting.Proofs.Scanning

/-!
# When a solve answers

A solve looks at the hard constraints at a few vectors: at the one that a backend proposes, at the
one that it diagnoses, which is that of the store unless the proposal is finite, and a step to both
sides of that one in each free slot. It answers a status, converged or not, exactly if every hard
constraint is in its domain at all of them and least squares find coefficients for every dependent
row. Otherwise it is refused and only the journal has changed.
-/

namespace Drafting

/-- How far a difference quotient steps from a value. -/
def stride (step center : Float) : Float := step * larger 1.0 center.abs

section Vectors

variable (vector : Array Float)

/-- Putting back what is in a slot changes nothing. -/
theorem setIfInBounds_getD (slot : Nat) :
    vector.setIfInBounds slot (vector.getD slot 0.0) = vector := by
  ext i before after
  · simp
  · rw [Array.getElem_setIfInBounds]
    split
    next same =>
      subst same
      simp [Array.getD, after]
    next => rfl

/-- The vectors a step to both sides in each free slot. -/
def probes (free : List Nat) (step : Float) : List (Array Float) :=
  free.flatMap fun slot =>
    let center := vector.getD slot 0.0
    [vector.setIfInBounds slot (center + stride step center),
      vector.setIfInBounds slot (center - stride step center)]

variable {vector}

/-- Scattering after a first slot. -/
theorem scatterEach_cons (slot : Nat) (slots : List Nat) (x : Float) (values : List Float) :
    scatterEach vector (slot :: slots) (x :: values) =
      scatterEach (vector.setIfInBounds slot x) slots values := rfl

/-- Scattering what was gathered changes nothing. -/
theorem scatterEach_gather (slots : List Nat) :
    scatterEach vector slots (gather vector slots) = vector := by
  induction slots with
  | nil => rfl
  | cons slot rest ih =>
    show scatterEach vector (slot :: rest) (vector.getD slot 0.0 :: gather vector rest) = vector
    rw [scatterEach_cons, setIfInBounds_getD, ih]

/-- What is gathered does not depend on other slots. -/
theorem gather_setIfInBounds {slot : Nat} {slots : List Nat} (apart : slot ∉ slots) (x : Float) :
    gather (vector.setIfInBounds slot x) slots = gather vector slots :=
  List.map_congr_left fun other there => by
    have different : slot ≠ other := fun same => apart (same ▸ there)
    rw [Array.getD_eq_getD_getElem?, Array.getD_eq_getD_getElem?,
      Array.getElem?_setIfInBounds_ne different]

/-- Scattering what was gathered, but for one value, changes the slot of that value only. -/
theorem scatterEach_gather_set {slots : List Nat} (distinct : slots.Nodup) {place : Nat}
    (inside : place < slots.length) (x : Float) :
    scatterEach vector slots ((gather vector slots).set place x) =
      vector.setIfInBounds slots[place] x := by
  induction slots generalizing place with
  | nil => cases inside
  | cons slot rest ih =>
    obtain ⟨apart, others⟩ := List.nodup_cons.mp distinct
    cases place with
    | zero =>
      show scatterEach vector (slot :: rest) (x :: gather vector rest) = _
      rw [scatterEach_cons, ← gather_setIfInBounds apart x, scatterEach_gather]
      rfl
    | succ place =>
      show scatterEach vector (slot :: rest)
        (vector.getD slot 0.0 :: (gather vector rest).set place x) = _
      rw [scatterEach_cons, setIfInBounds_getD, ih others (Nat.lt_of_succ_lt_succ inside)]
      rfl

end Vectors

section Scanning

variable {leastSquares : LeastSquares} {constraints : List Constraint} {full : Array Float}
  {free : List Nat} {options : SolveOptions}

/-- Difference quotients answer if the rows do, at the base and, if there are any, a step to both
sides in each place. -/
theorem answers_differenceQuotients {f : RowFunction} {x : List Float} {step : Float} :
    Answers (differenceQuotients f x step) ↔ ∃ base, f x = .ok base ∧
      (base ≠ [] → ∀ place < x.length,
        Answers (f (x.set place (x.getD place 0.0 + stride step (x.getD place 0.0)))) ∧
          Answers (f (x.set place (x.getD place 0.0 - stride step (x.getD place 0.0))))) := by
  have quotient (place : Nat) : Answers (differenceQuotient f x step place) ↔
      Answers (f (x.set place (x.getD place 0.0 + stride step (x.getD place 0.0)))) ∧
        Answers (f (x.set place (x.getD place 0.0 - stride step (x.getD place 0.0)))) :=
    answers_bind_bind_ok
  unfold differenceQuotients
  rw [answers_bind]
  refine exists_congr fun base => and_congr_right fun _ => ?_
  by_cases bare : base.isEmpty
  · rw [if_pos bare]
    exact ⟨fun _ rows => absurd (List.isEmpty_iff.mp bare) rows, fun _ => answers_ok _⟩
  · have rows : base ≠ [] := fun none => bare (List.isEmpty_iff.mpr none)
    rw [if_neg bare]
    simp only [← quotient, forall_prop_of_true rows, ← List.mem_range]
    exact answers_bind_ok.trans answers_mapM

/-- The rows at the gathered values are those at the vector. -/
theorem freeRows_gather : freeRows constraints full free (gather full free) =
    stackedRows constraints full := by
  have count : (gather full free).length = free.length := List.length_map ..
  have scattered : scatter full free (gather full free) = .ok full :=
    (if_pos count).trans (congrArg _ (scatterEach_gather free))
  unfold freeRows
  rw [scattered]
  rfl

/-- The rows at the gathered values, but for one, are those at the vector with that value in its
slot. -/
theorem freeRows_gather_set (distinct : free.Nodup) {place : Nat} (inside : place < free.length)
    (x : Float) : freeRows constraints full free ((gather full free).set place x) =
      stackedRows constraints (full.setIfInBounds free[place] x) := by
  have count : ((gather full free).set place x).length = free.length := by
    rw [List.length_set]
    exact List.length_map ..
  have scattered : scatter full free ((gather full free).set place x) =
      .ok (full.setIfInBounds free[place] x) :=
    (if_pos count).trans (congrArg _ (scatterEach_gather_set distinct inside x))
  unfold freeRows
  rw [scattered]
  rfl

/-- A scan answers if the rows do at the vector and, if there are any, at its probes. -/
theorem answers_scan (distinct : free.Nodup) :
    Answers (scan constraints full free options) ↔
      ∃ base, stackedRows constraints full = .ok base ∧
        (base ≠ [] → ∀ probe ∈ probes full free options.jacobianStep,
          Answers (stackedRows constraints probe)) := by
  refine answers_bind_ok.trans ?_
  rw [answers_differenceQuotients, freeRows_gather]
  refine exists_congr fun base => and_congr_right fun _ => imp_congr_right fun _ => ?_
  have count : (gather full free).length = free.length := List.length_map ..
  have value {place : Nat} (inside : place < free.length) :
      (gather full free).getD place 0.0 = full.getD free[place] 0.0 := by
    rw [List.getD_eq_getElem?_getD, List.getElem?_eq_getElem (count.symm ▸ inside)]
    exact List.getElem_map _
  rw [count]
  constructor
  · intro each probe there
    obtain ⟨slot, listed, among⟩ := List.mem_flatMap.mp there
    obtain ⟨place, inside, rfl⟩ := List.mem_iff_getElem.mp listed
    obtain ⟨ahead, behind⟩ := each place inside
    rw [freeRows_gather_set distinct inside, value inside] at ahead behind
    simp only [List.mem_cons, List.not_mem_nil, or_false] at among
    rcases among with rfl | rfl
    · exact ahead
    · exact behind
  · intro each place inside
    rw [freeRows_gather_set distinct inside, freeRows_gather_set distinct inside, value inside]
    have listed : free[place] ∈ free := List.getElem_mem inside
    exact ⟨each _ (List.mem_flatMap.mpr ⟨_, listed, by simp⟩),
      each _ (List.mem_flatMap.mpr ⟨_, listed, by simp⟩)⟩

/-- Rows can be expanded: each dependent one has coefficients in terms of the independent ones. -/
def Expandable (leastSquares : LeastSquares) (rows : List ScannedRow) : Prop :=
  ∀ row ∈ rows, ¬ row.isIndependent →
    Answers (expansion leastSquares (rows.filter ScannedRow.isIndependent) row.direction)

/-- The groups of the dependent rows are found exactly if the rows can be expanded. -/
theorem answers_dependentRows {rows : List ScannedRow} :
    Answers (dependentRows leastSquares rows) ↔ Expandable leastSquares rows := by
  have one (row : ScannedRow) :
      Answers (groupMembers leastSquares (rows.filter ScannedRow.isIndependent) row >>=
          fun members => .ok (DependentRow.mk row.owner members)) ↔
        Answers (expansion leastSquares (rows.filter ScannedRow.isIndependent) row.direction) :=
    answers_bind_ok.trans answers_bind_ok
  refine answers_mapM.trans ?_
  simp only [List.mem_filter, Bool.not_eq_true', ← Bool.not_eq_true, and_imp]
  exact forall₂_congr fun row _ => imp_congr_right fun _ => one row

/-- Least squares find coefficients wherever all entries are finite. -/
def LeastSquares.FindsFinite (leastSquares : LeastSquares) : Prop :=
  ∀ columns vector, (vector :: columns).all (·.all Float.isFinite) = true →
    (leastSquares columns vector).isSome

/-- The shortest combination is found wherever all entries are finite. -/
theorem findsFinite_shortestCombination : LeastSquares.FindsFinite shortestCombination := by
  intro columns vector finite
  rw [shortestCombination, if_pos finite]
  rfl

/-- Finite rows can be expanded if least squares find coefficients for what is finite. -/
theorem expandable_of_finite (finds : leastSquares.FindsFinite) {rows : List ScannedRow}
    (finite : ∀ row ∈ rows, row.direction.all Float.isFinite) : Expandable leastSquares rows := by
  intro row there _
  unfold expansion
  split
  · exact answers_ok _
  · have known : (row.direction :: (rows.filter ScannedRow.isIndependent).map
        (·.direction)).all (·.all Float.isFinite) = true := by
      rw [List.all_cons, Bool.and_eq_true, List.all_map]
      exact ⟨finite row there, List.all_eq_true.mpr fun other kept =>
        finite other (List.mem_of_mem_filter kept)⟩
    obtain ⟨coefficients, found⟩ := Option.isSome_iff_exists.mp (finds _ _ known)
    rw [found]
    exact answers_ok coefficients

/-- Constraints can be asked whether they hold if they have rows. -/
theorem answers_holdsWithin (tolerance : Float) :
    Answers (constraints.mapM fun c => c.holdsWithin full tolerance) ↔
      Answers (stackedRows constraints full) := by
  have one (c : Constraint) : Answers (c.holdsWithin full tolerance) ↔ Answers (c.rows full) :=
    answers_bind_ok
  rw [answers_mapM, answers_stackedRows]
  exact forall₂_congr fun c _ => one c

/-- A diagnosis answers if the rows of each constraint do, the scan does, and what it finds can be
expanded. -/
theorem answers_diagnose : Answers (diagnose leastSquares constraints full free options) ↔
    Answers (stackedRows constraints full) ∧
      ∃ rows, scan constraints full free options = .ok rows ∧ Expandable leastSquares rows := by
  unfold diagnose
  rw [answers_bind, ← answers_holdsWithin options.conflictTolerance]
  constructor
  · rintro ⟨holding, asked, rest⟩
    obtain ⟨directions, found, rest⟩ := answers_bind.mp rest
    obtain ⟨dependent, grouped, -⟩ := answers_bind.mp rest
    exact ⟨⟨holding, asked⟩, _, bind_eq_ok.mpr ⟨directions, found, rfl⟩,
      answers_dependentRows.mp ⟨dependent, grouped⟩⟩
  · rintro ⟨⟨holding, asked⟩, rows, scanned, expandable⟩
    obtain ⟨directions, found, same⟩ := bind_eq_ok.mp scanned
    cases same
    obtain ⟨dependent, grouped⟩ := answers_dependentRows.mpr expandable
    exact ⟨holding, asked, answers_bind.mpr ⟨directions, found,
      answers_bind.mpr ⟨dependent, grouped, answers_ok _⟩⟩⟩

end Scanning

/-- The flags of a constraint count as true or false. -/
structure Constraint.Flagged (c : Constraint) : Prop where
  driving : Answers c.modifiers.driving.truth
  temporary : Answers c.modifiers.temporary.truth

namespace Constraint.Flagged

variable {c : Constraint} (flagged : c.Flagged)

include flagged

/-- It is known whether the constraint is hard. -/
theorem answers_isHard : Answers c.isHard := by
  obtain ⟨drives, driving⟩ := flagged.driving
  obtain ⟨passes, temporary⟩ := flagged.temporary
  refine answers_bind.mpr ⟨drives, driving, ?_⟩
  cases drives with
  | true => exact answers_bind.mpr ⟨passes, temporary, answers_ok _⟩
  | false => exact answers_ok _

/-- It is known whether the constraint is a wish. -/
theorem answers_isWish : Answers c.isWish := by
  obtain ⟨drives, driving⟩ := flagged.driving
  refine answers_bind.mpr ⟨drives, driving, ?_⟩
  cases drives with
  | true => exact flagged.temporary
  | false => exact answers_ok _

end Constraint.Flagged

/-- A choice among the members of a list answers if the step for each of them does. -/
theorem answers_filterM {α : Type} {step : α → Except Fault Bool} {members : List α}
    (each : ∀ member ∈ members, Answers (step member)) : Answers (members.filterM step) :=
  ⟨_, filterM_eq_ok.mpr ⟨each, rfl⟩⟩

/-- So does the question whether there is one. -/
theorem answers_anyM {α : Type} {step : α → Except Fault Bool} {members : List α}
    (each : ∀ member ∈ members, Answers (step member)) : Answers (members.anyM step) := by
  induction members with
  | nil => exact answers_ok _
  | cons member rest ih =>
    obtain ⟨first, others⟩ := List.forall_mem_cons.mp each
    obtain ⟨answer, stepped⟩ := first
    refine answers_bind.mpr ⟨answer, stepped, ?_⟩
    cases answer with
    | true => exact answers_ok _
    | false => exact ih others

namespace Sketch

variable {sketch : Sketch}

/-- The algorithm and the problem of a solve. -/
def posed (sketch : Sketch) (request : Value) : Except Fault (Algorithm × Problem) := do
  let algorithm ← Algorithm.parseRequest request >>= sketch.algorithmFor
  .ok (algorithm, ← sketch.problem algorithm)

/-- A problem is posed for every algorithm that can be requested if the flags of all constraints
count as true or false. -/
theorem answers_posed (flagged : ∀ c ∈ sketch.constraints, c.Flagged) {request : Value}
    {requested : Algorithm} (named : Algorithm.parseRequest request = .ok requested) :
    Answers (sketch.posed request) := by
  obtain ⟨any, temporary⟩ : Answers sketch.hasTemporary :=
    answers_anyM fun c there => (flagged c there).temporary
  obtain ⟨hard, listed⟩ : Answers sketch.hard :=
    answers_filterM fun c there => (flagged c there).answers_isHard
  obtain ⟨wishes, wished⟩ : Answers sketch.wishes :=
    answers_filterM fun c there => (flagged c there).answers_isWish
  have heeds (algorithm : Algorithm) : Answers (sketch.heeded algorithm) := by
    unfold heeded
    split
    · exact ⟨wishes, wished⟩
    · exact answers_ok _
  have chooses : Answers (sketch.algorithmFor requested) := by
    refine answers_bind.mpr ⟨any, temporary, ?_⟩
    cases any <;> exact answers_ok _
  obtain ⟨algorithm, chosen⟩ := chooses
  obtain ⟨heeded, known⟩ := heeds algorithm
  refine answers_bind.mpr ⟨algorithm, bind_eq_ok.mpr ⟨requested, named, chosen⟩, ?_⟩
  exact answers_bind.mpr ⟨_, bind_eq_ok.mpr ⟨hard, listed, bind_eq_ok.mpr ⟨heeded, known, rfl⟩⟩,
    answers_ok _⟩

/-- The hard constraints of a problem that is posed are known. -/
theorem hard_of_posed {request : Value} {algorithm : Algorithm} {problem : Problem}
    (posed : sketch.posed request = .ok (algorithm, problem)) : Answers sketch.hard := by
  obtain ⟨_, _, rest⟩ := bind_eq_ok.mp posed
  obtain ⟨_, raised, _⟩ := bind_eq_ok.mp rest
  obtain ⟨hard, listed, -⟩ := bind_eq_ok.mp raised
  exact ⟨hard, listed⟩

/-- The attempt of a solve is the judged proposal for the problem that is posed. -/
theorem attemptBy_of_posed {backend : Backend} {request : Value} {algorithm : Algorithm}
    {problem : Problem} {proposal : Proposal}
    (posed : sketch.posed request = .ok (algorithm, problem))
    (proposed : (backend.run problem algorithm sketch.options).proposal = .ok proposal) :
    sketch.attemptBy backend request = sketch.judge backend.leastSquares algorithm proposal := by
  obtain ⟨chosen, found, rest⟩ := bind_eq_ok.mp posed
  obtain ⟨raised, built, same⟩ := bind_eq_ok.mp rest
  cases same
  unfold attemptBy
  rw [found, ok_bind, built, ok_bind, proposed, ok_bind]

/-- The vector with a proposal in the free slots. -/
def proposedAt (sketch : Sketch) (x : List Float) : Array Float :=
  scatterEach sketch.store.snapshot sketch.store.freeIndices x

/-- The vector at which a proposal is diagnosed: that of the store unless the proposal is finite. -/
def diagnosedAt (sketch : Sketch) (x : List Float) : Array Float :=
  if x.all Float.isFinite then sketch.proposedAt x else sketch.store.snapshot

/-- The vectors at which a solve looks at the hard constraints to judge a proposal. -/
def examined (sketch : Sketch) (x : List Float) : List (Array Float) :=
  sketch.proposedAt x :: sketch.diagnosedAt x ::
    probes (sketch.diagnosedAt x) sketch.store.freeIndices sketch.options.jacobianStep

/-- A proposal can be examined: each hard constraint is in its domain wherever it is looked at, and
the rows that are scanned can be expanded. -/
structure Examinable (sketch : Sketch) (leastSquares : LeastSquares) (hard : List Constraint)
    (x : List Float) : Prop where
  inDomain : ∀ vector ∈ sketch.examined x, ∀ c ∈ hard, c.InDomain vector
  expandable : ∀ rows, scan hard (sketch.diagnosedAt x) sketch.store.freeIndices sketch.options =
    .ok rows → Expandable leastSquares rows

/-- The attempt that a proposal with some rows and some diagnosis comes to. -/
def attemptOf (sketch : Sketch) (algorithm : Algorithm) (proposal : Proposal) (rows : List Float)
    (diagnosis : Diagnosis) : Attempt where
  status :=
    { converged := (maxAbs rows).isFinite && maxAbs rows ≤ sketch.options.convergence
      algorithm
      freedom := diagnosis.freedom
      conflicting := diagnosis.conflicting
      redundant := diagnosis.redundant
      partiallyRedundant := diagnosis.partiallyRedundant
      maxResidual := maxAbs rows
      iterations := proposal.iterations
      message := proposal.message }
  diagnosis := diagnosis
  free := sketch.store.freeIndices
  solution := if proposal.x.all Float.isFinite then some proposal.x else none
  generation := sketch.store.generation

/-- A proposal for each free slot is judged by the residual there and by the diagnosis. -/
theorem judge_eq {leastSquares : LeastSquares} {algorithm : Algorithm}
    {proposal : Proposal} {hard : List Constraint}
    (listed : sketch.hard = .ok hard)
    (count : proposal.x.length = sketch.store.freeIndices.length) :
    sketch.judge leastSquares algorithm proposal = (do
      let rows ← stackedRows hard (sketch.proposedAt proposal.x)
      let diagnosis ← diagnose leastSquares hard (sketch.diagnosedAt proposal.x)
        sketch.store.freeIndices sketch.options
      .ok (sketch.attemptOf algorithm proposal rows diagnosis)) := by
  have scattered : scatter sketch.store.snapshot sketch.store.freeIndices proposal.x =
    .ok (sketch.proposedAt proposal.x) := if_pos count
  have read : freeRows hard sketch.store.snapshot sketch.store.freeIndices proposal.x =
      stackedRows hard (sketch.proposedAt proposal.x) := by
    unfold freeRows
    rw [scattered]
    rfl
  have solved : (if proposal.x.all Float.isFinite then
      scatter sketch.store.snapshot sketch.store.freeIndices proposal.x
        else .ok sketch.store.snapshot) = .ok (sketch.diagnosedAt proposal.x) := by
    unfold diagnosedAt
    rw [scattered]
    split <;> rfl
  unfold judge
  rw [listed, ok_bind, read]
  dsimp only
  rw [solved]
  rfl

/-- A proposal for each free slot is judged if the residual answers there and the diagnosis does. -/
theorem answers_judge {leastSquares : LeastSquares} {algorithm : Algorithm}
    {proposal : Proposal} {hard : List Constraint}
    (listed : sketch.hard = .ok hard)
    (count : proposal.x.length = sketch.store.freeIndices.length) :
    Answers (sketch.judge leastSquares algorithm proposal) ↔
      Answers (stackedRows hard (sketch.proposedAt proposal.x)) ∧
        Answers (diagnose leastSquares hard (sketch.diagnosedAt proposal.x)
          sketch.store.freeIndices sketch.options) := by
  rw [judge_eq listed count]
  exact answers_bind_bind_ok

/-- Every vector that is examined has a slot for each slot of the store. -/
theorem size_of_mem_examined {x : List Float} {vector : Array Float}
    (looked : vector ∈ sketch.examined x) : vector.size = sketch.store.size := by
  have proposed : (sketch.proposedAt x).size = sketch.store.size :=
    (size_scatterEach ..).trans (Store.size_snapshot _)
  have diagnosed : (sketch.diagnosedAt x).size = sketch.store.size := by
    unfold diagnosedAt
    split
    · exact proposed
    · exact Store.size_snapshot _
  rcases List.mem_cons.mp looked with rfl | looked
  · exact proposed
  rcases List.mem_cons.mp looked with rfl | probed
  · exact diagnosed
  · obtain ⟨slot, -, among⟩ := List.mem_flatMap.mp probed
    simp only [List.mem_cons, List.not_mem_nil, or_false] at among
    rcases among with rfl | rfl <;> exact (Array.size_setIfInBounds ..).trans diagnosed

namespace Readable

variable (readable : sketch.Readable)

include readable

/-- Registered constraints without a row between them are none at all. -/
theorem eq_nil_of_stackedRows {constraints : List Constraint}
    (known : ∀ c ∈ constraints, c ∈ sketch.constraints) {vector : Array Float}
    (bare : stackedRows constraints vector = .ok []) : constraints = [] := by
  cases constraints with
  | nil => rfl
  | cons first rest =>
    obtain ⟨blocks, evaluated, joined⟩ := bind_eq_ok.mp bare
    obtain ⟨rows, among, here⟩ := exists_of_mapM evaluated List.mem_cons_self
    have none : rows = [] := List.flatten_eq_nil_iff.mp (Except.ok.inj joined) rows among
    have stated := readable.standard.relates first (known first List.mem_cons_self)
    exact absurd none (stated.rows_ne_nil here)

/-- A proposal for each free slot is judged exactly if it can be examined. -/
theorem answers_judge_iff {leastSquares : LeastSquares} {algorithm : Algorithm}
    {proposal : Proposal} {hard : List Constraint}
    (listed : sketch.hard = .ok hard)
    (count : proposal.x.length = sketch.store.freeIndices.length) :
    Answers (sketch.judge leastSquares algorithm proposal) ↔
      sketch.Examinable leastSquares hard proposal.x := by
  have known : ∀ c ∈ hard, c ∈ sketch.constraints := fun c there => (mem_hard listed there).1
  have distinct : sketch.store.freeIndices.Nodup := List.nodup_range.filter _
  have domain {vector : Array Float} (looked : vector ∈ sketch.examined proposal.x) :
      Answers (stackedRows hard vector) ↔ ∀ c ∈ hard, c.InDomain vector :=
    readable.answers_stackedRows_iff (size_of_mem_examined looked) known
  rw [answers_judge listed count, answers_diagnose]
  constructor
  · rintro ⟨proposed, diagnosed, rows, scanned, expandable⟩
    refine ⟨fun vector looked => ?_, fun found again => ?_⟩
    · rcases List.mem_cons.mp looked with rfl | later
      · exact (domain looked).mp proposed
      rcases List.mem_cons.mp later with rfl | probed
      · exact (domain looked).mp diagnosed
      -- Without rows there are no constraints, and so none outside its domain.
      obtain ⟨base, stacked, probes⟩ := (answers_scan distinct).mp ⟨rows, scanned⟩
      by_cases bare : base = []
      · rw [bare] at stacked
        rw [readable.eq_nil_of_stackedRows known stacked]
        exact List.forall_mem_nil _
      · exact (domain looked).mp (probes bare vector probed)
    · rw [scanned] at again
      exact Except.ok.inj again ▸ expandable
  · rintro ⟨inDomain, expandable⟩
    have looks (vector : Array Float) (looked : vector ∈ sketch.examined proposal.x) :
        Answers (stackedRows hard vector) := (domain looked).mpr (inDomain vector looked)
    have diagnosed := looks _ (List.mem_cons_of_mem _ List.mem_cons_self)
    obtain ⟨base, stacked⟩ := diagnosed
    obtain ⟨rows, scanned⟩ := (answers_scan distinct).mpr ⟨base, stacked, fun _ probe there =>
      looks probe (List.mem_cons_of_mem _ (List.mem_cons_of_mem _ there))⟩
    exact ⟨looks _ List.mem_cons_self, ⟨base, stacked⟩, rows, scanned, expandable rows scanned⟩

end Readable

end Sketch

/-- A solve answers a status exactly if it comes to an attempt. -/
theorem Session.solve_ok_iff (backend : Backend) (request : Value) (sketch : Sketch) :
    (∃ status solved, (solve backend request).outcome sketch = (.ok status, solved)) ↔
      Answers (sketch.attemptBy backend request) := by
  obtain ⟨journal, outcome⟩ := outcome_solve backend request sketch
  rw [outcome]
  constructor
  · rintro ⟨status, solved, answered⟩
    cases attempted : sketch.attemptBy backend request with
    | ok attempt => exact answers_ok attempt
    | error fault =>
      rw [attempted] at answered
      cases answered
  · rintro ⟨attempt, attempted⟩
    rw [attempted]
    exact ⟨_, _, rfl⟩

/-- A solve that is refused changes nothing but the journal. -/
theorem Session.solve_refused {backend : Backend} {request : Value} {sketch left : Sketch}
    {fault : Fault} (refused : (solve backend request).outcome sketch = (.error fault, left)) :
    ∃ journal, left = sketch.withJournal journal := by
  obtain ⟨journal, outcome⟩ := outcome_solve backend request sketch
  rw [outcome] at refused
  cases attempted : sketch.attemptBy backend request with
  | ok attempt =>
    rw [attempted] at refused
    cases refused
  | error other =>
    rw [attempted] at refused
    cases refused
    exact ⟨journal, rfl⟩

/-- A sketch is built of built-in kinds and views of points, and a backend proposes a value for each
free slot whenever a problem is posed to it. A problem is posed for every algorithm that can be
requested, unless a flag of a constraint counts neither as true nor as false. Then the solve answers
a status exactly if the proposal can be examined; otherwise it is refused and only the journal has
changed. Only a constraint of a delicate kind can be outside its domain. -/
theorem solve_answers_iff {sketch : Sketch} (reached : sketch.Reached .pointed) (backend : Backend)
    (request : Value)
    (proposes : ∀ algorithm problem, sketch.posed request = .ok (algorithm, problem) →
      ∃ proposal, (backend.run problem algorithm sketch.options).proposal = .ok proposal ∧
        proposal.x.length = sketch.store.freeIndices.length) :
    (∀ requested, Algorithm.parseRequest request = .ok requested →
      (∀ c ∈ sketch.constraints, c.Flagged) → Answers (sketch.posed request)) ∧
    (∀ algorithm problem, sketch.posed request = .ok (algorithm, problem) →
      ∃ proposal hard, (backend.run problem algorithm sketch.options).proposal = .ok proposal ∧
        sketch.hard = .ok hard ∧
        ((∃ status solved,
            (Session.solve backend request).outcome sketch = (.ok status, solved)) ↔
          sketch.Examinable backend.leastSquares hard proposal.x)) ∧
    (∀ fault left, (Session.solve backend request).outcome sketch = (.error fault, left) →
      ∃ journal, left = sketch.withJournal journal) ∧
    ∀ c ∈ sketch.constraints, ∀ vector, ¬ c.InDomain vector →
      ∃ kind ∈ BuiltinKind.delicate, c.kind = kind.name := by
  have readable := reached.readable
  refine ⟨fun requested named flagged => Sketch.answers_posed flagged named,
    fun algorithm problem posed => ?_, fun fault left refused => Session.solve_refused refused,
    fun c registered vector outside => readable.delicate_of_not_inDomain registered outside⟩
  obtain ⟨proposal, proposed, count⟩ := proposes algorithm problem posed
  obtain ⟨hard, listed⟩ := Sketch.hard_of_posed posed
  refine ⟨proposal, hard, proposed, listed, ?_⟩
  rw [Session.solve_ok_iff, Sketch.attemptBy_of_posed posed proposed]
  exact readable.answers_judge_iff listed count

/-- A parameter that is to be one, said twice, and another that nothing is said about. -/
def pinnedTwice : Sketch :=
  (Sketch.start 0 .standard .silent).afterAll
    [.addParameter (.text "a") (.float 0.0) (.bool false) (.int 0),
      .addParameter (.text "b") (.float 0.0) (.bool false) (.int 0),
      .addConstraint (.text "equal") [.text "a", .float 1.0] (.bool true) (.bool false)
        (.float 1.0) (.int 0),
      .addConstraint (.text "equal") [.text "a", .float 1.0] (.bool true) (.bool false)
        (.float 1.0) (.int 0)]

/-- The sketch of the two parameters is built of built-in kinds. -/
theorem reached_pinnedTwice : pinnedTwice.Reached .pointed := by
  refine ⟨0, .standard, .silent, _, fun request there => ?_, rfl⟩
  simp only [List.mem_cons, List.not_mem_nil, or_false] at there
  rcases there with rfl | rfl | rfl | rfl
  · trivial
  · trivial
  · exact ⟨⟨.equal, rfl⟩, by simp [Scope.pointed]⟩
  · exact ⟨⟨.equal, rfl⟩, by simp [Scope.pointed]⟩

/-- The backend that proposes one for the first parameter and no number for the second. -/
def careless : Backend :=
  ⟨"careless", fun _ _ _ => ⟨[], .ok ⟨[1.0, 0.0 / 0.0], 1, ""⟩⟩, shortestCombination⟩

/-- The two parameters are solved although the proposal is not finite. -/
theorem solve_answers_pinnedTwice : ∃ status solved,
    (Session.solve careless (.text "dogleg")).outcome pinnedTwice = (.ok status, solved) := by
  have free : pinnedTwice.store.freeIndices = [0, 1] := by decide +kernel
  have kinds : ∀ c ∈ pinnedTwice.constraints, c.kind = "equal" := by decide +kernel
  have finite : ((pinnedTwice.hard >>= fun hard =>
      scan hard (pinnedTwice.diagnosedAt [1.0, 0.0 / 0.0]) pinnedTwice.store.freeIndices
        pinnedTwice.options).toOption.all fun rows =>
          rows.all (·.direction.all Float.isFinite)) = true := by decide +kernel
  have posed : (pinnedTwice.posed (.text "dogleg")).toOption.isSome = true := by decide +kernel
  obtain ⟨-, answers, -, delicate⟩ :=
    solve_answers_iff reached_pinnedTwice careless (.text "dogleg")
      (fun _ _ _ => ⟨_, rfl, by rw [free]; rfl⟩)
  cases found : pinnedTwice.posed (.text "dogleg") with
  | error fault =>
    rw [found] at posed
    cases posed
  | ok pair =>
  obtain ⟨proposal, hard, ⟨⟩, listed, iff⟩ := answers pair.1 pair.2 found
  refine iff.mpr ⟨fun vector _ c there => by_contra fun outside => ?_, fun rows scanned => ?_⟩
  · have registered := (Sketch.mem_hard listed there).1
    obtain ⟨kind, among, named⟩ := delicate c registered vector outside
    rw [kinds c registered] at named
    revert kind
    decide
  · rw [listed, ok_bind, scanned] at finite
    exact expandable_of_finite findsFinite_shortestCombination (List.all_eq_true.mp finite)

end Drafting
