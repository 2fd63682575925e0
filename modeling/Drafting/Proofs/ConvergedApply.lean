import Drafting.Proofs.Kinds
import Mathlib.Data.List.Pairwise

/-!
# Applying what converged

A solve that converged was judged at the vector which applying then writes, slot by slot. What is
measured afterwards goes into slots that no hard constraint reads, as long as operands are given by
reference, so the residual stays the one that was judged. Applying is refused only where a
constraint cannot be measured at that vector, and only an angle may be such that it cannot.
-/

namespace Drafting

/-- A slot is read alike from vectors that agree there. -/
theorem slotsOf_congr {α : Type} {vector other : Array α} {slot : Int}
    (size : vector.size = other.size) (positive : 0 ≤ slot)
    (same : vector[slot.toNat]? = other[slot.toNat]?) :
    slotsOf vector slot = slotsOf other slot := by
  unfold slotsOf
  rw [if_neg (Int.not_lt.mpr positive), if_neg (Int.not_lt.mpr positive)]
  dsimp only
  rw [same, size]

/-- The value in a slot of a parameter vector; zero where there is no such slot. -/
def valueAt (vector : Array Float) (slot : Int) : Float := vector.getD slot.toNat 0.0

/-- A slot that exists is read as its value. -/
theorem slotsOf_eq_valueAt {vector : Array Float} {slot : Int}
    (existing : InStore vector.size slot) : slotsOf vector slot = .ok (valueAt vector slot) := by
  have inside : slot.toNat < vector.size := (Int.toNat_lt existing.1).mpr existing.2
  unfold slotsOf valueAt
  rw [if_neg (Int.not_lt.mpr existing.1), Array.getD_eq_getD_getElem?]
  dsimp only
  rw [Array.getElem?_eq_getElem inside]
  exact if_pos existing.1

/-- A slot that exists can be read. -/
theorem slotsOf_ok {α : Type} {vector : Array α} {slot : Int}
    (existing : InStore vector.size slot) : ∃ x, slotsOf vector slot = .ok x := by
  have inside : slot.toNat < vector.size := (Int.toNat_lt existing.1).mpr existing.2
  unfold slotsOf
  rw [if_neg (Int.not_lt.mpr existing.1)]
  dsimp only
  rw [Array.getElem?_eq_getElem inside]
  exact ⟨_, if_pos existing.1⟩

/-- What a constraint that states a relation builds depends on the slots of its operands only. -/
theorem Constraint.Relates.block_congr {c : Constraint} (relates : c.Relates)
    {vector other : Array Float} (agree : ∀ operand ∈ c.operands, ∀ slot ∈ operand.slots,
      slotsOf vector slot = slotsOf other slot) :
    c.block (slotsOf vector) = c.block (slotsOf other) := by
  obtain ⟨kind, relation, -, stated, block, -⟩ := relates
  rw [block]
  exact BuiltinKind.block_congr stated agree

/-- The rows of a constraint that states a relation depend on the slots of its operands only. -/
theorem Constraint.Relates.rows_congr {c : Constraint} (relates : c.Relates)
    {vector other : Array Float} (agree : ∀ operand ∈ c.operands, ∀ slot ∈ operand.slots,
      slotsOf vector slot = slotsOf other slot) : c.rows vector = c.rows other := by
  unfold Constraint.rows
  rw [relates.block_congr agree]

/-- A constraint that states a relation can be measured at a vector with a slot for all that it
reads and measures, unless it measures an angle. -/
theorem Constraint.Relates.measurable {c : Constraint} (relates : c.Relates) {drives : Bool}
    (known : c.modifiers.driving.truth = .ok drives) {vector : Array Float}
    (inside : ∀ slot, c.valueSlot = some slot → slot < vector.size)
    (existing : ∀ operand ∈ c.operands, ∀ index ∈ operand.slots, InStore vector.size index)
    (pointed : ∀ operand ∈ c.operands, operand.Pointed)
    (plain : c.kind ≠ BuiltinKind.pointAngle.name ∧ c.kind ≠ BuiltinKind.lineAngle.name) :
    c.Measurable vector := by
  obtain ⟨kind, relation, name, stated, block, placed⟩ := relates
  rw [name] at plain
  refine measurable_of_reading known inside fun slot _ measures value => ?_
  have amount := BuiltinKind.relation?_statesAmount stated (placed slot measures)
    ⟨fun same => plain.1 (congrArg _ same), fun same => plain.2 (congrArg _ same)⟩ pointed
  have readable : ∀ index ∈ relation.reads,
      ∃ x, slotsOf (vector.setIfInBounds slot value) index = .ok x := by
    intro index read
    obtain ⟨operand, given, among⟩ :=
      List.mem_flatMap.mp (BuiltinKind.relation?_subset stated read)
    refine slotsOf_ok ?_
    rw [Array.size_setIfInBounds]
    exact existing operand given index among
  obtain ⟨x, row⟩ := Relation.rows_of_statesAmount amount readable
  refine ⟨x, ?_⟩
  unfold readingOf reading
  rw [block]
  unfold Relation.block
  rw [row]
  rfl

/-- The rows of several constraints agree where those of each do. -/
theorem stackedRows_congr {constraints : List Constraint} {vector other : Array Float}
    (agree : ∀ c ∈ constraints, c.rows vector = c.rows other) :
    stackedRows constraints vector = stackedRows constraints other := by
  unfold stackedRows
  rw [mapM_congr agree]

/-- A hard constraint drives. -/
theorem Constraint.drives_of_isHard {c : Constraint} (hard : c.isHard = .ok true) :
    c.modifiers.driving.truth = .ok true := by
  obtain ⟨drives, asked, rest⟩ := bind_eq_ok.mp hard
  cases drives with
  | true => exact asked
  | false => cases rest

namespace Sketch

variable {sketch : Sketch}

/-- A hard constraint is registered and hard. -/
theorem mem_hard {hard : List Constraint} {c : Constraint} (listed : sketch.hard = .ok hard)
    (there : c ∈ hard) : c ∈ sketch.constraints ∧ c.isHard = .ok true := by
  obtain ⟨known, rfl⟩ := filterM_eq_ok.mp listed
  obtain ⟨registered, yes⟩ := List.mem_filter.mp there
  obtain ⟨answer, asked⟩ := known c registered
  rw [asked] at yes ⊢
  exact ⟨registered, congrArg _ yes⟩

/-- If the hard constraints are known, it is known of every constraint whether it drives. -/
theorem drives_of_hard {hard : List Constraint} (listed : sketch.hard = .ok hard) {c : Constraint}
    (registered : c ∈ sketch.constraints) : ∃ drives, c.modifiers.driving.truth = .ok drives := by
  obtain ⟨answer, asked⟩ := (filterM_eq_ok.mp listed).1 c registered
  obtain ⟨drives, known, -⟩ := bind_eq_ok.mp asked
  exact ⟨drives, known⟩

/-- What a judged attempt says about the sketch it was judged on. -/
theorem judge_eq_ok {leastSquares : LeastSquares} {algorithm : Algorithm} {proposal : Proposal}
    {attempt : Attempt} (judged : sketch.judge leastSquares algorithm proposal = .ok attempt) :
    ∃ hard rows, sketch.hard = .ok hard ∧
      freeRows hard sketch.store.snapshot sketch.store.freeIndices proposal.x = .ok rows ∧
      attempt.status.maxResidual = maxAbs rows ∧
      attempt.status.converged = (attempt.status.maxResidual.isFinite &&
        attempt.status.maxResidual ≤ sketch.options.convergence) ∧
      attempt.free = sketch.store.freeIndices ∧
      attempt.solution = (if proposal.x.all Float.isFinite then some proposal.x else none) ∧
      attempt.generation = sketch.store.generation := by
  unfold judge at judged
  obtain ⟨hard, listed, rest⟩ := bind_eq_ok.mp judged
  obtain ⟨rows, read, rest⟩ := bind_eq_ok.mp rest
  obtain ⟨solved, -, rest⟩ := bind_eq_ok.mp rest
  obtain ⟨diagnosis, -, answered⟩ := bind_eq_ok.mp rest
  cases answered
  exact ⟨hard, rows, listed, read, rfl, rfl, rfl, rfl, rfl⟩

/-- The solution of a solve that converged can be applied, however much effort is good enough. -/
theorem applicable?_of_converged {attempt : Attempt} {solution : List Float} (bestEffort : Value)
    (kept : sketch.attempt = some attempt) (finite : attempt.solution = some solution)
    (current : attempt.generation = sketch.store.generation)
    (converged : attempt.status.converged) :
    sketch.applicable? bestEffort = .ok (some (attempt.free, solution)) := by
  unfold applicable?
  rw [kept]
  dsimp only
  rw [finite]
  dsimp only
  rw [if_neg (not_not.mpr current), if_pos converged]
  rfl

/-- Writing values to all free slots scatters them over the snapshot. -/
theorem snapshot_written (sketch : Sketch) (values : List Float) :
    (sketch.written sketch.store.freeIndices values).store.snapshot =
      scatterEach sketch.store.snapshot sketch.store.freeIndices values :=
  Store.snapshot_writeFreeAll fun _ there => Store.isFree_of_mem (List.of_mem_zip there).1

/-- The rows of the hard constraints are the same at vectors that differ in measured slots only. -/
theorem Orderly.stackedRows_eq (orderly : sketch.Orderly) {hard : List Constraint}
    (listed : sketch.hard = .ok hard) {vector other : Array Float}
    (size : other.size = vector.size)
    (agree : ∀ place, (∀ c ∈ sketch.constraints, c.measuredSlot? ≠ .ok (some place)) →
      other[place]? = vector[place]?) :
    stackedRows hard other = stackedRows hard vector := by
  refine stackedRows_congr fun h there => ?_
  obtain ⟨registered, isHard⟩ := mem_hard listed there
  refine (orderly.standard.relates h registered).rows_congr fun operand given slot among => ?_
  have existing := orderly.sound.operands h registered operand given slot among
  refine slotsOf_congr size existing.1 (agree slot.toNat fun c measurer measures => ?_)
  obtain ⟨idle, -, value⟩ := Constraint.measuredSlot?_eq_some measures
  have owned := orderly.apart.measured c measurer _ value
  -- What drives measures nothing, so these are two constraints.
  have distinct : h ≠ c := by
    rintro rfl
    rw [Constraint.drives_of_isHard isHard] at idle
    cases idle
  have apart := orderly.apart.operands.forall registered measurer distinct
  refine apart.1 _ owned operand given ?_
  rw [Int.toNat_of_nonneg existing.1]
  exact among

/-- Of a sketch that is standard and sound, every constraint that measures a literal of its own can
be measured at a vector of the right size, unless it measures an angle. -/
theorem Standard.measurable (standard : sketch.Standard) (sound : sketch.Sound) {c : Constraint}
    (registered : c ∈ sketch.constraints)
    (own : ∀ slot, c.valueSlot = some slot → slot ∈ c.owned) {drives : Bool}
    (known : c.modifiers.driving.truth = .ok drives) {vector : Array Float}
    (size : vector.size = sketch.store.size)
    (plain : c.kind ≠ BuiltinKind.pointAngle.name ∧ c.kind ≠ BuiltinKind.lineAngle.name) :
    c.Measurable vector := by
  refine (standard.relates c registered).measurable known (fun slot measures => ?_)
    (fun operand given index among => ?_) (standard.operands c registered) plain
  · rw [size]
    exact sound.slotsApart.literals c registered slot (own slot measures)
  · rw [size]
    exact sound.operands c registered operand given index among

/-- Of a sketch that is orderly, every constraint can be measured at a vector of the right size,
unless it measures an angle. -/
theorem Orderly.measurable (orderly : sketch.Orderly) {c : Constraint}
    (registered : c ∈ sketch.constraints) {drives : Bool}
    (known : c.modifiers.driving.truth = .ok drives) {vector : Array Float}
    (size : vector.size = sketch.store.size)
    (plain : c.kind ≠ BuiltinKind.pointAngle.name ∧ c.kind ≠ BuiltinKind.lineAngle.name) :
    c.Measurable vector :=
  orderly.standard.measurable orderly.sound registered (orderly.apart.measured c registered) known
    size plain

end Sketch

namespace Session

/-- Storing measurements in slots that exist is never refused and changes these slots only. -/
theorem outcome_commitMeasurement_forM {measured : List (Nat × Float)} {sketch : Sketch}
    (inside : ∀ pair ∈ measured, pair.1 < sketch.store.size) :
    ∃ store, (measured.forM fun pair => commitMeasurement pair.1 pair.2).outcome sketch =
        (.ok (), { sketch with store }) ∧ store.size = sketch.store.size ∧
      ∀ place, (∀ pair ∈ measured, pair.1 ≠ place) →
        store.snapshot[place]? = sketch.store.snapshot[place]? := by
  induction measured generalizing sketch with
  | nil => exact ⟨sketch.store, rfl, rfl, fun _ _ => rfl⟩
  | cons pair rest ih =>
    have first := inside pair List.mem_cons_self
    have others : ∀ pair ∈ rest, pair.1 < sketch.store.size :=
      fun pair later => inside pair (List.mem_cons_of_mem _ later)
    have steps : ((pair :: rest).forM fun pair => commitMeasurement pair.1 pair.2).outcome sketch =
      (commitMeasurement pair.1 pair.2 >>= fun _ =>
        rest.forM fun pair => commitMeasurement pair.1 pair.2).outcome sketch := rfl
    rw [steps, outcome_bind]
    rcases outcome_commitMeasurement_cases pair.1 pair.2 sketch with
      ⟨fault, -, outside⟩ | unchanged | stored
    · exact absurd first outside
    · rw [unchanged]
      obtain ⟨store, went, size, away⟩ := ih others
      exact ⟨store, went, size, fun place apart =>
        away place fun pair later => apart pair (List.mem_cons_of_mem _ later)⟩
    · rw [stored]
      obtain ⟨store, went, size, away⟩ := @ih
        { sketch with store := (sketch.store.write pair.1 pair.2).mark pair.1 true }
        fun pair later => by
          rw [Store.size_mark, Store.size_write]
          exact others pair later
      refine ⟨store, went, ?_, fun place apart => ?_⟩
      · rw [size, Store.size_mark, Store.size_write]
      · rw [away place fun pair later => apart pair (List.mem_cons_of_mem _ later),
          Store.snapshot_mark, Store.snapshot_write,
          Array.getElem?_setIfInBounds_ne (apart pair List.mem_cons_self)]

/-- Applying a solution that is pending to slots that are all free either stops at a constraint that
cannot be measured, with the solution written, or measures every constraint that can be, into slots
that are measured. -/
theorem outcome_apply_pending {sketch : Sketch} (sound : sketch.Sound)
    (apart : sketch.Private) {bestEffort : Value} {solution : List Float}
    (pending : sketch.applicable? bestEffort = .ok (some (sketch.store.freeIndices, solution)))
    (finite : solution.all Float.isFinite)
    (count : solution.length = sketch.store.freeIndices.length) :
    (∃ fault journal, (apply bestEffort).outcome sketch = (.error fault,
          (sketch.written sketch.store.freeIndices solution).withJournal journal) ∧
        ∃ c ∈ sketch.constraints, ¬ c.Measurable
          (scatterEach sketch.store.snapshot sketch.store.freeIndices solution)) ∨
      ∃ store journal, (apply bestEffort).outcome sketch =
          (.ok true, { sketch with store, journal }) ∧
        (∀ c ∈ sketch.constraints, c.Measurable
          (scatterEach sketch.store.snapshot sketch.store.freeIndices solution)) ∧
        store.size = sketch.store.size ∧
        ∀ place, (∀ c ∈ sketch.constraints, c.measuredSlot? ≠ .ok (some place)) →
          store.snapshot[place]? =
            (scatterEach sketch.store.snapshot sketch.store.freeIndices solution)[place]? := by
  have fits : Store.checkRow sketch.store.freeIndices solution.length solution = .ok () := by
    unfold Store.checkRow
    rw [if_neg (not_not.mpr count), if_pos finite]
  have size : (sketch.written sketch.store.freeIndices solution).store.size = sketch.store.size :=
    Store.size_writeFreeAll ..
  obtain ⟨journal, ⟨fault, -, impossible⟩ | ⟨-, impossible⟩ | ⟨slots, values, same, outcome⟩⟩ :=
    outcome_apply_cases bestEffort sketch
  · rw [pending] at impossible
    cases impossible
  · rw [pending] at impossible
    cases impossible
  rw [pending] at same
  cases same
  rcases outcome with ⟨fault, -, impossible⟩ | ⟨applied, -⟩
  · rw [fits] at impossible
    cases impossible
  rw [applied, outcome_discard_bind, ← sketch.snapshot_written]
  rcases outcome_commitMeasurements_cases
      (sketch.written sketch.store.freeIndices solution).store.snapshot
      ((sketch.written sketch.store.freeIndices solution).withJournal journal) with
    ⟨fault, later, refused, fails⟩ | ⟨measured, later, went, all, measures⟩
  · rw [refused]
    exact .inl ⟨fault, later, rfl, fails⟩
  · right
    obtain ⟨store, stored, kept, away⟩ := @outcome_commitMeasurement_forM measured
      ((sketch.written sketch.store.freeIndices solution).withJournal later) fun pair there => by
        obtain ⟨c, registered, slot⟩ := measures pair there
        have owned := apart.measured c registered _ (Constraint.measuredSlot?_eq_some slot).2.2
        exact size.symm ▸ sound.slotsApart.literals c registered _ owned
    have same :
        ((sketch.written sketch.store.freeIndices solution).withJournal journal).withJournal later =
          (sketch.written sketch.store.freeIndices solution).withJournal later := rfl
    rw [went, same, outcome_bind, stored]
    refine ⟨store, later, rfl, all, kept.trans size, fun place idle => away place ?_⟩
    rintro pair there rfl
    obtain ⟨c, registered, slot⟩ := measures pair there
    exact idle c registered slot

/-- A solve that converged, by a backend that proposes a finite value for each free slot, was judged
at the vector that it keeps to be applied. -/
theorem outcome_solve_converged {sketch solved : Sketch} {backend : Backend} {request : Value}
    (proposes : ∀ algorithm problem proposal, sketch.problem algorithm = .ok problem →
      (backend.run problem algorithm sketch.options).proposal = .ok proposal →
        proposal.x.all Float.isFinite ∧ proposal.x.length = sketch.store.freeIndices.length)
    {status : SolveStatus}
    (answered : (solve backend request).outcome sketch = (.ok status, solved))
    (converged : status.converged) :
    ∃ algorithm proposal attempt journal hard rows,
      sketch.judge backend.leastSquares algorithm proposal = .ok attempt ∧
      attempt.status = status ∧
      solved = { sketch with attempt := some attempt, journal } ∧
      proposal.x.all Float.isFinite ∧ proposal.x.length = sketch.store.freeIndices.length ∧
      attempt.solution = some proposal.x ∧ sketch.hard = .ok hard ∧
      stackedRows hard (scatterEach sketch.store.snapshot sketch.store.freeIndices proposal.x) =
        .ok rows ∧
      maxAbs rows = status.maxResidual ∧ status.maxResidual ≤ sketch.options.convergence ∧
      ∀ bestEffort, solved.applicable? bestEffort =
        .ok (some (sketch.store.freeIndices, proposal.x)) := by
  obtain ⟨journal, outcome⟩ := outcome_solve backend request sketch
  rw [outcome] at answered
  cases attempted : sketch.attemptBy backend request with
  | error fault =>
    rw [attempted] at answered
    cases answered
  | ok attempt =>
  rw [attempted] at answered
  cases answered
  obtain ⟨algorithm, problem, proposal, posed, proposed, judged⟩ :=
    Sketch.attemptBy_eq_ok attempted
  obtain ⟨finite, count⟩ := proposes algorithm problem proposal posed proposed
  obtain ⟨hard, rows, listed, read, residual, small, free, solution, generation⟩ :=
    Sketch.judge_eq_ok judged
  rw [if_pos finite] at solution
  refine ⟨algorithm, proposal, attempt, journal, hard, rows, judged, rfl, rfl, finite, count,
    solution, listed, ?_, residual.symm, ?_, fun bestEffort => ?_⟩
  · have scattered : scatter sketch.store.snapshot sketch.store.freeIndices proposal.x =
      .ok (scatterEach sketch.store.snapshot sketch.store.freeIndices proposal.x) := if_pos count
    unfold freeRows at read
    rw [scattered] at read
    exact read
  · rw [small, Bool.and_eq_true, decide_eq_true_eq] at converged
    exact converged.2
  · rw [← free]
    exact @Sketch.applicable?_of_converged { sketch with attempt := some attempt, journal }
      attempt proposal.x bestEffort rfl solution generation converged

end Session

/-- A sketch is built by reference and solved by a backend that proposes a finite value for each
free slot. If the solve converged, the greatest residual it reports is that of the hard constraints
at the vector it found, and small enough. Applying then succeeds exactly if every constraint can be
measured at that vector, and the hard constraints keep the very rows that were judged. Otherwise it
is refused, with the vector in the store but nothing measured; only what measures an angle can cause
that. -/
theorem apply_after_converged_solve {sketch solved : Sketch} (reached : sketch.Reached .byReference)
    (backend : Backend) (request bestEffort : Value)
    (proposes : ∀ algorithm problem proposal, sketch.problem algorithm = .ok problem →
      (backend.run problem algorithm sketch.options).proposal = .ok proposal →
        proposal.x.all Float.isFinite ∧ proposal.x.length = sketch.store.freeIndices.length)
    {status : SolveStatus}
    (answered : (Session.solve backend request).outcome sketch = (.ok status, solved))
    (converged : status.converged) :
    ∃ attempt solution vector hard rows,
      solved.attempt = some attempt ∧ attempt.status = status ∧
      attempt.solution = some solution ∧
      scatter sketch.store.snapshot sketch.store.freeIndices solution = .ok vector ∧
      solved.hard = .ok hard ∧ stackedRows hard vector = .ok rows ∧
      maxAbs rows = status.maxResidual ∧ status.maxResidual ≤ solved.options.convergence ∧
      ((∀ c ∈ solved.constraints, c.Measurable vector) →
        ∃ applied, (Session.apply bestEffort).outcome solved = (.ok true, applied) ∧
          applied.hard = .ok hard ∧ stackedRows hard applied.store.snapshot = .ok rows) ∧
      ((∃ c ∈ solved.constraints, ¬ c.Measurable vector) →
        ∃ fault left, (Session.apply bestEffort).outcome solved = (.error fault, left) ∧
          left.store.snapshot = vector) ∧
      ∀ c ∈ solved.constraints, ¬ c.Measurable vector →
        c.kind = BuiltinKind.pointAngle.name ∨ c.kind = BuiltinKind.lineAngle.name := by
  obtain ⟨algorithm, proposal, attempt, journal, hard, rows, judged, same, rfl, finite, count,
      solution, listed, stacked, greatest, small, applicable⟩ :=
    Session.outcome_solve_converged proposes answered converged
  have orderly := (reached.orderly.change (.attempted judged)).change (.noted journal)
  have pending := applicable bestEffort
  refine ⟨attempt, proposal.x, _, hard, rows, rfl, same, solution, if_pos count, listed, stacked,
    greatest, small, fun all => ?_, fun fails => ?_, fun c registered unmeasured => ?_⟩
  · rcases Session.outcome_apply_pending orderly.sound orderly.apart pending finite count with
      ⟨fault, later, -, c, registered, fails⟩ | ⟨store, later, applied, -, size, away⟩
    · exact absurd (all c registered) fails
    · refine ⟨_, applied, listed, (orderly.stackedRows_eq listed ?_ away).trans stacked⟩
      rw [Store.size_snapshot, size, size_scatterEach, Store.size_snapshot]
  · rcases Session.outcome_apply_pending orderly.sound orderly.apart pending finite count with
      ⟨fault, later, refused, -⟩ | ⟨store, later, -, all, -⟩
    · exact ⟨fault, _, refused, sketch.snapshot_written proposal.x⟩
    · obtain ⟨c, registered, unmeasured⟩ := fails
      exact absurd (all c registered) unmeasured
  · by_contra plain
    obtain ⟨drives, known⟩ := Sketch.drives_of_hard listed registered
    have size : (scatterEach sketch.store.snapshot sketch.store.freeIndices proposal.x).size =
        sketch.store.size := by
      rw [size_scatterEach, Store.size_snapshot]
    exact unmeasured (orderly.measurable registered known size (not_or.mp plain))

/-- Two points: the abscissa of the first is driven, the step to that of the second measured. -/
def surveyed : Sketch :=
  (Sketch.start 0 .standard .silent).afterAll
    [.addPoint (.float 0.0) (.float 0.0) (.bool false) (.int 0),
      .addPoint (.float 1.0) (.float 1.0) (.bool false) (.int 0),
      .addConstraint (.text "coordinate_x") [.int 0, .float 2.0] (.bool true) (.bool false)
        (.float 1.0) (.int 0),
      .addConstraint (.text "difference")
        [.property (.int 0) (.text "x"), .property (.int 1) (.text "x"), .float 7.0]
        (.bool false) (.bool false) (.float 1.0) (.int 0)]

/-- The sketch of the two points is built by reference. -/
theorem reached_surveyed : surveyed.Reached .byReference := by
  refine ⟨0, .standard, .silent, _, fun request there => ?_, rfl⟩
  simp only [List.mem_cons, List.not_mem_nil, or_false] at there
  rcases there with rfl | rfl | rfl | rfl
  · trivial
  · trivial
  · exact ⟨⟨.coordinateX, rfl⟩, by simp [Scope.byReference]⟩
  · exact ⟨⟨.difference, rfl⟩, by simp [Scope.byReference]⟩

/-- The backend that proposes two for the abscissa of the first point. -/
def surveyor : Backend :=
  ⟨"surveyor", fun _ _ _ => ⟨[], .ok ⟨[2.0, 0.0, 5.0, 1.0], 1, ""⟩⟩, shortestCombination⟩

/-- The two points are solved, and the step is measured. -/
theorem apply_after_converged_solve_surveyed :
    ∃ status solved applied hard rows,
      (Session.solve surveyor (.text "dogleg")).outcome surveyed = (.ok status, solved) ∧
      status.converged ∧
      (Session.apply (.bool false)).outcome solved = (.ok true, applied) ∧
      applied.hard = .ok hard ∧ stackedRows hard applied.store.snapshot = .ok rows ∧
      maxAbs rows = status.maxResidual := by
  have free : surveyed.store.freeIndices = [0, 1, 2, 3] := by decide +kernel
  have found : (surveyed.attemptBy surveyor (.text "dogleg")).toOption.map
      (fun attempt => (attempt.status.converged, attempt.solution)) =
        some (true, some [2.0, 0.0, 5.0, 1.0]) := by decide +kernel
  have measurable : ∀ c ∈ surveyed.constraints, c.Measurable
      (scatterEach surveyed.store.snapshot [0, 1, 2, 3] [2.0, 0.0, 5.0, 1.0]) := by
    decide +kernel
  obtain ⟨journal, outcome⟩ := Session.outcome_solve surveyor (.text "dogleg") surveyed
  cases attempted : surveyed.attemptBy surveyor (.text "dogleg") with
  | error fault =>
    rw [attempted] at found
    cases found
  | ok attempt =>
  rw [attempted] at found outcome
  obtain ⟨converged, proposed⟩ := Prod.mk.inj (Option.some.inj found)
  obtain ⟨_, solution, vector, hard, rows, ⟨⟩, -, kept, scattered, -, -, greatest, -, succeeds,
      -⟩ :=
    apply_after_converged_solve reached_surveyed surveyor (.text "dogleg") (.bool false)
      (fun _ _ _ _ given => by
        cases given
        rw [free]
        decide +kernel) outcome converged
  rw [proposed] at kept
  cases kept
  rw [free] at scattered
  cases scattered
  obtain ⟨applied, done, listed, same⟩ := succeeds measurable
  exact ⟨_, _, applied, hard, rows, outcome, converged, done, listed, same, greatest⟩

end Drafting
