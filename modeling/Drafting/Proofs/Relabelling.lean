import Drafting.Proofs.Exactness
import Drafting.Proofs.Impartiality
import Drafting.Proofs.Shifting
import Drafting.Sketch.Solving

/-!
# Constraints under other identifiers

A constraint that stands for another one has the same rows, since its block was built once and for
all. Only where its count of rows is wrong does the refusal name it by its identifier. So what a
solve is posed, how a proposal is judged and what is applied correspond, and a diagnosis names the
same constraints by the identifiers that are ahead.
-/

namespace Drafting

/-- Repetitions stay repetitions under another form, and nothing else becomes one. -/
theorem map_eraseReps {form : Nat → Nat} (injective : Function.Injective form)
    (members : List Nat) : (members.map form).eraseReps = members.eraseReps.map form := by
  have looped (rest gathered : List Nat) (current : Nat) :
      List.eraseRepsBy.loop (· == ·) (form current) (rest.map form) (gathered.map form) =
        (List.eraseRepsBy.loop (· == ·) current rest gathered).map form := by
    induction rest generalizing current gathered with
    | nil =>
      show ((form current :: gathered.map form).reverse) = _
      rw [← List.map_cons, ← List.map_reverse]
      rfl
    | cons next others ih =>
      rw [List.map_cons, List.eraseRepsBy.loop, List.eraseRepsBy.loop]
      by_cases same : current = next
      · rw [same, beq_self_eq_true, beq_self_eq_true]
        exact ih gathered next
      · rw [beq_false_of_ne same, beq_false_of_ne (injective.ne same)]
        exact ih (current :: gathered) next
  cases members with
  | nil => rfl
  | cons first rest => exact looped rest [] first

/-- Members in another form, for which the answers are the same, count alike. -/
theorem anyM_map {ε : Type} {form : α → β} {step : α → Except ε Bool} {step' : β → Except ε Bool}
    (same : ∀ member, step' (form member) = step member) (members : List α) :
    (members.map form).anyM step' = members.anyM step := by
  induction members with
  | nil => rfl
  | cons member rest ih => rw [List.map_cons, List.anyM, List.anyM, same, ih]

namespace Shift

variable (shift : Shift)

/-- The rows of a constraint are the same, or are refused for the same sort of fault. -/
theorem rows_constraint (c : Constraint) (vector : Array Float) :
    Agree (c.rows vector) ((shift.constraint c).rows vector) := by
  have block : (shift.constraint c).block = c.block := rfl
  unfold Constraint.rows
  rw [block]
  refine (Alike.refl (c.block (slotsOf vector))).bind_agree fun values => ?_
  show Alike _ (if values.toRows.length ≠ c.size then _ else _)
    (if values.toRows.length ≠ c.size then _ else _)
  by_cases wrong : values.toRows.length ≠ c.size
  · rw [if_pos wrong, if_pos wrong]
    rfl
  · rw [if_neg wrong, if_neg wrong]
    rfl

/-- The rows of an exact constraint are the same, also where they are refused. -/
theorem rows_constraint_of_exact {c : Constraint} (exact : c.Exact) (vector : Array Float) :
    (shift.constraint c).rows vector = c.rows vector := by
  have also : (shift.constraint c).Exact := exact
  rw [exact.rows_eq, also.rows_eq]
  rfl

/-- The key of a constraint differs by its identifier only. -/
theorem key_constraint (c : Constraint) :
    (shift.constraint c).key = constraintKey c.kind (c.id + shift.ids) c.operands := by
  have operands : (c.operands.map shift.operand).map Operand.describe =
      c.operands.map Operand.describe := by
    rw [List.map_map]
    exact List.map_congr_left fun operand _ => operand.describe_rebound
  unfold Constraint.key constraintKey
  show c.kind ++ "#" ++ decimalText (c.id + shift.ids) ++ "(" ++
    ",".intercalate ((c.operands.map shift.operand).map Operand.describe) ++ ")" = _
  rw [operands]

section Rows

variable (constraints : List Constraint)

/-- The rows of several constraints are the same. -/
theorem stackedRows_constraint (vector : Array Float) :
    Agree (stackedRows constraints vector)
      (stackedRows (constraints.map shift.constraint) vector) :=
  (Alike.mapM_agree (fun c => shift.rows_constraint c vector) constraints).bind_agree
    fun _ => rfl

/-- The rows are the same function of the free values. -/
theorem freeRows_constraint (full : Array Float) (free : List Nat) (values : List Float) :
    Agree (freeRows constraints full free values)
      (freeRows (constraints.map shift.constraint) full free values) :=
  (Alike.refl (scatter full free values)).bind_agree fun vector =>
    shift.stackedRows_constraint constraints vector

variable {constraints}

/-- The rows of exact constraints are the same function of the free values. -/
theorem freeRows_constraint_of_exact (exact : ∀ c ∈ constraints, c.Exact) (full : Array Float)
    (free : List Nat) :
    freeRows (constraints.map shift.constraint) full free = freeRows constraints full free := by
  have stacked (vector : Array Float) : stackedRows (constraints.map shift.constraint) vector =
      stackedRows constraints vector := by
    have same : (constraints.map shift.constraint).mapM (·.rows vector) =
        constraints.mapM (·.rows vector) := by
      rw [List.mapM_map]
      exact mapM_congr fun c there => shift.rows_constraint_of_exact (exact c there) vector
    unfold stackedRows
    rw [same]
  funext values
  unfold freeRows
  rw [funext stacked]

end Rows

section Diagnosis

/-- A scanned row that stands for another one. -/
def scanned (row : ScannedRow) : ScannedRow := { row with owner := shift.constraint row.owner }

/-- A dependent row that stands for another one. -/
def dependent (row : DependentRow) : DependentRow :=
  ⟨shift.constraint row.owner, row.members.map shift.constraint⟩

/-- Identifiers that are ahead are in the same order. -/
theorem ascending_list (ids : List Nat) :
    ascending (shift.list ids) = shift.list (ascending ids) := by
  have injective : Function.Injective (· + shift.ids) := fun _ _ same => Nat.add_right_cancel same
  have sorted : (ids.map (· + shift.ids)).mergeSort (fun a b => decide (a ≤ b)) =
      (ids.mergeSort fun a b => decide (a ≤ b)).map (· + shift.ids) := by
    rw [List.map_mergeSort]
    intro a _ b _
    exact decide_eq_decide.mpr (Nat.add_le_add_iff_right).symm
  unfold ascending list
  rw [sorted, map_eraseReps injective]

/-- The identifiers of constraints are ahead. -/
theorem map_id_constraint (constraints : List Constraint) :
    (constraints.map shift.constraint).map (·.id) = shift.list (constraints.map (·.id)) := by
  unfold list
  rw [List.map_map, List.map_map]
  rfl

/-- The tags of the constraints with some identifiers are the same. -/
theorem tagsOf_constraint (constraints : List Constraint) (ids : List Nat) :
    tagsOf (constraints.map shift.constraint) (shift.list ids) = tagsOf constraints ids := by
  unfold tagsOf
  have chosen : (constraints.map shift.constraint).filter
      (fun c => (shift.list ids).contains c.id) =
        (constraints.filter fun c => ids.contains c.id).map shift.constraint :=
    filter_map_of_same shift.constraint (fun c => shift.contains_list ids c.id) constraints
  rw [chosen, List.map_map]
  rfl

/-- Each row belongs to the corresponding constraint. -/
theorem rowOwners_constraint (constraints : List Constraint) :
    rowOwners (constraints.map shift.constraint) =
      (rowOwners constraints).map shift.constraint := by
  unfold rowOwners
  rw [List.flatMap_map, List.map_flatMap]
  exact List.flatMap_congr fun c _ => List.map_replicate.symm

/-- The scan of the rows corresponds. -/
theorem scanRows_constraint (constraints : List Constraint) (directions : List (List Float))
    (tolerance : Float) :
    scanRows (constraints.map shift.constraint) directions tolerance =
      (scanRows constraints directions tolerance).map shift.scanned := by
  unfold scanRows
  dsimp only
  rw [rowOwners_constraint, List.zip_map_left, List.map_map, List.map_map]
  rfl

/-- The constraints that a dependent row forms a group with correspond. -/
theorem groupMembers_scanned (leastSquares : LeastSquares) (independent : List ScannedRow)
    (row : ScannedRow) :
    Alike (fun members others => others = members.map shift.constraint)
      (groupMembers leastSquares independent row)
      (groupMembers leastSquares (independent.map shift.scanned) (shift.scanned row)) := by
  have same : expansion leastSquares (independent.map shift.scanned) (shift.scanned row).direction =
      expansion leastSquares independent row.direction := by
    unfold expansion
    rw [List.map_map, List.isEmpty_map]
    rfl
  unfold groupMembers
  rw [same]
  refine (Alike.refl _).bind_agree fun coefficients => ?_
  show shift.constraint row.owner :: _ = _
  unfold contributors
  dsimp only
  rw [List.zip_map_left, List.filter_map, List.map_map, List.map_cons, List.map_map]
  rfl

/-- The independent rows correspond. -/
theorem filter_isIndependent_scanned (rows : List ScannedRow) :
    (rows.map shift.scanned).filter ScannedRow.isIndependent =
      (rows.filter ScannedRow.isIndependent).map shift.scanned :=
  filter_map_of_same shift.scanned (fun _ => rfl) rows

/-- The dependent rows correspond. -/
theorem dependentRows_scanned (leastSquares : LeastSquares) (rows : List ScannedRow) :
    Alike (fun dependent others => others = dependent.map shift.dependent)
      (dependentRows leastSquares rows)
      (dependentRows leastSquares (rows.map shift.scanned)) := by
  have others : (rows.map shift.scanned).filter (!·.isIndependent) =
      (rows.filter (!·.isIndependent)).map shift.scanned :=
    filter_map_of_same shift.scanned (fun _ => rfl) rows
  unfold dependentRows
  dsimp only
  rw [filter_isIndependent_scanned, others]
  refine Alike.mapM_map (fun row => ?_) _
  refine (shift.groupMembers_scanned leastSquares _ row).bind ?_
  rintro members _ rfl
  rfl

/-- A dependent row that stands for another one is in conflict by the constraints that stand for
those that are broken. -/
theorem any_members_dependent (broken : List Constraint) (row : DependentRow) :
    (shift.dependent row).members.any
        (fun c => (broken.map shift.constraint).any fun b => b.id = c.id) =
      row.members.any fun c => broken.any fun b => b.id = c.id := by
  have isBroken (c : Constraint) :
      (broken.map shift.constraint).any (fun b => b.id = c.id + shift.ids) =
        broken.any fun b => b.id = c.id := by
    rw [List.any_map]
    exact congrArg (List.any broken)
      (funext fun b => decide_eq_decide.mpr Nat.add_right_cancel_iff)
  show (row.members.map shift.constraint).any _ = _
  rw [List.any_map]
  exact congrArg (List.any row.members) (funext isBroken)

section Dependent

variable (rows : List DependentRow)

/-- The identifiers of all members are ahead. -/
theorem flatMap_members_dependent :
    (rows.map shift.dependent).flatMap (fun row => row.members.map (·.id)) =
      shift.list (rows.flatMap fun row => row.members.map (·.id)) := by
  unfold list
  rw [List.flatMap_map, List.map_flatMap]
  exact List.flatMap_congr fun row _ => shift.map_id_constraint row.members

/-- The identifiers in each group are ahead. -/
theorem map_members_dependent :
    (rows.map shift.dependent).map (fun row => ascending (row.members.map (·.id))) =
      (rows.map fun row => ascending (row.members.map (·.id))).map shift.list := by
  rw [List.map_map, List.map_map]
  refine List.map_congr_left fun row _ => ?_
  show ascending ((row.members.map shift.constraint).map (·.id)) = _
  rw [map_id_constraint, ascending_list]
  rfl

/-- As many rows belong to corresponding constraints. -/
theorem length_owned_dependent (c : Constraint) :
    ((rows.map shift.dependent).filter
      (fun row => row.owner.id = (shift.constraint c).id)).length =
        (rows.filter fun row => row.owner.id = c.id).length := by
  have same (row : DependentRow) :
      decide ((shift.dependent row).owner.id = (shift.constraint c).id) =
        decide (row.owner.id = c.id) := decide_eq_decide.mpr Nat.add_right_cancel_iff
  rw [filter_map_of_same shift.dependent same, List.length_map]

end Dependent

/-- The identifiers of the constraints that meet a condition are ahead. -/
theorem ascending_filter_constraint {condition condition' : Constraint → Bool}
    (agree : ∀ c, condition' (shift.constraint c) = condition c) (members : List Constraint) :
    ascending (((members.map shift.constraint).filter condition').map (·.id)) =
      shift.list (ascending ((members.filter condition).map (·.id))) := by
  rw [filter_map_of_same shift.constraint agree, map_id_constraint, ascending_list]

/-- The same constraints are classified alike. -/
theorem classify_constraint (constraints broken : List Constraint) (rank free : Nat)
    (rows : List DependentRow) :
    classify (constraints.map shift.constraint) (broken.map shift.constraint) rank free
        (rows.map shift.dependent) =
      shift.diagnosis (classify constraints broken rank free rows) := by
  unfold classify
  dsimp only
  rw [filter_map_of_same shift.dependent (shift.any_members_dependent broken),
    filter_map_of_same shift.dependent
      fun row => congrArg (!·) (shift.any_members_dependent broken row),
    flatMap_members_dependent, ascending_list, map_members_dependent]
  generalize (rows.filter fun row =>
    !row.members.any fun c => broken.any fun b => decide (b.id = c.id)) = held
  generalize ascending _ = conflicting
  have candidate (c : Constraint) :
      (decide (0 < ((held.map shift.dependent).filter
        fun row => row.owner.id = (shift.constraint c).id).length) &&
          !(shift.list conflicting).contains (shift.constraint c).id) =
        (decide (0 < (held.filter fun row => row.owner.id = c.id).length) &&
          !conflicting.contains c.id) := by
    rw [length_owned_dependent, ← shift.contains_list conflicting c.id]
    rfl
  have whole (c : Constraint) :
      decide ((shift.constraint c).size ≤ ((held.map shift.dependent).filter
        fun row => row.owner.id = (shift.constraint c).id).length) =
        decide (c.size ≤ (held.filter fun row => row.owner.id = c.id).length) := by
    rw [length_owned_dependent]
    rfl
  have part (c : Constraint) :
      decide (((held.map shift.dependent).filter
        fun row => row.owner.id = (shift.constraint c).id).length < (shift.constraint c).size) =
        decide ((held.filter fun row => row.owner.id = c.id).length < c.size) := by
    rw [length_owned_dependent]
    rfl
  rw [filter_map_of_same shift.constraint candidate, ascending_filter_constraint _ whole,
    ascending_filter_constraint _ part, tagsOf_constraint, tagsOf_constraint, tagsOf_constraint]
  rfl

/-- The same constraints are diagnosed alike. -/
theorem diagnose_constraint (leastSquares : LeastSquares) (constraints : List Constraint)
    (full : Array Float) (free : List Nat) (options : SolveOptions) :
    Alike (fun found other => other = shift.diagnosis found)
      (diagnose leastSquares constraints full free options)
      (diagnose leastSquares (constraints.map shift.constraint) full free options) := by
  have holds (c : Constraint) :
      Agree (c.holdsWithin full options.conflictTolerance)
        ((shift.constraint c).holdsWithin full options.conflictTolerance) :=
    (shift.rows_constraint c full).bind_agree fun _ => rfl
  unfold diagnose
  refine (Alike.mapM_agree holds constraints).bind_agree fun holding => ?_
  refine (differenceQuotients_agree (shift.freeRows_constraint constraints full free) _ _
    ).bind_agree fun directions => ?_
  have broken : (((constraints.map shift.constraint).zip holding).filter (!·.2)).map (·.1) =
      (((constraints.zip holding).filter (!·.2)).map (·.1)).map shift.constraint := by
    rw [List.zip_map_left, filter_map_of_same (Prod.map shift.constraint id) fun _ => rfl,
      List.map_map, List.map_map]
    rfl
  rw [scanRows_constraint]
  generalize scanRows constraints directions options.rankTolerance = rows
  dsimp only
  rw [filter_isIndependent_scanned, List.length_map, broken]
  refine (shift.dependentRows_scanned leastSquares rows).bind ?_
  rintro dependent _ rfl
  exact shift.classify_constraint ..

end Diagnosis

section Solving

variable (s : Sketch)

/-- The constraints that have to hold correspond. -/
theorem hard_sketch : (shift.sketch s).hard = s.hard.map (List.map shift.constraint) :=
  filterM_map (fun _ => rfl) s.constraints

/-- The wishes that an algorithm heeds correspond. -/
theorem heeded_sketch (algorithm : Algorithm) :
    (shift.sketch s).heeded algorithm =
      (s.heeded algorithm).map (List.map shift.constraint) := by
  unfold Sketch.heeded
  by_cases wishing : algorithm = .sqp
  · rw [if_pos wishing, if_pos wishing]
    exact filterM_map (fun _ => rfl) s.constraints
  · rw [if_neg wishing, if_neg wishing]
    rfl

/-- What an algorithm heeds is registered. -/
theorem mem_of_heeded {algorithm : Algorithm} {wishes : List Constraint} {c : Constraint}
    (heeds : s.heeded algorithm = .ok wishes) (there : c ∈ wishes) : c ∈ s.constraints := by
  unfold Sketch.heeded at heeds
  by_cases wishing : algorithm = .sqp
  · rw [if_pos wishing] at heeds
    exact mem_of_filterM heeds there
  · rw [if_neg wishing] at heeds
    cases heeds
    cases there

/-- The problems that are posed resemble each other. -/
theorem problem_sketch (algorithm : Algorithm) :
    Alike Problem.Resembles (s.problem algorithm) ((shift.sketch s).problem algorithm) := by
  have hard := shift.hard_sketch s
  have heeded := shift.heeded_sketch s algorithm
  unfold Sketch.problem
  dsimp only
  rw [hard, heeded]
  cases s.hard with
  | error fault => rfl
  | ok constraints =>
    cases s.heeded algorithm with
    | error fault => rfl
    | ok wishes =>
      refine ⟨rfl, shift.freeRows_constraint constraints _ _, ?_⟩
      cases wishes with
      | nil => exact .none
      | cons wish rest => exact .some (shift.freeRows_constraint (wish :: rest) _ _)

/-- Exact constraints pose the same problem. -/
theorem problem_sketch_of_exact (exact : ∀ c ∈ s.constraints, c.Exact) (algorithm : Algorithm) :
    (shift.sketch s).problem algorithm = s.problem algorithm := by
  have hard := shift.hard_sketch s
  have heeded := shift.heeded_sketch s algorithm
  unfold Sketch.problem
  dsimp only
  rw [hard, heeded]
  cases holding : s.hard with
  | error fault => rfl
  | ok constraints =>
    cases heeding : s.heeded algorithm with
    | error fault => rfl
    | ok wishes =>
      have first := shift.freeRows_constraint_of_exact
        fun c there => exact c (mem_of_filterM holding there)
      have second := shift.freeRows_constraint_of_exact
        fun c there => exact c (mem_of_heeded s heeding there)
      show Except.ok (Problem.mk _ (freeRows (constraints.map shift.constraint) _ _) _) =
        .ok (Problem.mk _ (freeRows constraints _ _) _)
      rw [first]
      cases wishes with
      | nil => rfl
      | cons wish rest =>
        show Except.ok (Problem.mk _ _ (some (freeRows ((wish :: rest).map shift.constraint) _ _)))
          = _
        rw [second]
        rfl

/-- The same algorithm is chosen. -/
theorem algorithmFor_sketch (requested : Algorithm) :
    (shift.sketch s).algorithmFor requested = s.algorithmFor requested := by
  have temporary : (shift.sketch s).hasTemporary = s.hasTemporary :=
    anyM_map (fun _ => rfl) s.constraints
  unfold Sketch.algorithmFor
  rw [temporary]

/-- A proposal is judged alike. -/
theorem judge_sketch (leastSquares : LeastSquares) (algorithm : Algorithm) (proposal : Proposal) :
    Alike (fun found other => other = shift.attempt found)
      (s.judge leastSquares algorithm proposal)
      ((shift.sketch s).judge leastSquares algorithm proposal) := by
  have hard := shift.hard_sketch s
  unfold Sketch.judge
  dsimp only
  rw [hard]
  cases s.hard with
  | error fault => rfl
  | ok constraints =>
    refine (shift.freeRows_constraint constraints _ _ _).bind_agree fun rows => ?_
    refine Alike.bind_agree (Alike.refl _) fun solved => ?_
    refine (shift.diagnose_constraint _ constraints _ _ _).bind ?_
    rintro diagnosis _ rfl
    rfl

/-- The same solution can be applied. -/
theorem applicable?_sketch (bestEffort : Value) :
    (shift.sketch s).applicable? bestEffort = s.applicable? bestEffort := by
  have same : (shift.sketch s).attempt = s.attempt.map shift.attempt := rfl
  have stale (attempt : Attempt) :
      attempt.generation + shift.generations ≠ s.store.generation + shift.generations ↔
        attempt.generation ≠ s.store.generation := Nat.add_right_cancel_iff.not
  unfold Sketch.applicable?
  rw [same]
  cases s.attempt with
  | none => rfl
  | some attempt =>
    have solution : (shift.attempt attempt).solution = attempt.solution := rfl
    rw [Option.map_some]
    dsimp only
    rw [solution]
    cases attempt.solution with
    | none => rfl
    | some solution =>
      show (if attempt.generation + shift.generations ≠ s.store.generation + shift.generations
        then _ else _) = if attempt.generation ≠ s.store.generation then _ else _
      by_cases old : attempt.generation ≠ s.store.generation
      · rw [if_pos old, if_pos ((stale attempt).mpr old)]
      · rw [if_neg old, if_neg (mt (stale attempt).mp old)]
        rfl

/-- The diagnosis of the last solve corresponds. -/
theorem diagnosis_sketch : (shift.sketch s).diagnosis = shift.diagnosis s.diagnosis := by
  have same : (shift.sketch s).attempt = s.attempt.map shift.attempt := rfl
  unfold Sketch.diagnosis
  rw [same]
  cases s.attempt <;> rfl

end Solving

end Shift

end Drafting
