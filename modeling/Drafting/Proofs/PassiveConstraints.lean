import Drafting.Proofs.EditedSessions
import Drafting.Proofs.Extension

/-!
# Constraints that only watch

A constraint that neither drives nor is temporary only watches: it is measured when a solution is
applied and takes no part before. Adding such constraints puts the fixed slots of their literals
behind those of the store. Whatever a solve looks at stays the same, so the problem that is posed
to a backend, its outcome and the diagnosis do, and applying puts the same values and flags into
the slots that were there. Only a watcher that cannot be measured makes a difference: applying is
then refused after the solution was written.
-/

namespace Drafting

/-- A constraint only watches if it neither drives nor is temporary. -/
structure Constraint.Watches (c : Constraint) : Prop where
  idle : c.modifiers.driving.truth = .ok false
  lasting : c.modifiers.temporary.truth = .ok false

/-- A request to add a constraint that only watches, of a built-in kind and by reference. -/
def Request.Watches : Request → Prop
  | addConstraint kind operands driving temporary _ _ =>
    Scope.byReference.kind kind ∧ (∀ operand ∈ operands, Scope.byReference.operand operand) ∧
      driving.truth = .ok false ∧ temporary.truth = .ok false
  | _ => False

/-- Checked modifiers keep the flags as they were given. -/
theorem Modifiers.flags_of_eq_ok {driving temporary scale : Value} {modifiers : Modifiers}
    (checked : of driving temporary scale = .ok modifiers) :
    modifiers.driving = driving ∧ modifiers.temporary = temporary := by
  have number (x : Float) (given : Value)
      (made : (if x.isFinite && 0.0 < x then .ok ⟨driving, temporary, x, given⟩
        else throw (.scaleNotPositive given) : Except Fault Modifiers) = .ok modifiers) :
      modifiers.driving = driving ∧ modifiers.temporary = temporary := by
    split at made
    · cases made
      exact ⟨rfl, rfl⟩
    · cases made
  cases scale with
  | int n =>
    obtain ⟨x, -, made⟩ := bind_eq_ok.mp checked
    exact number x _ made
  | float x => exact number x _ checked
  | entry x => exact number x _ checked
  | _ => cases checked

/-- A request to watch stays by reference. -/
theorem Request.Watches.within {request : Request} (watches : request.Watches) :
    request.Within .byReference := by
  cases request with
  | addConstraint => exact ⟨watches.1, watches.2.1⟩
  | _ => exact watches.elim

namespace Constraint.Watches

variable {c : Constraint} (watches : c.Watches)

include watches

/-- A constraint that watches is not hard. -/
theorem isHard : c.isHard = .ok false := by
  unfold Constraint.isHard
  rw [watches.idle]
  rfl

/-- A constraint that watches is no wish. -/
theorem isWish : c.isWish = .ok false := by
  unfold Constraint.isWish
  rw [watches.idle]
  rfl

end Constraint.Watches

/-- A sketch goes on as another one, by constraints that only watch and by fixed slots, among them
those into which these constraints measure. -/
structure Sketch.Watched (sketch watched : Sketch) (more : List Slot)
    (watchers : List Constraint) : Prop where
  store : watched.store = sketch.store.extended more
  held : ∀ slot ∈ more, slot.fixed
  constraints : watched.constraints = sketch.constraints ++ watchers
  watches : ∀ c ∈ watchers, c.Watches
  apart : ∀ c ∈ watchers, ∀ slot, c.valueSlot = some slot → sketch.store.size ≤ slot
  pointed : ∀ c ∈ watchers, ∀ operand ∈ c.operands, operand.Pointed
  options : watched.options = sketch.options
  attempt : watched.attempt = sketch.attempt

namespace Sketch

variable {sketch watched : Sketch} {more : List Slot} {watchers : List Constraint}

/-- A sketch goes on as it is. -/
theorem watched_refl (sketch : Sketch) : sketch.Watched sketch [] [] where
  store := (Store.extended_nil _).symm
  held := List.forall_mem_nil _
  constraints := (List.append_nil _).symm
  watches := List.forall_mem_nil _
  apart := List.forall_mem_nil _
  pointed := List.forall_mem_nil _
  options := rfl
  attempt := rfl

/-- Slots are apart, constraints state relations and measure what is their own. -/
structure Regular (sketch : Sketch) : Prop where
  sound : sketch.Sound
  stated : sketch.Stated
  own : sketch.MeasuresOwn

/-- A new sketch is regular. -/
theorem regular_start (identity : Nat) (options : SolveOptions) (journal : Journal) :
    (start identity options journal).Regular :=
  ⟨sound_start .., stated_start .., List.forall_mem_nil _⟩

/-- Every alteration by built-in kinds keeps a sketch regular. -/
theorem Regular.alteration (regular : sketch.Regular)
    (alteration : Alteration .builtin sketch watched) : watched.Regular := by
  refine ⟨regular.sound.alteration alteration, ?_, regular.own.alteration alteration⟩
  cases alteration with
  | changed change => exact regular.stated.change change fun _ known => known
  | overwritten => exact regular.stated.mono rfl (.refl _) (.refl _)

/-- What proceeds by changes with built-in kinds keeps a sketch regular. -/
theorem Regular.outcome {α : Type} {request : Session α} (regular : sketch.Regular)
    (proceeds : Session.Proceeds (Change .builtin) request) :
    (request.outcome sketch).2.Regular := by
  have steps := proceeds sketch
  generalize (request.outcome sketch).2 = after at steps
  induction steps with
  | refl => exact regular
  | tail _ change ih => exact ih.alteration (.changed change)

/-- Every constraint of a regular sketch states a relation of slots that exist. -/
theorem Regular.statesWithin (regular : sketch.Regular) :
    ∀ c ∈ sketch.constraints, c.StatesWithin sketch.store.size :=
  fun c registered => ⟨regular.stated.relates c registered, regular.sound.operands c registered⟩

/-- The slots that constraints of a regular sketch measure exist. -/
theorem Regular.lt_of_valueSlot (regular : sketch.Regular) :
    ∀ c ∈ sketch.constraints, ∀ slot, c.valueSlot = some slot → slot < sketch.store.size :=
  fun c registered slot measures =>
    regular.sound.slotsApart.literals c registered slot (regular.own c registered slot measures)

/-- The wishes that an algorithm heeds are registered. -/
theorem heeded_subset {algorithm : Algorithm} {wishes : List Constraint}
    (heeded : sketch.heeded algorithm = .ok wishes) : wishes ⊆ sketch.constraints := by
  unfold Sketch.heeded at heeded
  split at heeded
  · obtain ⟨-, rfl⟩ := filterM_eq_ok.mp heeded
    exact List.filter_sublist.subset
  · cases heeded
    exact List.nil_subset _

/-- Free slots exist. -/
theorem lt_of_mem_freeIndices {store : Store} {slot : Nat} (free : slot ∈ store.freeIndices) :
    slot < store.size := List.mem_range.mp (List.mem_of_mem_filter free)

namespace Watched

variable (goes : sketch.Watched watched more watchers)

include goes

/-- The slots that were there are still there. -/
theorem size_le : sketch.store.size ≤ watched.store.size := by
  rw [goes.store, Store.size_extended]
  exact Nat.le_add_right ..

/-- Watchers leave the hard constraints. -/
theorem hard_eq : watched.hard = sketch.hard := by
  unfold hard
  rw [goes.constraints]
  exact filterM_append_of_no fun c there => (goes.watches c there).isHard

/-- Watchers leave the wishes that an algorithm heeds. -/
theorem heeded_eq (algorithm : Algorithm) : watched.heeded algorithm = sketch.heeded algorithm := by
  have wishes : watched.wishes = sketch.wishes := by
    unfold Sketch.wishes
    rw [goes.constraints]
    exact filterM_append_of_no fun c there => (goes.watches c there).isWish
  unfold heeded
  rw [wishes]

/-- Watchers leave the choice of the algorithm. -/
theorem algorithmFor_eq (requested : Algorithm) :
    watched.algorithmFor requested = sketch.algorithmFor requested := by
  have temporary : watched.hasTemporary = sketch.hasTemporary := by
    unfold hasTemporary
    rw [goes.constraints]
    exact anyM_append_of_no fun c there => (goes.watches c there).lasting
  unfold algorithmFor
  rw [temporary]

/-- Watchers leave the free slots. -/
theorem freeIndices_eq : watched.store.freeIndices = sketch.store.freeIndices := by
  rw [goes.store, Store.freeIndices_extended goes.held]

/-- Watchers leave what can be applied. -/
theorem applicable?_eq (bestEffort : Value) :
    watched.applicable? bestEffort = sketch.applicable? bestEffort := by
  unfold applicable?
  rw [goes.attempt, goes.store]
  rfl

section Solving

variable (regular : sketch.Regular)

include regular

/-- Watchers leave the rows as a function of the free values. -/
theorem freeRows_eq {constraints : List Constraint} (known : constraints ⊆ sketch.constraints) :
    freeRows constraints watched.store.snapshot sketch.store.freeIndices =
      freeRows constraints sketch.store.snapshot sketch.store.freeIndices := by
  rw [goes.store, Store.snapshot_extended]
  refine freeRows_append (fun c there => ?_) fun slot free => ?_
  · rw [Store.size_snapshot]
    exact regular.statesWithin c (known there)
  · rw [Store.size_snapshot]
    exact lt_of_mem_freeIndices free

/-- The problem that is posed to a backend is the same. -/
theorem problem_eq (algorithm : Algorithm) :
    watched.problem algorithm = sketch.problem algorithm := by
  have start : gather watched.store.snapshot sketch.store.freeIndices =
      gather sketch.store.snapshot sketch.store.freeIndices := by
    rw [goes.store, Store.snapshot_extended]
    refine gather_append fun slot free => ?_
    rw [Store.size_snapshot]
    exact lt_of_mem_freeIndices free
  unfold problem
  dsimp only
  rw [goes.hard_eq, goes.heeded_eq, goes.freeIndices_eq, start]
  cases listed : sketch.hard with
  | error fault => rfl
  | ok hard =>
    rw [ok_bind, ok_bind, goes.freeRows_eq regular fun c there => (mem_hard listed there).1]
    cases wished : sketch.heeded algorithm with
    | error fault => rfl
    | ok wishes =>
      rw [ok_bind, ok_bind, goes.freeRows_eq regular (heeded_subset wished)]

/-- A proposal is judged the same. -/
theorem judge_eq (leastSquares : LeastSquares) (algorithm : Algorithm) (proposal : Proposal) :
    watched.judge leastSquares algorithm proposal =
      sketch.judge leastSquares algorithm proposal := by
  have generation : watched.store.generation = sketch.store.generation := by
    rw [goes.store]
    rfl
  unfold judge
  dsimp only
  rw [goes.hard_eq, goes.freeIndices_eq, goes.options, generation]
  cases listed : sketch.hard with
  | error fault => rfl
  | ok hard =>
    have registered : hard ⊆ sketch.constraints := fun c there => (mem_hard listed there).1
    have free : ∀ slot ∈ sketch.store.freeIndices, slot < sketch.store.snapshot.size :=
      fun slot there => by
        rw [Store.size_snapshot]
        exact lt_of_mem_freeIndices there
    have diagnosed (vector : Array Float) (size : vector.size = sketch.store.snapshot.size) :
        diagnose leastSquares hard (vector ++ (more.map (·.value)).toArray)
            sketch.store.freeIndices sketch.options =
          diagnose leastSquares hard vector sketch.store.freeIndices sketch.options := by
      refine diagnose_append (fun c there => ?_) (size ▸ free) _ _
      rw [size, Store.size_snapshot]
      exact regular.statesWithin c (registered there)
    rw [ok_bind, ok_bind, goes.freeRows_eq regular registered]
    cases freeRows hard sketch.store.snapshot sketch.store.freeIndices proposal.x with
    | error fault => rfl
    | ok rows =>
      rw [ok_bind, ok_bind, goes.store, Store.snapshot_extended]
      -- Where the diagnosis is made depends on whether the proposal is finite.
      by_cases finite : proposal.x.all Float.isFinite
      · simp only [if_pos finite]
        rw [scatter_append free]
        cases put : scatter sketch.store.snapshot sketch.store.freeIndices proposal.x with
        | error fault => rfl
        | ok filled =>
          show (diagnose _ hard (filled ++ _) _ _ >>= _) = _
          rw [diagnosed filled (size_scatter put)]
          rfl
      · simp only [if_neg finite]
        rw [ok_bind, ok_bind, diagnosed _ rfl]

/-- A solve comes to the same. -/
theorem attemptBy_eq (backend : Backend) (request : Value) :
    watched.attemptBy backend request = sketch.attemptBy backend request := by
  unfold attemptBy
  have algorithms : watched.algorithmFor = sketch.algorithmFor := funext goes.algorithmFor_eq
  have problems : watched.problem = sketch.problem := funext (goes.problem_eq regular)
  have judges : watched.judge backend.leastSquares = sketch.judge backend.leastSquares :=
    funext fun algorithm => funext (goes.judge_eq regular _ algorithm)
  rw [algorithms, problems, judges, goes.options]

/-- A solve answers the same, and afterwards the sketch still goes on as the other one. -/
theorem solve (backend : Backend) (request : Value) :
    ((Session.solve backend request).outcome watched).1 =
        ((Session.solve backend request).outcome sketch).1 ∧
      Watched ((Session.solve backend request).outcome sketch).2
        ((Session.solve backend request).outcome watched).2 more watchers := by
  obtain ⟨journal, first⟩ := Session.outcome_solve backend request sketch
  obtain ⟨later, second⟩ := Session.outcome_solve backend request watched
  rw [goes.attemptBy_eq regular] at second
  rw [first, second]
  cases sketch.attemptBy backend request with
  | error fault => exact ⟨rfl, { goes with }⟩
  | ok attempt => exact ⟨rfl, { goes with attempt := rfl }⟩

end Solving

/-- Further literals let the sketch go on. -/
theorem lost (resolved : List Resolved) (tag : Int) :
    sketch.Watched (watched.withTaken (literals resolved) tag)
      (more ++ (literals resolved).map fun value => ⟨value, true, tag, false⟩) watchers where
  store := by
    rw [← Store.extended_extended, ← goes.store]
    rfl
  held slot there := by
    rcases List.mem_append.mp there with before | new
    · exact goes.held slot before
    · obtain ⟨value, -, rfl⟩ := List.mem_map.mp new
      rfl
  constraints := goes.constraints
  watches := goes.watches
  apart := goes.apart
  pointed := goes.pointed
  options := goes.options
  attempt := goes.attempt

/-- A further constraint that only watches lets the sketch go on. -/
theorem constrained {spec : ConstraintKind} {resolved : List Resolved} {modifiers : Modifiers}
    {tag : Int} {block : Block}
    (watches : (watched.nextConstraint spec resolved modifiers tag block).Watches)
    (pointed : ∀ operand ∈ placedOperands watched.store.size resolved, operand.Pointed) :
    sketch.Watched (watched.withConstraint spec resolved modifiers tag block)
      (more ++ (literals resolved).map fun value => ⟨value, true, tag, false⟩)
      (watchers ++ [watched.nextConstraint spec resolved modifiers tag block]) := by
  have loses := goes.lost resolved tag
  refine ⟨loses.store, loses.held, ?_, fun c there => ?_, fun c there => ?_, fun c there => ?_,
    goes.options, goes.attempt⟩
  · rw [← List.append_assoc, ← goes.constraints]
    rfl
  all_goals
    rcases List.mem_append.mp there with before | last
  · exact goes.watches c before
  · rw [List.mem_singleton.mp last]
    exact watches
  · exact goes.apart c before
  · rw [List.mem_singleton.mp last]
    intro slot measures
    have owned := owned_place watched.store.size resolved ▸ measuredSlot_mem measures
    exact Nat.le_trans goes.size_le (List.mem_range'_1.mp owned).1
  · exact goes.pointed c before
  · rw [List.mem_singleton.mp last]
    exact pointed

/-- A request to watch, answered or refused, lets the sketch go on. -/
theorem request {request : Request} (watches : request.Watches) (stated : watched.Stated) :
    ∃ later others, sketch.Watched (watched.after request) later others := by
  cases request with
  | addConstraint kind operands driving temporary scale tag =>
    obtain ⟨known, offered, idle, lasting⟩ := watches
    have after : watched.after (.addConstraint kind operands driving temporary scale tag) =
        ((Session.addConstraint kind operands driving temporary scale tag).outcome watched).2 :=
      congrArg Prod.snd (Session.outcome_bind_pure ..)
    rw [after]
    rcases Session.outcome_addConstraint_cases kind operands driving temporary scale tag watched
      with ⟨fault, refused⟩ | ⟨modifiers, checked, found⟩
    · rw [refused]
      exact ⟨more, watchers, goes⟩
    rw [found]
    rcases Session.outcome_constrain_cases kind operands modifiers tag watched with
      ⟨fault, journal, refused⟩ |
      ⟨spec, resolved, named, ⟨fault, t, journal, refused, -⟩ |
        ⟨t, block, answer, journal, -, built, registered, -⟩⟩
    · rw [refused]
      exact ⟨more, watchers, { goes with }⟩
    · rw [refused]
      exact ⟨_, watchers, { goes.lost resolved t with }⟩
    · rw [registered]
      obtain ⟨same, also⟩ := Modifiers.flags_of_eq_ok checked
      have only : (watched.nextConstraint spec resolved modifiers t block).Watches :=
        ⟨same ▸ idle, also ▸ lasting⟩
      exact ⟨_, _, { goes.constrained only (stated.placed
        (fun _ given view same => absurd same (offered _ given view)) named) with }⟩
  | _ => exact watches.elim

end Watched

/-- Requests to watch, answered or refused, let a sketch go on. -/
theorem watched_afterAll {requests : List Request} (watches : ∀ request ∈ requests, request.Watches)
    (regular : watched.Regular) (goes : sketch.Watched watched more watchers) :
    ∃ later others, sketch.Watched (watched.afterAll requests) later others ∧
      (watched.afterAll requests).Regular := by
  induction requests generalizing watched more watchers with
  | nil => exact ⟨more, watchers, goes, regular⟩
  | cons request rest ih =>
    have first := watches request List.mem_cons_self
    obtain ⟨later, others, went⟩ := goes.request first regular.stated
    exact ih (fun request there => watches request (List.mem_cons_of_mem _ there))
      (regular.outcome (Request.proceeds first.within.builtin)) went

namespace Watched

variable {bestEffort : Value} (goes : sketch.Watched watched more watchers)

include goes

/-- A solution is written as if there were no watchers. -/
theorem written_eq (slots : List Nat) (values : List Float) :
    (watched.written slots values).store = (sketch.written slots values).store.extended more := by
  show (watched.store.writeFreeAll _).2 = _
  rw [goes.store, Store.writeFreeAll_extended goes.held]
  rfl

/-- Once a solution is written, the constraints of the sketch measure what they measure without
watchers, and the watchers measure after them. -/
theorem measurements_written (regular : sketch.Regular) (slots : List Nat) (values : List Float) :
    measurements (watched.written slots values).store.snapshot watched.constraints =
      measurements (sketch.written slots values).store.snapshot sketch.constraints >>= fun before =>
        (measurements (watched.written slots values).store.snapshot watchers).map
          fun behind => before ++ behind := by
  have size : (sketch.written slots values).store.size = sketch.store.size :=
    Store.size_writeFreeAll ..
  rw [goes.constraints, measurements_append, goes.written_eq, Store.snapshot_extended,
    measurements_append_vector]
  · rw [Store.size_snapshot, size]
    exact regular.statesWithin
  · rw [Store.size_snapshot, size]
    exact regular.lt_of_valueSlot

/-- What watchers measure leaves the slots that were there. -/
theorem slots_commit {store : Store} (size : store.size = sketch.store.size) {vector : Array Float}
    {before behind : List (Nat × Float)} (measured : measurements vector watchers = .ok behind)
    {place : Nat} (inside : place < sketch.store.size) :
    ((store.extended more).commit (before ++ behind)).slots[place]? =
      (store.commit before).slots[place]? := by
  have steps : (store.extended more).commit (before ++ behind) =
      ((store.extended more).commit before).commit behind := List.foldl_append
  rw [steps, Store.slots_commit_of_idle fun pair there same => ?_]
  · exact Store.slots_commit_congr before (Store.slots_extended (size ▸ inside))
  · obtain ⟨c, among, measures⟩ := (mem_measurements measured).mp there
    have outside := goes.apart c among pair.1 (valueSlot_of_measurement measures)
    omega

/-- Only a watcher that measures an angle may be such that it cannot be measured. -/
theorem angle_of_unmeasurable (also : watched.Regular) {c : Constraint} (among : c ∈ watchers)
    {vector : Array Float} (size : vector.size = watched.store.size)
    (unmeasured : ¬ c.Measurable vector) :
    c.kind = BuiltinKind.pointAngle.name ∨ c.kind = BuiltinKind.lineAngle.name := by
  have registered : c ∈ watched.constraints := by
    rw [goes.constraints]
    exact List.mem_append_right _ among
  by_contra plain
  refine unmeasured ((also.stated.relates c registered).measurable (goes.watches c among).idle
    (fun slot measures => ?_) (fun operand given index there => ?_) (goes.pointed c among)
    (not_or.mp plain))
  · rw [size]
    exact also.lt_of_valueSlot c registered slot measures
  · rw [size]
    exact also.sound.operands c registered operand given index there

/-- Applying answers the same and leaves the same slots, unless a watcher that measures an angle
cannot be measured. -/
theorem apply (regular : sketch.Regular) (also : watched.Regular) (bestEffort : Value) :
    let applied := (Session.apply bestEffort).outcome sketch
    let alsoApplied := (Session.apply bestEffort).outcome watched
    (alsoApplied.1 = applied.1 ∧ ∀ place : Nat, place < sketch.store.size →
        alsoApplied.2.store.slots[place]? = applied.2.store.slots[place]?) ∨
      (applied.1 = .ok true ∧ (∃ fault, alsoApplied.1 = .error fault) ∧
        ∃ slots values, sketch.applicable? bestEffort = .ok (some (slots, values)) ∧
          alsoApplied.2.store = (watched.written slots values).store ∧
          ∃ c ∈ watchers, ¬ c.Measurable alsoApplied.2.store.snapshot ∧
            (c.kind = BuiltinKind.pointAngle.name ∨ c.kind = BuiltinKind.lineAngle.name)) := by
  intro applied alsoApplied
  obtain ⟨journal, first⟩ : ∃ journal, applied = _ :=
    Session.outcome_apply regular.own regular.sound bestEffort
  obtain ⟨later, second⟩ : ∃ journal, alsoApplied = _ :=
    Session.outcome_apply also.own also.sound bestEffort
  have unmoved (place : Nat) (inside : place < sketch.store.size) :
      watched.store.slots[place]? = sketch.store.slots[place]? := by
    rw [goes.store, Store.slots_extended inside]
  rw [goes.applicable?_eq] at second
  cases pending : sketch.applicable? bestEffort with
  | error fault =>
    rw [pending] at first second
    rw [first, second]
    exact .inl ⟨rfl, unmoved⟩
  | ok solution =>
  rw [pending] at first second
  cases solution with
  | none =>
    rw [first, second]
    exact .inl ⟨rfl, unmoved⟩
  | some solution =>
  obtain ⟨slots, values⟩ := solution
  dsimp only at first second
  cases fits : Store.checkRow slots values.length values with
  | error fault =>
    rw [fits] at first second
    rw [first, second]
    exact .inl ⟨rfl, unmoved⟩
  | ok _ =>
  rw [fits] at first second
  dsimp only at first second
  have size : (sketch.written slots values).store.size = sketch.store.size :=
    Store.size_writeFreeAll ..
  have written (place : Nat) (inside : place < sketch.store.size) :
      (watched.written slots values).store.slots[place]? =
        (sketch.written slots values).store.slots[place]? := by
    rw [goes.written_eq, Store.slots_extended (size ▸ inside)]
  rw [goes.measurements_written regular] at second
  cases before : measurements (sketch.written slots values).store.snapshot sketch.constraints with
  | error fault =>
    rw [before] at first second
    rw [first, second]
    exact .inl ⟨rfl, written⟩
  | ok measured =>
  rw [before, ok_bind] at second
  rw [before] at first
  cases behind : measurements (watched.written slots values).store.snapshot watchers with
  | ok others =>
    rw [behind] at second
    refine .inl ?_
    rw [first, second]
    refine ⟨rfl, fun place inside => ?_⟩
    dsimp only
    rw [goes.written_eq]
    exact goes.slots_commit size behind inside
  | error fault =>
    obtain ⟨c, among, unmeasured⟩ := exists_unmeasurable behind
    have count : (watched.written slots values).store.snapshot.size = watched.store.size :=
      (Store.size_snapshot _).trans (Store.size_writeFreeAll ..)
    have angle := goes.angle_of_unmeasurable also among count unmeasured
    rw [behind] at second
    refine .inr ?_
    rw [first, second]
    exact ⟨rfl, ⟨fault, rfl⟩, slots, values, rfl, rfl, c, among, unmeasured, angle⟩

end Watched

end Sketch

/-- A session constrains by built-in kinds only; then the same session goes on by requests for
constraints that only watch, given by reference. A solve chooses the same algorithm for both, poses
the same problem to the backend and comes to the same outcome, or is refused for the same fault.
Applying afterwards answers the same, and the slots that were there have the same contents, unless
a watcher that measures an angle cannot be measured: then applying, which succeeds without
watchers, is refused with the solution written and nothing measured. -/
theorem solve_and_apply_watched {sketch : Sketch} (built : sketch.Edited .builtin)
    {requests : List Request} (watches : ∀ request ∈ requests, request.Watches)
    (backend : Backend) (request bestEffort : Value)
    {status alsoStatus : Except Fault SolveStatus} {answer alsoAnswer : Except Fault Bool}
    {solved alsoSolved applied alsoApplied : Sketch}
    (solves : (Session.solve backend request).outcome sketch = (status, solved))
    (applies : (Session.apply bestEffort).outcome solved = (answer, applied))
    (alsoSolves : (Session.solve backend request).outcome (sketch.afterAll requests) =
      (alsoStatus, alsoSolved))
    (alsoApplies : (Session.apply bestEffort).outcome alsoSolved = (alsoAnswer, alsoApplied)) :
    (sketch.afterAll requests).options = sketch.options ∧
    (∀ algorithm,
      (sketch.afterAll requests).algorithmFor algorithm = sketch.algorithmFor algorithm ∧
        (sketch.afterAll requests).problem algorithm = sketch.problem algorithm) ∧
    alsoStatus = status ∧
    ((alsoAnswer = answer ∧ ∀ place : Nat, place < sketch.store.size →
        alsoApplied.store.slots[place]? = applied.store.slots[place]?) ∨
      (answer = .ok true ∧ (∃ fault, alsoAnswer = .error fault) ∧
        ∃ slots values, solved.applicable? bestEffort = .ok (some (slots, values)) ∧
          alsoApplied.store = (alsoSolved.written slots values).store ∧
          ∃ c ∈ (sketch.afterAll requests).constraints.drop sketch.constraints.length,
            ¬ c.Measurable alsoApplied.store.snapshot ∧
            (c.kind = BuiltinKind.pointAngle.name ∨ c.kind = BuiltinKind.lineAngle.name))) := by
  have regular : sketch.Regular :=
    built.invariant (fun _ _ _ => Sketch.regular_start ..) Sketch.Regular.alteration
  obtain ⟨more, watchers, goes, also⟩ := Sketch.watched_afterAll watches regular
    sketch.watched_refl
  obtain ⟨same, went⟩ := goes.solve regular backend request
  have solvedRegular := regular.outcome (@Session.proceeds_solve _ backend request)
  have alsoRegular := also.outcome (@Session.proceeds_solve _ backend request)
  have store := Session.store_outcome_solve backend request sketch
  rw [solves] at same went solvedRegular store
  rw [alsoSolves] at same went alsoRegular
  refine ⟨goes.options, fun algorithm =>
    ⟨goes.algorithmFor_eq algorithm, goes.problem_eq regular algorithm⟩, same, ?_⟩
  have result := went.apply solvedRegular alsoRegular bestEffort
  rw [applies, alsoApplies, store] at result
  rw [goes.constraints, List.drop_left]
  exact result

/-- The two points are watched: the ordinate of the first, and the step between their ordinates. -/
def watching : List Request :=
  [.addConstraint (.text "coordinate_y") [.int 0, .float 9.0] (.bool false) (.bool false)
      (.float 1.0) (.int 0),
    .addConstraint (.text "difference")
      [.property (.int 0) (.text "y"), .property (.int 1) (.text "y"), .float 4.0]
      (.bool false) (.bool false) (.float 1.0) (.int 0)]

/-- The two points are solved and applied alike with and without being watched. -/
theorem solve_and_apply_watched_surveyed :
    ∃ status solved applied alsoSolved alsoApplied,
      (Session.solve surveyor (.text "dogleg")).outcome surveyed = (status, solved) ∧
      (Session.apply (.bool false)).outcome solved = (.ok true, applied) ∧
      (Session.solve surveyor (.text "dogleg")).outcome (surveyed.afterAll watching) =
        (status, alsoSolved) ∧
      (Session.apply (.bool false)).outcome alsoSolved = (.ok true, alsoApplied) ∧
      (surveyed.afterAll watching).store.size = 8 ∧
      ∀ place : Nat, place < 6 →
        alsoApplied.store.slots[place]? = applied.store.slots[place]? := by
  have watches : ∀ request ∈ watching, request.Watches := by
    intro request there
    simp only [watching, List.mem_cons, List.not_mem_nil, or_false] at there
    rcases there with rfl | rfl
    · exact ⟨⟨.coordinateY, rfl⟩, by simp [Scope.byReference], rfl, rfl⟩
    · exact ⟨⟨.difference, rfl⟩, by simp [Scope.byReference], rfl, rfl⟩
  have size : surveyed.store.size = 6 := by decide +kernel
  have grown : (surveyed.afterAll watching).store.size = 8 := by decide +kernel
  have succeeds : ((Session.apply (.bool false)).outcome
      ((Session.solve surveyor (.text "dogleg")).outcome
        (surveyed.afterAll watching)).2).1.toOption = some true := by decide +kernel
  rcases solves : (Session.solve surveyor (.text "dogleg")).outcome surveyed with ⟨status, solved⟩
  rcases alsoSolves : (Session.solve surveyor (.text "dogleg")).outcome
    (surveyed.afterAll watching) with ⟨alsoStatus, alsoSolved⟩
  rcases applies : (Session.apply (.bool false)).outcome solved with ⟨answer, applied⟩
  rcases alsoApplies : (Session.apply (.bool false)).outcome alsoSolved with
    ⟨alsoAnswer, alsoApplied⟩
  rw [alsoSolves, alsoApplies] at succeeds
  obtain ⟨-, -, rfl, ⟨rfl, slots⟩ | ⟨-, ⟨fault, rfl⟩, -⟩⟩ :=
    solve_and_apply_watched reached_surveyed.edited watches surveyor (.text "dogleg") (.bool false)
      solves applies alsoSolves alsoApplies
  · rw [size] at slots
    cases alsoAnswer with
    | error fault => cases succeeds
    | ok told =>
      cases succeeds
      exact ⟨_, _, _, _, _, rfl, applies, rfl, alsoApplies, grown, slots⟩
  · cases succeeds

end Drafting
