import Drafting.Proofs.Scanning
import Drafting.Sketch
import Mathlib.Data.List.Nodup

/-!
# Classification

A diagnosis classifies constraints by counting: how many of a constraint's rows are dependent in
groups that hold. Here the counts are given their meaning. A constraint conflicts if it stands in a
group with a member that does not hold; one that does not conflict owns dependent rows in groups
that hold only, so all its dependent rows are counted, and it is redundant if these are all its
rows and redundant in part if they are some of them.
-/

namespace Drafting

/-- A constraint misses a tolerance if one of its rows is not within it. -/
def Constraint.Misses (c : Constraint) (vector : Array Float) (tolerance : Float) : Prop :=
  ∃ rows, c.rows vector = .ok rows ∧ ∃ row ∈ rows, ¬ row.abs ≤ tolerance

/-- Tags are those of the constraints with some identifiers. -/
def AreTagsOf (constraints : List Constraint) (ids : List Nat) (tags : List Int) : Prop :=
  ∀ tag, tag ∈ tags ↔ ∃ c ∈ constraints, c.id ∈ ids ∧ c.tag = tag

/-- What a diagnosis has to say about constraints whose rows were scanned, given which constraints
do not hold and how many slots are free. -/
structure Diagnosis.Classifies (d : Diagnosis) (constraints : List Constraint)
    (missed : Constraint → Prop) (free : Nat) (rows : List ScannedRow) : Prop where
  /-- The rank counts the independent rows, and every other row has a group. -/
  rank : d.rank = rows.countP ScannedRow.isIndependent
  ranked : d.rank + d.groups.length = rows.length
  freedom : d.freedom = free - d.rank
  /-- In the order of the scan, a dependent row has a group of listed constraints with its own. -/
  groups : List.Forall₂
    (fun row group => row.owner.id ∈ group ∧ ∀ id ∈ group, ∃ c ∈ constraints, c.id = id)
    (rows.filter (!·.isIndependent)) d.groups
  /-- Only listed constraints are named. -/
  listed : ∀ id ∈ d.conflictingIds ++ d.redundantIds ++ d.partialIds, ∃ c ∈ constraints, c.id = id
  conflicting : ∀ c ∈ constraints,
    (c.id ∈ d.conflictingIds ↔
      ∃ group ∈ d.groups, c.id ∈ group ∧ ∃ m ∈ constraints, m.id ∈ group ∧ missed m)
  redundant : ∀ c ∈ constraints,
    (c.id ∈ d.redundantIds ↔
      c.id ∉ d.conflictingIds ∧ ∀ row ∈ rows, row.owner.id = c.id → ¬ row.isIndependent)
  partiallyRedundant : ∀ c ∈ constraints,
    (c.id ∈ d.partialIds ↔
      c.id ∉ d.conflictingIds ∧ c.id ∉ d.redundantIds ∧
        ∃ row ∈ rows, row.owner.id = c.id ∧ ¬ row.isIndependent)
  /-- The three sets of identifiers have nothing in common. -/
  conflicting_redundant : d.conflictingIds.Disjoint d.redundantIds
  conflicting_partial : d.conflictingIds.Disjoint d.partialIds
  redundant_partial : d.redundantIds.Disjoint d.partialIds
  conflicting_tags : AreTagsOf constraints d.conflictingIds d.conflicting
  redundant_tags : AreTagsOf constraints d.redundantIds d.redundant
  partial_tags : AreTagsOf constraints d.partialIds d.partiallyRedundant
  /-- Whether there is any constraint of a sort shows in its tags. -/
  has_conflicting : d.hasConflicting ↔ d.conflicting ≠ []
  has_redundant : d.hasRedundant ↔ d.redundant ≠ []
  has_partial : d.hasPartiallyRedundant ↔ d.partiallyRedundant ≠ []

section Ascending

variable {α : Type} [BEq α] [LawfulBEq α]

/-- The loop that drops repetitions keeps the item at hand, those to come and those gathered. -/
private theorem mem_eraseRepsBy_loop {item current : α} {rest gathered : List α} :
    item ∈ List.eraseRepsBy.loop (· == ·) current rest gathered ↔
      item = current ∨ item ∈ rest ∨ item ∈ gathered := by
  induction rest generalizing current gathered with
  | nil => simp [List.eraseRepsBy.loop, or_comm]
  | cons next rest ih =>
    rw [List.eraseRepsBy.loop]
    cases same : current == next with
    | true =>
      rw [ih, List.mem_cons, ← eq_of_beq same]
      exact ⟨by rintro (known | known | known) <;> simp [known],
        by rintro (known | (known | known) | known) <;> simp [known]⟩
    | false =>
      rw [ih, List.mem_cons, List.mem_cons]
      exact ⟨by rintro (known | known | known | known) <;> simp [known],
        by rintro (known | (known | known) | known) <;> simp [known]⟩

/-- Dropping repetitions keeps every item. -/
theorem mem_eraseReps {item : α} {items : List α} : item ∈ items.eraseReps ↔ item ∈ items := by
  cases items with
  | nil => exact Iff.rfl
  | cons first rest =>
    show item ∈ List.eraseRepsBy.loop (· == ·) first rest [] ↔ _
    rw [mem_eraseRepsBy_loop, List.mem_cons]
    simp

end Ascending

/-- The loop that drops repetitions puts what is sorted in ascending order. -/
private theorem pairwise_eraseRepsBy_loop {current : Int} {rest gathered : List Int}
    (sorted : (current :: rest).Pairwise (· ≤ ·)) (descending : gathered.Pairwise (· > ·))
    (below : ∀ item ∈ gathered, item < current) :
    (List.eraseRepsBy.loop (· == ·) current rest gathered).Pairwise (· < ·) := by
  induction rest generalizing current gathered with
  | nil =>
    rw [List.eraseRepsBy.loop, List.pairwise_reverse]
    exact List.pairwise_cons.mpr ⟨below, descending⟩
  | cons next rest ih =>
    obtain ⟨least, later⟩ := List.pairwise_cons.mp sorted
    rw [List.eraseRepsBy.loop]
    cases same : current == next with
    | true =>
      exact ih (sorted.sublist ((List.sublist_cons_self next rest).cons_cons current)) descending
        below
    | false =>
      have after : current < next :=
        Int.lt_iff_le_and_ne.mpr ⟨least next List.mem_cons_self, ne_of_beq_false same⟩
      refine ih later (List.pairwise_cons.mpr ⟨below, descending⟩) ?_
      intro item there
      rcases List.mem_cons.mp there with rfl | earlier
      · exact after
      · exact Int.lt_trans (below item earlier) after

/-- What is sorted ascends once repetitions are dropped. -/
theorem pairwise_eraseReps {items : List Int} (sorted : items.Pairwise (· ≤ ·)) :
    items.eraseReps.Pairwise (· < ·) := by
  cases items with
  | nil => exact .nil
  | cons first rest => exact pairwise_eraseRepsBy_loop sorted .nil (List.forall_mem_nil _)

/-- Sorting and dropping repetitions keeps every identifier. -/
@[simp] theorem mem_ascending {id : Nat} {ids : List Nat} : id ∈ ascending ids ↔ id ∈ ids := by
  rw [ascending, mem_eraseReps, List.mem_mergeSort]

/-- Sorting and dropping repetitions keeps every tag. -/
@[simp] theorem mem_ascendingTags {tag : Int} {tags : List Int} :
    tag ∈ ascendingTags tags ↔ tag ∈ tags := by
  rw [ascendingTags, mem_eraseReps, List.mem_mergeSort]

/-- Tags are brought in ascending order. -/
theorem pairwise_ascendingTags (tags : List Int) : (ascendingTags tags).Pairwise (· < ·) := by
  have sorted : (tags.mergeSort fun a b => decide (a ≤ b)).Pairwise (· ≤ ·) := by
    have sorts := @List.pairwise_mergeSort Int (fun a b => decide (a ≤ b))
      (fun a b c => by simpa using Int.le_trans) (fun a b => by simpa using Int.le_total a b) tags
    exact sorts.imp of_decide_eq_true
  exact pairwise_eraseReps sorted

section Dependent

variable {leastSquares : LeastSquares} {constraints : List Constraint} {rows : List ScannedRow}
  {dependent : List DependentRow}

/-- The group of a row has the row's own constraint, and no other members than owners of rows. -/
theorem groupMembers_spec {scanned : ScannedRow} {members : List Constraint}
    (known : scanned ∈ rows)
    (found : groupMembers leastSquares (rows.filter (·.isIndependent)) scanned = .ok members) :
    scanned.owner ∈ members ∧ ∀ m ∈ members, m ∈ rows.map (·.owner) := by
  obtain ⟨coefficients, -, same⟩ := bind_eq_ok.mp found
  cases same
  refine ⟨List.mem_cons_self, fun m member => ?_⟩
  rcases List.mem_cons.mp member with rfl | used
  · exact List.mem_map_of_mem known
  · obtain ⟨pair, kept, rfl⟩ := List.mem_map.mp used
    have independent := List.of_mem_zip (List.mem_of_mem_filter kept)
    exact List.mem_map_of_mem (List.mem_of_mem_filter independent.1)

/-- The dependent rows are found in the order of the scan, each with its constraint and its
group. -/
theorem forall₂_dependentRows (grouped : dependentRows leastSquares rows = .ok dependent) :
    List.Forall₂
      (fun scanned row => scanned.owner = row.owner ∧
        groupMembers leastSquares (rows.filter (·.isIndependent)) scanned = .ok row.members)
      (rows.filter (!·.isIndependent)) dependent := by
  refine (mapM_eq_ok.mp grouped).imp fun scanned row formed => ?_
  obtain ⟨members, found, same⟩ := bind_eq_ok.mp formed
  cases same
  exact ⟨rfl, found⟩

/-- A dependent row was scanned. -/
theorem exists_scanned (grouped : dependentRows leastSquares rows = .ok dependent)
    {row : DependentRow} (there : row ∈ dependent) :
    ∃ scanned ∈ rows, scanned.owner = row.owner ∧
      groupMembers leastSquares (rows.filter (·.isIndependent)) scanned = .ok row.members := by
  obtain ⟨scanned, kept, formed⟩ := mem_of_mapM grouped there
  obtain ⟨members, found, same⟩ := bind_eq_ok.mp formed
  cases same
  exact ⟨scanned, List.mem_of_mem_filter kept, rfl, found⟩

/-- The constraint of a dependent row stands in the row's group. -/
theorem owner_mem_members (grouped : dependentRows leastSquares rows = .ok dependent)
    {row : DependentRow} (there : row ∈ dependent) : row.owner ∈ row.members := by
  obtain ⟨scanned, known, own, found⟩ := exists_scanned grouped there
  rw [← own]
  exact (groupMembers_spec known found).1

/-- A group has no other members than the owners of rows. -/
theorem mem_owners_of_mem_members (grouped : dependentRows leastSquares rows = .ok dependent)
    {row : DependentRow} {m : Constraint} (there : row ∈ dependent) (member : m ∈ row.members) :
    m ∈ rows.map (·.owner) := by
  obtain ⟨scanned, known, -, found⟩ := exists_scanned grouped there
  exact (groupMembers_spec known found).2 m member

/-- The dependent rows of a constraint, counted in the scan. -/
theorem countP_dependentRows (grouped : dependentRows leastSquares rows = .ok dependent)
    (id : Nat) :
    dependent.countP (fun row => row.owner.id = id) =
      (rows.filter (!·.isIndependent)).countP (fun row => row.owner.id = id) := by
  have found := forall₂_dependentRows grouped
  clear grouped
  generalize rows.filter (!·.isIndependent) = scanned at found ⊢
  induction found with
  | nil => rfl
  | cons here _ ih => rw [List.countP_cons, List.countP_cons, ih, here.1]

/-- The rows of a constraint are independent or dependent. -/
theorem countP_owned (grouped : dependentRows leastSquares rows = .ok dependent)
    (distinct : (constraints.map (·.id)).Nodup)
    (owners : rows.map (·.owner) = rowOwners constraints) {c : Constraint}
    (listed : c ∈ constraints) :
    (rows.filter (·.isIndependent)).countP (fun row => row.owner.id = c.id) +
      dependent.countP (fun row => row.owner.id = c.id) = c.size := by
  rw [countP_dependentRows grouped, ← List.countP_eq_countP_filter_add,
    ← countP_rowOwners distinct listed, ← owners, List.countP_map]
  rfl

/-- A constraint has as many dependent rows as rows if none of its rows is independent. -/
theorem size_le_dependent_iff (grouped : dependentRows leastSquares rows = .ok dependent)
    (distinct : (constraints.map (·.id)).Nodup)
    (owners : rows.map (·.owner) = rowOwners constraints) {c : Constraint}
    (listed : c ∈ constraints) :
    c.size ≤ dependent.countP (fun row => row.owner.id = c.id) ↔
      ∀ row ∈ rows, row.owner.id = c.id → ¬ row.isIndependent := by
  have counts := countP_owned grouped distinct owners listed
  have vanishes : (rows.filter (·.isIndependent)).countP (fun row => row.owner.id = c.id) = 0 ↔
      ∀ row ∈ rows, row.owner.id = c.id → ¬ row.isIndependent := by
    rw [List.countP_eq_zero]
    simp only [List.mem_filter, decide_eq_true_eq]
    constructor
    · intro none row scanned own independent
      exact none row ⟨scanned, independent⟩ own
    · intro all row kept own
      exact all row kept.1 own kept.2
  rw [← vanishes]
  omega

/-- A constraint has a dependent row if one of its rows is not independent. -/
theorem dependent_pos_iff (grouped : dependentRows leastSquares rows = .ok dependent) (id : Nat) :
    0 < dependent.countP (fun row => row.owner.id = id) ↔
      ∃ row ∈ rows, row.owner.id = id ∧ ¬ row.isIndependent := by
  rw [countP_dependentRows grouped, List.countP_pos_iff]
  simp only [List.mem_filter, decide_eq_true_eq, Bool.not_eq_true']
  constructor
  · rintro ⟨row, ⟨scanned, dependent⟩, own⟩
    exact ⟨row, scanned, own, by simp [dependent]⟩
  · rintro ⟨row, scanned, own, dependent⟩
    exact ⟨row, ⟨scanned, Bool.eq_false_iff.mpr dependent⟩, own⟩

end Dependent

section Classify

variable {constraints broken : List Constraint} {rank free : Nat} {dependent : List DependentRow}

/-- A constraint conflicts if it stands in a group with one that does not hold. -/
theorem mem_conflictingIds {id : Nat} :
    id ∈ (classify constraints broken rank free dependent).conflictingIds ↔
      ∃ row ∈ dependent, (∃ m ∈ row.members, ∃ b ∈ broken, b.id = m.id) ∧
        ∃ m ∈ row.members, m.id = id := by
  simp only [classify, mem_ascending, List.mem_flatMap, List.mem_filter, List.any_eq_true,
    List.mem_map, decide_eq_true_eq, and_assoc]

/-- How many dependent rows a constraint has in groups that hold. -/
def heldCount (broken : List Constraint) (dependent : List DependentRow) (id : Nat) : Nat :=
  ((dependent.filter fun row => !row.members.any fun m => broken.any fun b => b.id = m.id).filter
    fun row => row.owner.id = id).length

/-- All dependent rows of a constraint that does not conflict belong to groups that hold. -/
theorem heldCount_eq {id : Nat} (owned : ∀ row ∈ dependent, row.owner ∈ row.members)
    (peaceful : id ∉ (classify constraints broken rank free dependent).conflictingIds) :
    heldCount broken dependent id = dependent.countP (fun row => row.owner.id = id) := by
  rw [heldCount, ← List.countP_eq_length_filter, List.countP_filter]
  apply List.countP_congr
  intro row there
  simp only [Bool.and_eq_true, decide_eq_true_eq, and_iff_left_iff_imp]
  intro own
  -- A group that does not hold would make the owner of its row conflict.
  rw [Bool.not_eq_true', List.any_eq_false]
  intro m member breaks
  obtain ⟨b, found, same⟩ := List.any_eq_true.mp breaks
  exact peaceful (mem_conflictingIds.mpr
    ⟨row, there, ⟨m, member, b, found, of_decide_eq_true same⟩, row.owner, owned row there, own⟩)

/-- The constraints chosen among those that do not conflict and have rows in groups that hold. -/
theorem mem_chosen {conflicting : List Nat} {id : Nat} (chosen : Constraint → Bool) :
    id ∈ ascending (((constraints.filter fun c =>
        0 < heldCount broken dependent c.id && !conflicting.contains c.id).filter chosen).map
          (·.id)) ↔
      ∃ c ∈ constraints, c.id = id ∧ c.id ∉ conflicting ∧
        0 < heldCount broken dependent c.id ∧ chosen c := by
  rw [mem_ascending, List.mem_map]
  simp only [List.mem_filter, Bool.and_eq_true, decide_eq_true_eq, Bool.not_eq_true',
    List.contains_eq_mem, decide_eq_false_iff_not]
  constructor
  · rintro ⟨c, ⟨⟨listed, some, peaceful⟩, suits⟩, rfl⟩
    exact ⟨c, listed, rfl, peaceful, some, suits⟩
  · rintro ⟨c, listed, rfl, peaceful, some, suits⟩
    exact ⟨c, ⟨⟨listed, some, peaceful⟩, suits⟩, rfl⟩

/-- A redundant constraint does not conflict and has as many rows in groups that hold as at all. -/
theorem mem_redundantIds {id : Nat} :
    id ∈ (classify constraints broken rank free dependent).redundantIds ↔
      ∃ c ∈ constraints, c.id = id ∧
        c.id ∉ (classify constraints broken rank free dependent).conflictingIds ∧
          0 < heldCount broken dependent c.id ∧ c.size ≤ heldCount broken dependent c.id := by
  refine (mem_chosen fun c => c.size ≤ heldCount broken dependent c.id).trans ?_
  simp only [decide_eq_true_eq]
  rfl

/-- A constraint that is redundant in part does not conflict and has some of its rows in groups that
hold. -/
theorem mem_partialIds {id : Nat} :
    id ∈ (classify constraints broken rank free dependent).partialIds ↔
      ∃ c ∈ constraints, c.id = id ∧
        c.id ∉ (classify constraints broken rank free dependent).conflictingIds ∧
          0 < heldCount broken dependent c.id ∧ heldCount broken dependent c.id < c.size := by
  refine (mem_chosen fun c => heldCount broken dependent c.id < c.size).trans ?_
  simp only [decide_eq_true_eq]
  rfl

end Classify

/-- The tags of some identifiers are exactly those of the constraints that have them. -/
theorem areTagsOf_tagsOf (constraints : List Constraint) (ids : List Nat) :
    AreTagsOf constraints ids (tagsOf constraints ids) := by
  intro tag
  rw [tagsOf, mem_ascendingTags, List.mem_map]
  constructor
  · rintro ⟨c, kept, rfl⟩
    rw [List.mem_filter, List.contains_iff_mem] at kept
    exact ⟨c, kept.1, kept.2, rfl⟩
  · rintro ⟨c, listed, named, rfl⟩
    exact ⟨c, List.mem_filter.mpr ⟨listed, List.contains_iff_mem.mpr named⟩, rfl⟩

/-- Where only listed constraints are named, there are tags if there are identifiers. -/
theorem AreTagsOf.nonempty_iff {constraints : List Constraint} {ids : List Nat} {tags : List Int}
    (exact : AreTagsOf constraints ids tags) (listed : ∀ id ∈ ids, ∃ c ∈ constraints, c.id = id) :
    (!ids.isEmpty) = true ↔ tags ≠ [] := by
  rw [Bool.not_eq_true', ← List.isEmpty_eq_false_iff, List.isEmpty_eq_false_iff_exists_mem,
    List.isEmpty_eq_false_iff_exists_mem]
  constructor
  · rintro ⟨id, named⟩
    obtain ⟨c, there, rfl⟩ := listed id named
    exact ⟨c.tag, (exact c.tag).mpr ⟨c, there, named, rfl⟩⟩
  · rintro ⟨tag, present⟩
    obtain ⟨c, -, named, -⟩ := (exact tag).mp present
    exact ⟨c.id, named⟩

section Diagnose

variable {leastSquares : LeastSquares} {constraints : List Constraint} {full : Array Float}
  {free : List Nat} {options : SolveOptions} {tolerance : Float}

/-- A constraint is found not to hold if it misses the tolerance. -/
theorem holdsWithin_eq_false {c : Constraint} :
    c.holdsWithin full tolerance = .ok false ↔ c.Misses full tolerance := by
  rw [Constraint.holdsWithin, bind_eq_ok]
  constructor
  · rintro ⟨rows, evaluated, fails⟩
    simp only [Except.ok.injEq, List.all_eq_false, decide_eq_true_eq] at fails
    exact ⟨rows, evaluated, fails⟩
  · rintro ⟨rows, evaluated, fails⟩
    refine ⟨rows, evaluated, ?_⟩
    simp only [Except.ok.injEq, List.all_eq_false, decide_eq_true_eq]
    exact fails

/-- The constraints that were found not to hold are those that miss the tolerance. -/
theorem mem_broken {holding : List Bool} {m : Constraint}
    (held : List.Forall₂ (fun c holds => c.holdsWithin full tolerance = .ok holds) constraints
      holding) :
    m ∈ ((constraints.zip holding).filter (!·.2)).map (·.1) ↔
      m ∈ constraints ∧ m.Misses full tolerance := by
  induction held with
  | nil => simp
  | @cons c holds rest others found _ ih =>
    rw [List.zip_cons_cons, List.filter_cons, List.mem_cons]
    cases holds with
    | true =>
      have holding : ¬ c.Misses full tolerance := fun missed => by
        rw [← holdsWithin_eq_false, found] at missed
        cases missed
      simp only [Bool.not_true, Bool.false_eq_true, if_false, ih]
      constructor
      · rintro ⟨listed, missed⟩
        exact ⟨.inr listed, missed⟩
      · rintro ⟨rfl | listed, missed⟩
        · exact absurd missed holding
        · exact ⟨listed, missed⟩
    | false =>
      have missing : c.Misses full tolerance := holdsWithin_eq_false.mp found
      simp only [Bool.not_false, if_true, List.map_cons, List.mem_cons, ih]
      constructor
      · rintro (rfl | ⟨listed, missed⟩)
        · exact ⟨.inl rfl, missing⟩
        · exact ⟨.inr listed, missed⟩
      · rintro ⟨rfl | listed, missed⟩
        · exact .inl rfl
        · exact .inr ⟨listed, missed⟩

/-- Constraints that were all asked whether they hold can all be evaluated. -/
theorem stackedRows_of_holding {holding : List Bool}
    (held : List.Forall₂ (fun c holds => c.holdsWithin full tolerance = .ok holds) constraints
      holding) : ∃ residual, stackedRows constraints full = .ok residual := by
  have evaluated : ∃ blocks, constraints.mapM (·.rows full) = .ok blocks := by
    induction held with
    | nil => exact ⟨[], rfl⟩
    | cons found _ ih =>
      obtain ⟨rows, here, -⟩ := bind_eq_ok.mp found
      obtain ⟨blocks, others⟩ := ih
      exact ⟨rows :: blocks, mapM_eq_ok.mpr (.cons here (mapM_eq_ok.mp others))⟩
  obtain ⟨blocks, evaluated⟩ := evaluated
  exact ⟨blocks.flatten, bind_eq_ok.mpr ⟨blocks, evaluated, rfl⟩⟩

/-- A diagnosis classifies the scanned rows, given the constraints that miss the tolerance. -/
theorem diagnose_eq_classify {d : Diagnosis}
    (diagnosed : diagnose leastSquares constraints full free options = .ok d) :
    ∃ residual rows broken dependent, stackedRows constraints full = .ok residual ∧
      scan constraints full free options = .ok rows ∧
      (∀ m, m ∈ broken ↔ m ∈ constraints ∧ m.Misses full options.conflictTolerance) ∧
      dependentRows leastSquares rows = .ok dependent ∧
      d = classify constraints broken (rows.filter (·.isIndependent)).length free.length
        dependent := by
  unfold diagnose at diagnosed
  obtain ⟨holding, held, rest⟩ := bind_eq_ok.mp diagnosed
  obtain ⟨directions, found, rest⟩ := bind_eq_ok.mp rest
  obtain ⟨dependent, grouped, rest⟩ := bind_eq_ok.mp rest
  have held := mapM_eq_ok.mp held
  obtain ⟨residual, stacked⟩ := stackedRows_of_holding held
  exact ⟨residual, scanRows constraints directions options.rankTolerance, _, dependent, stacked,
    bind_eq_ok.mpr ⟨directions, found, rfl⟩, fun m => mem_broken held, grouped,
    (Except.ok.inj rest).symm⟩

end Diagnose

section Exact

variable {leastSquares : LeastSquares} {constraints broken : List Constraint}
  {rows : List ScannedRow} {dependent : List DependentRow} {missed : Constraint → Prop}
  {rank free : Nat}

/-- The groups are those of the dependent rows, in order. -/
theorem groups_classify (grouped : dependentRows leastSquares rows = .ok dependent)
    (owners : rows.map (·.owner) = rowOwners constraints) :
    List.Forall₂
      (fun row group => row.owner.id ∈ group ∧ ∀ id ∈ group, ∃ c ∈ constraints, c.id = id)
      (rows.filter (!·.isIndependent))
      (classify constraints broken rank free dependent).groups := by
  show List.Forall₂ _ _ (dependent.map _)
  rw [List.forall₂_map_right_iff]
  have known : ∀ scanned ∈ rows.filter (!·.isIndependent), scanned ∈ rows :=
    fun _ => List.mem_of_mem_filter
  refine ((List.forall₂_and_left _ _).mpr ⟨known, forall₂_dependentRows grouped⟩).imp ?_
  intro scanned row ⟨known, own, found⟩
  obtain ⟨owned, owns⟩ := groupMembers_spec known found
  simp only [mem_ascending, List.mem_map]
  constructor
  · exact ⟨scanned.owner, owned, rfl⟩
  · rintro id ⟨m, member, rfl⟩
    have owner := owns m member
    rw [owners] at owner
    exact ⟨m, mem_of_mem_rowOwners owner, rfl⟩

/-- A constraint conflicts if one of its groups has a member that does not hold. -/
theorem conflicting_classify
    (breaks : ∀ m, m ∈ broken ↔ m ∈ constraints ∧ missed m) (id : Nat) :
    id ∈ (classify constraints broken rank free dependent).conflictingIds ↔
      ∃ group ∈ (classify constraints broken rank free dependent).groups,
        id ∈ group ∧ ∃ m ∈ constraints, m.id ∈ group ∧ missed m := by
  rw [mem_conflictingIds]
  show _ ↔ ∃ group ∈ dependent.map fun row => ascending (row.members.map (·.id)), _
  simp only [List.mem_map, exists_exists_and_eq_and, mem_ascending]
  constructor
  · rintro ⟨row, dependent, ⟨m, member, b, fails, same⟩, named⟩
    obtain ⟨listed, missing⟩ := (breaks b).mp fails
    exact ⟨row, dependent, named, b, listed, ⟨m, member, same.symm⟩, missing⟩
  · rintro ⟨row, dependent, named, b, listed, ⟨m, member, same⟩, missing⟩
    exact ⟨row, dependent, ⟨m, member, b, (breaks b).mpr ⟨listed, missing⟩, same.symm⟩, named⟩

/-- Only listed constraints are named. -/
theorem listed_classify (grouped : dependentRows leastSquares rows = .ok dependent)
    (owners : rows.map (·.owner) = rowOwners constraints) {id : Nat}
    (named : id ∈ (classify constraints broken rank free dependent).conflictingIds ∨
      id ∈ (classify constraints broken rank free dependent).redundantIds ∨
        id ∈ (classify constraints broken rank free dependent).partialIds) :
    ∃ c ∈ constraints, c.id = id := by
  rcases named with conflicting | redundant | partially
  · obtain ⟨row, there, -, m, member, same⟩ := mem_conflictingIds.mp conflicting
    have owner := mem_owners_of_mem_members grouped there member
    rw [owners] at owner
    exact ⟨m, mem_of_mem_rowOwners owner, same⟩
  · obtain ⟨c, listed, same, -⟩ := mem_redundantIds.mp redundant
    exact ⟨c, listed, same⟩
  · obtain ⟨c, listed, same, -⟩ := mem_partialIds.mp partially
    exact ⟨c, listed, same⟩

/-- A listed constraint is redundant if it does not conflict and none of its rows is independent. -/
theorem redundant_classify (grouped : dependentRows leastSquares rows = .ok dependent)
    (distinct : (constraints.map (·.id)).Nodup)
    (sized : ∀ c ∈ constraints, 1 ≤ c.size) (owners : rows.map (·.owner) = rowOwners constraints)
    {c : Constraint} (listed : c ∈ constraints) :
    c.id ∈ (classify constraints broken rank free dependent).redundantIds ↔
      c.id ∉ (classify constraints broken rank free dependent).conflictingIds ∧
        ∀ row ∈ rows, row.owner.id = c.id → ¬ row.isIndependent := by
  rw [mem_redundantIds, ← size_le_dependent_iff grouped distinct owners listed]
  constructor
  · rintro ⟨other, there, same, peaceful, -, all⟩
    cases List.inj_on_of_nodup_map distinct there listed same
    rw [heldCount_eq (fun _ => owner_mem_members grouped) peaceful] at all
    exact ⟨peaceful, all⟩
  · rintro ⟨peaceful, all⟩
    have counted := heldCount_eq (fun _ => owner_mem_members grouped) peaceful
    have positive := sized c listed
    exact ⟨c, listed, rfl, peaceful, by omega, by omega⟩

/-- A listed constraint is redundant in part if it is neither in conflict nor redundant and one of
its rows is dependent. -/
theorem partial_classify (grouped : dependentRows leastSquares rows = .ok dependent)
    (distinct : (constraints.map (·.id)).Nodup)
    (sized : ∀ c ∈ constraints, 1 ≤ c.size) (owners : rows.map (·.owner) = rowOwners constraints)
    {c : Constraint} (listed : c ∈ constraints) :
    c.id ∈ (classify constraints broken rank free dependent).partialIds ↔
      c.id ∉ (classify constraints broken rank free dependent).conflictingIds ∧
        c.id ∉ (classify constraints broken rank free dependent).redundantIds ∧
          ∃ row ∈ rows, row.owner.id = c.id ∧ ¬ row.isIndependent := by
  rw [mem_partialIds, redundant_classify grouped distinct sized owners listed,
    ← size_le_dependent_iff grouped distinct owners listed, ← dependent_pos_iff grouped]
  constructor
  · rintro ⟨other, there, same, peaceful, some, few⟩
    cases List.inj_on_of_nodup_map distinct there listed same
    rw [heldCount_eq (fun _ => owner_mem_members grouped) peaceful] at some few
    exact ⟨peaceful, fun redundant => absurd redundant.2 (by omega), some⟩
  · rintro ⟨peaceful, few, some⟩
    have counted := heldCount_eq (fun _ => owner_mem_members grouped) peaceful
    have short : ¬ c.size ≤ dependent.countP (fun row => row.owner.id = c.id) :=
      fun all => few ⟨peaceful, all⟩
    exact ⟨c, listed, rfl, peaceful, by omega, by omega⟩

/-- The classification of scanned rows is exact. -/
theorem classifies_classify (grouped : dependentRows leastSquares rows = .ok dependent)
    (distinct : (constraints.map (·.id)).Nodup)
    (sized : ∀ c ∈ constraints, 1 ≤ c.size) (owners : rows.map (·.owner) = rowOwners constraints)
    (breaks : ∀ m, m ∈ broken ↔ m ∈ constraints ∧ missed m) :
    (classify constraints broken (rows.filter (·.isIndependent)).length free
      dependent).Classifies constraints missed free rows := by
  refine
    { rank := List.countP_eq_length_filter.symm
      ranked := ?_
      freedom := rfl
      groups := groups_classify grouped owners
      listed := ?_
      conflicting := fun c _ => conflicting_classify breaks c.id
      redundant := fun c listed => redundant_classify grouped distinct sized owners listed
      partiallyRedundant := fun c listed => partial_classify grouped distinct sized owners listed
      conflicting_redundant := ?_
      conflicting_partial := ?_
      redundant_partial := ?_
      conflicting_tags := areTagsOf_tagsOf _ _
      redundant_tags := areTagsOf_tagsOf _ _
      partial_tags := areTagsOf_tagsOf _ _
      has_conflicting := ?_
      has_redundant := ?_
      has_partial := ?_ }
  · show (rows.filter (·.isIndependent)).length + (dependent.map _).length = _
    rw [List.length_map, ← (forall₂_dependentRows grouped).length_eq]
    exact (List.length_eq_length_filter_add _).symm
  · intro id named
    rw [List.mem_append, List.mem_append, or_assoc] at named
    exact listed_classify grouped owners named
  · intro id conflicting redundant
    obtain ⟨c, -, rfl, peaceful, -⟩ := mem_redundantIds.mp redundant
    exact peaceful conflicting
  · intro id conflicting partially
    obtain ⟨c, -, rfl, peaceful, -⟩ := mem_partialIds.mp partially
    exact peaceful conflicting
  · intro id redundant partially
    obtain ⟨c, listed, rfl⟩ := listed_classify grouped owners (.inr (.inl redundant))
    exact ((partial_classify grouped distinct sized owners listed).mp partially).2.1 redundant
  · exact (areTagsOf_tagsOf _ _).nonempty_iff
      fun id named => listed_classify grouped owners (.inl named)
  · exact (areTagsOf_tagsOf _ _).nonempty_iff
      fun id named => listed_classify grouped owners (.inr (.inl named))
  · exact (areTagsOf_tagsOf _ _).nonempty_iff
      fun id named => listed_classify grouped owners (.inr (.inr named))

end Exact

/-- A diagnosis that is answered classifies exactly: rank and groups account for every row of the
residual, in the order of the scan, and every constraint is of the one sort that its rows and the
groups it stands in make it. -/
theorem diagnose_exact {leastSquares : LeastSquares} {constraints : List Constraint}
    {full : Array Float} {free : List Nat} {options : SolveOptions} {d : Diagnosis}
    (distinct : (constraints.map (·.id)).Nodup)
    (sized : ∀ c ∈ constraints, 1 ≤ c.size)
    (diagnosed : diagnose leastSquares constraints full free options = .ok d) :
    ∃ residual rows, stackedRows constraints full = .ok residual ∧
      scan constraints full free options = .ok rows ∧
      rows.map (·.owner) = rowOwners constraints ∧
      d.rank + d.groups.length = residual.length ∧
      d.Classifies constraints (·.Misses full options.conflictTolerance) free.length rows := by
  obtain ⟨residual, rows, broken, dependent, stacked, scanned, breaks, grouped, rfl⟩ :=
    diagnose_eq_classify diagnosed
  have owners := map_owner_scan scanned
  have exact := @classifies_classify _ _ _ _ _ _ free.length grouped distinct sized owners breaks
  refine ⟨residual, rows, stacked, scanned, owners, ?_, exact⟩
  rw [exact.ranked, length_stackedRows stacked, ← length_rowOwners, ← owners, List.length_map]

/-- The same equality of two slots, stated twice. -/
def repeatedEquality : List Constraint :=
  [0, 1].map fun id =>
    { id, kind := "equal", operands := [.scalar 0, .scalar 1], modifiers := .standard, tag := 7
      size := 1, block := (Relation.equal 0 1).block, owned := [], valueSlot := none }

/-- An equality that is stated twice has one independent row and one group. -/
theorem diagnose_exact_repeatedEquality :
    ∃ d, diagnose shortestCombination repeatedEquality #[2.0, 2.0] [0, 1] .standard = .ok d ∧
      d.rank = 1 ∧
      ∃ residual rows, stackedRows repeatedEquality #[2.0, 2.0] = .ok residual ∧
        scan repeatedEquality #[2.0, 2.0] [0, 1] .standard = .ok rows ∧
        rows.map (·.owner) = rowOwners repeatedEquality ∧
        d.rank + d.groups.length = residual.length ∧
        d.Classifies repeatedEquality (·.Misses #[2.0, 2.0] 1e-6) 2 rows := by
  have answered : (diagnose shortestCombination repeatedEquality #[2.0, 2.0] [0, 1]
      .standard).toOption.map (·.rank) = some 1 := by decide +kernel
  cases diagnosed : diagnose shortestCombination repeatedEquality #[2.0, 2.0] [0, 1] .standard with
  | error fault =>
    rw [diagnosed] at answered
    cases answered
  | ok d =>
    rw [diagnosed] at answered
    injection answered with ranked
    exact ⟨d, rfl, ranked, diagnose_exact (by decide) (by decide) diagnosed⟩

end Drafting
