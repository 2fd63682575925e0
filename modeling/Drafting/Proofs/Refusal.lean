import Mathlib.Data.List.Forall2

/-!
# Steps that may be refused

A computation that may be refused answers exactly if every step of it does. The lemmas here take a
sequence of steps, or one step for each member of a list, apart into its steps. To look a key up in
a list of entries is such a step too: it finds something exactly if the key is listed.
-/

namespace Drafting

variable {ε α β : Type}

/-- A step that only answers gives that answer. -/
theorem pure_eq_ok {given answer : α} :
    (pure given : Except ε α) = .ok answer ↔ given = answer := by
  simp [pure, Except.pure]

/-- What follows an answer goes on from it. -/
theorem ok_bind (answer : α) (next : α → Except ε β) :
    ((.ok answer : Except ε α) >>= next) = next answer := rfl

/-- Two steps answer if the first does and the second does after it. -/
theorem bind_eq_ok {first : Except ε α} {next : α → Except ε β} {answer : β} :
    (first >>= next) = .ok answer ↔ ∃ middle, first = .ok middle ∧ next middle = .ok answer := by
  cases first <;> simp [bind, Except.bind]

/-- One step for each member of a list answers if all do, and the answers are in order. -/
theorem mapM_eq_ok {step : α → Except ε β} {members : List α} {answers : List β} :
    members.mapM step = .ok answers ↔
      List.Forall₂ (fun member answer => step member = .ok answer) members answers := by
  induction members generalizing answers with
  | nil => cases answers <;> simp [pure_eq_ok]
  | cons member rest ih =>
    simp only [List.mapM_cons, bind_eq_ok, ih, pure_eq_ok]
    constructor
    · rintro ⟨first, stepped, later, others, rfl⟩
      exact .cons stepped others
    · rintro (_ | ⟨stepped, others⟩)
      exact ⟨_, stepped, _, others, rfl⟩

/-- Each answer comes from a member. -/
theorem mem_of_mapM {step : α → Except ε β} {members : List α} {answers : List β} {answer : β}
    (stepped : members.mapM step = .ok answers) (there : answer ∈ answers) :
    ∃ member ∈ members, step member = .ok answer := by
  have related := mapM_eq_ok.mp stepped
  clear stepped
  induction related with
  | nil => cases there
  | cons first _ ih =>
    rcases List.mem_cons.mp there with rfl | later
    · exact ⟨_, List.mem_cons_self, first⟩
    · obtain ⟨member, among, answered⟩ := ih later
      exact ⟨member, List.mem_cons_of_mem _ among, answered⟩

/-- Each member has an answer. -/
theorem exists_of_mapM {step : α → Except ε β} {members : List α} {answers : List β} {member : α}
    (stepped : members.mapM step = .ok answers) (there : member ∈ members) :
    ∃ answer ∈ answers, step member = .ok answer := by
  have related := mapM_eq_ok.mp stepped
  clear stepped
  induction related with
  | nil => cases there
  | cons first _ ih =>
    rcases List.mem_cons.mp there with rfl | later
    · exact ⟨_, List.mem_cons_self, first⟩
    · obtain ⟨answer, among, answered⟩ := ih later
      exact ⟨answer, List.mem_cons_of_mem _ among, answered⟩

/-- Two steps that do the same with each member of a list do the same with the list. -/
theorem mapM_congr {step other : α → Except ε β} {members : List α}
    (same : ∀ member ∈ members, step member = other member) :
    members.mapM step = members.mapM other := by
  induction members with
  | nil => rfl
  | cons member rest ih =>
    rw [List.mapM_cons, List.mapM_cons, same member List.mem_cons_self,
      ih fun later there => same later (List.mem_cons_of_mem _ there)]

/-- One step for each member of a list, without answers of their own: none may be refused. -/
theorem forM_eq_ok {step : α → Except ε Unit} {members : List α} :
    members.forM step = .ok () ↔ ∀ member ∈ members, step member = .ok () := by
  induction members with
  | nil => exact ⟨fun _ _ impossible => absurd impossible (by simp), fun _ => rfl⟩
  | cons member rest ih =>
    show (step member >>= fun _ => rest.forM step) = .ok () ↔ _
    rw [bind_eq_ok]
    simp only [ih, List.mem_cons, forall_eq_or_imp]
    constructor
    · rintro ⟨⟨⟩, stepped, others⟩
      exact ⟨stepped, others⟩
    · rintro ⟨stepped, others⟩
      exact ⟨(), stepped, others⟩

/-- A computation answers if it is not refused. -/
def Answers (step : Except ε α) : Prop := ∃ answer, step = .ok answer

/-- What only answers answers. -/
theorem answers_ok (answer : α) : Answers (.ok answer : Except ε α) := ⟨answer, rfl⟩

/-- Two steps answer together if the first does and the second does after it. -/
theorem answers_bind {first : Except ε α} {next : α → Except ε β} :
    Answers (first >>= next) ↔ ∃ middle, first = .ok middle ∧ Answers (next middle) := by
  unfold Answers
  simp only [bind_eq_ok]
  exact exists_comm.trans (by simp only [exists_and_left])

/-- An answer in another form is one all the same. -/
theorem answers_map {step : Except ε α} {form : α → β} :
    Answers (step.map form) ↔ Answers step := by
  cases step <;> simp [Answers, Except.map]

/-- A step whose answer is put in another form answers if it does. -/
theorem answers_bind_ok {step : Except ε α} {form : α → β} :
    Answers (step >>= fun answer => .ok (form answer)) ↔ Answers step := by
  rw [answers_bind]
  exact exists_congr fun answer => and_iff_left (answers_ok (form answer))

/-- Two steps whose answers are combined answer if both do. -/
theorem answers_bind_bind_ok {γ : Type} {first : Except ε α} {second : Except ε β}
    {form : α → β → γ} :
    Answers (first >>= fun x => second >>= fun y => .ok (form x y)) ↔
      Answers first ∧ Answers second := by
  rw [answers_bind]
  simp only [answers_bind_ok]
  exact exists_and_right

/-- Steps for the members of a list answer together if each does. -/
theorem answers_mapM {step : α → Except ε β} {members : List α} :
    Answers (members.mapM step) ↔ ∀ member ∈ members, Answers (step member) := by
  induction members with
  | nil => exact ⟨fun _ => List.forall_mem_nil _, fun _ => ⟨[], rfl⟩⟩
  | cons member rest ih =>
    rw [List.mapM_cons, List.forall_mem_cons, ← ih]
    exact answers_bind_bind_ok

/-- What is refused for a list is refused for a member of it, and for none before that. -/
theorem exists_first_of_forM_error {step : α → Except ε Unit} {members : List α} {fault : ε}
    (refused : members.forM step = .error fault) :
    ∃ before member rest, members = before ++ member :: rest ∧
      (∀ other ∈ before, step other = .ok ()) ∧ step member = .error fault := by
  induction members with
  | nil => cases refused
  | cons member rest ih =>
    have refused : (step member >>= fun _ => rest.forM step) = .error fault := refused
    cases stepped : step member with
    | error first =>
      rw [stepped] at refused
      cases refused
      exact ⟨[], member, rest, rfl, List.forall_mem_nil _, stepped⟩
    | ok _ =>
      rw [stepped] at refused
      obtain ⟨before, other, later, rfl, passed, failed⟩ := ih refused
      exact ⟨member :: before, other, later, rfl, List.forall_mem_cons.mpr ⟨stepped, passed⟩,
        failed⟩

/-- What is refused for a list is refused for a member of it. -/
theorem exists_of_forM_error {step : α → Except ε Unit} {members : List α} {fault : ε}
    (refused : members.forM step = .error fault) :
    ∃ member ∈ members, step member = .error fault := by
  obtain ⟨before, member, rest, rfl, -, failed⟩ := exists_first_of_forM_error refused
  exact ⟨member, List.mem_append_right _ List.mem_cons_self, failed⟩

/-- Whether a step answers yes. -/
def affirmed : Except ε Bool → Bool
  | .ok answer => answer
  | .error _ => false

/-- A selection of members answers if the step for each of them does, and selects those for which
the answer is yes. -/
theorem filterM_eq_ok {step : α → Except ε Bool} {members kept : List α} :
    members.filterM step = .ok kept ↔
      (∀ member ∈ members, ∃ answer, step member = .ok answer) ∧
        kept = members.filter fun member => affirmed (step member) := by
  -- The selection gathers what it keeps in reverse.
  have gathered (before : List α) : members.filterAuxM step before = .ok kept.reverse ↔
      (∀ member ∈ members, ∃ answer, step member = .ok answer) ∧
        kept = before.reverse ++ members.filter fun member => affirmed (step member) := by
    induction members generalizing before with
    | nil =>
      rw [List.filterAuxM, pure_eq_ok, eq_comm, List.reverse_eq_iff]
      simp
    | cons member rest ih =>
      rw [List.filterAuxM, bind_eq_ok]
      simp only [ih, List.mem_cons, forall_eq_or_imp]
      constructor
      · rintro ⟨answer, stepped, others, rfl⟩
        refine ⟨⟨⟨answer, stepped⟩, others⟩, ?_⟩
        cases answer <;> simp [stepped, affirmed]
      · rintro ⟨⟨⟨answer, stepped⟩, others⟩, rfl⟩
        refine ⟨answer, stepped, others, ?_⟩
        cases answer <;> simp [stepped, affirmed]
  have all := gathered []
  rw [List.reverse_nil, List.nil_append] at all
  rw [← all]
  unfold List.filterM
  rw [bind_eq_ok]
  simp only [pure_eq_ok]
  constructor
  · rintro ⟨reversed, selected, rfl⟩
    rw [List.reverse_reverse]
    exact selected
  · intro selected
    exact ⟨_, selected, List.reverse_reverse kept⟩

/-- What is selected was there. -/
theorem mem_of_filterM {step : α → Except ε Bool} {members kept : List α} {member : α}
    (selected : members.filterM step = .ok kept) (there : member ∈ kept) : member ∈ members := by
  rw [(filterM_eq_ok.mp selected).2] at there
  exact List.mem_of_mem_filter there

/-- Members in another form, for which the answers are the same, are selected alike. -/
theorem filterM_map {form : α → β} {step : α → Except ε Bool} {step' : β → Except ε Bool}
    (same : ∀ member, step' (form member) = step member) (members : List α) :
    (members.map form).filterM step' = (members.filterM step).map (List.map form) := by
  have gathered (before : List α) : (members.map form).filterAuxM step' (before.map form) =
      (members.filterAuxM step before).map (List.map form) := by
    induction members generalizing before with
    | nil => rfl
    | cons member rest ih =>
      rw [List.map_cons, List.filterAuxM, List.filterAuxM, same]
      cases step member with
      | error fault => rfl
      | ok answer =>
        cases answer
        · exact ih before
        · exact ih (member :: before)
  unfold List.filterM
  rw [show ([] : List β) = [].map form from rfl, gathered]
  cases members.filterAuxM step [] with
  | error fault => rfl
  | ok reversed => exact congrArg Except.ok List.map_reverse.symm

/-- Members for which the answer is no are not selected, wherever they are asked last. -/
theorem filterM_append_of_no {step : α → Except ε Bool} {members others : List α}
    (no : ∀ other ∈ others, step other = .ok false) :
    (members ++ others).filterM step = members.filterM step := by
  have gathered (before : List α) :
      (members ++ others).filterAuxM step before = members.filterAuxM step before := by
    induction members generalizing before with
    | nil =>
      induction others with
      | nil => rfl
      | cons other rest ih =>
        show (step other >>= _) = _
        rw [no other List.mem_cons_self]
        exact ih fun later there => no later (List.mem_cons_of_mem _ there)
    | cons member rest ih =>
      rw [List.cons_append, List.filterAuxM, List.filterAuxM]
      exact congrArg (step member >>= ·) (funext fun answer => ih _)
  unfold List.filterM
  rw [gathered]

/-- Members for which the answer is no do not count, wherever they are asked last. -/
theorem anyM_append_of_no {step : α → Except ε Bool} {members others : List α}
    (no : ∀ other ∈ others, step other = .ok false) :
    (members ++ others).anyM step = members.anyM step := by
  induction members with
  | nil =>
    induction others with
    | nil => rfl
    | cons other rest ih =>
      show (step other >>= _) = _
      rw [no other List.mem_cons_self]
      exact ih fun later there => no later (List.mem_cons_of_mem _ there)
  | cons member rest ih =>
    rw [List.cons_append, List.anyM, List.anyM, ih]

/-- A key that is looked up is listed with what is found. -/
theorem listed_of_lookup [BEq α] [LawfulBEq α] {entries : List (α × β)} {key : α} {value : β}
    (found : entries.lookup key = some value) : (key, value) ∈ entries := by
  obtain ⟨early, late, split, -⟩ := List.lookup_eq_some_iff.mp found
  rw [split]
  exact List.mem_append_right _ List.mem_cons_self

/-- A key under which nothing is found is not listed. -/
theorem unlisted_of_lookup [BEq α] [LawfulBEq α] {entries : List (α × β)} {key : α}
    (missed : entries.lookup key = none) : key ∉ entries.map (·.1) := by
  intro there
  obtain ⟨entry, among, same⟩ := List.mem_map.mp there
  have differs := List.lookup_eq_none_iff.mp missed entry among
  rw [same, bne_self_eq_false] at differs
  cases differs

end Drafting
