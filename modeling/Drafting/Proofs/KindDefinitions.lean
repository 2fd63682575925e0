import Drafting.Proofs.Exactness

/-!
# Kinds that are defined over time

Registering a kind is checked when it is requested and takes effect when the request is completed by
a builder, which may happen later, in another order and more than once. What a name means is
decided by the last completion under it, else by the catalog that was there before. So a kind that
was there before any request is never redefined, nor is one whose name is known by the time other
requests for it come; but of several requests that were granted while a name was free, each that is
completed replaces the one before.
-/

namespace Drafting

/-- What can be asked of a catalog: to request a kind, to complete one of the requests that were
granted, counted from the first, and to look up a name. -/
inductive CatalogCall where
  | register (name : Value) (slots : List Value) (size : Value)
  | complete (request : Nat) (build : List Operand → Except Fault Block)
  | lookup (name : Value)

/-- A catalog with the requests that it has granted. -/
structure OpenCatalog where
  catalog : Catalog
  granted : List PendingKind

/-- The kind that a builder makes of a request. -/
def PendingKind.completed (pending : PendingKind) (build : List Operand → Except Fault Block) :
    ConstraintKind :=
  ⟨pending.name, pending.slots, pending.size, build⟩

namespace Catalog

variable {catalog : Catalog}

/-- What is defined is found under its name, and under other names what was found before. -/
theorem find?_define (kind : ConstraintKind) (name : String) :
    (catalog.define kind).find? name =
      if kind.name = name then some kind else catalog.find? name := by
  unfold define
  split
  next defined =>
    have renamed : ((fun other : ConstraintKind => other.name == name) ∘
        fun known => if known.name == kind.name then kind else known) =
          fun known => known.name == name := by
      funext known
      rw [Function.comp_apply]
      split
      next same => rw [eq_of_beq same]
      next => rfl
    unfold find? at defined ⊢
    rw [List.find?_map, renamed]
    by_cases here : kind.name = name
    · obtain ⟨known, found⟩ := Option.isSome_iff_exists.mp defined
      have same := @List.find?_some _ (fun known : ConstraintKind => known.name == kind.name) _ _
        found
      rw [if_pos here, ← here, found, Option.map_some, if_pos same]
    · rw [if_neg here]
      cases found : catalog.kinds.find? fun known => known.name == name with
      | none => rfl
      | some known =>
        have same := @List.find?_some _ (fun known : ConstraintKind => known.name == name) _ _ found
        have differs : ¬ known.name == kind.name := by
          rw [eq_of_beq same, beq_iff_eq]
          exact fun equal => here equal.symm
        rw [Option.map_some, if_neg differs]
  next free =>
    unfold find? at free ⊢
    rw [List.find?_append, List.find?_singleton]
    by_cases here : kind.name = name
    · rw [if_pos here, if_pos (beq_iff_eq.mpr here), ← here]
      rw [Option.not_isSome_iff_eq_none] at free
      rw [free]
      rfl
    · rw [if_neg here, if_neg (fun same => here (eq_of_beq same)), Option.or_none]

/-- A name that is looked up is that of the kind. -/
theorem lookup_eq_ok {name : Value} {kind : ConstraintKind} :
    catalog.lookup name = .ok kind ↔
      name = .text kind.name ∧ catalog.find? kind.name = some kind := by
  constructor
  · intro found
    refine ⟨?_, find?_of_lookup found⟩
    cases name with
    | text word =>
      unfold lookup at found
      dsimp only at found
      cases there : catalog.find? word with
      | none =>
        rw [there] at found
        cases found
      | some known =>
        rw [there] at found
        cases found
        have same := @List.find?_some _ (fun known : ConstraintKind => known.name == word) _ _ there
        rw [eq_of_beq same]
    | _ => cases found
  · rintro ⟨rfl, found⟩
    exact lookup_of_find? found

end Catalog

namespace OpenCatalog

/-- A catalog that has granted no request. -/
def fresh (catalog : Catalog) : OpenCatalog := ⟨catalog, []⟩

/-- The kind that a call completes. -/
def completed? (desk : OpenCatalog) : CatalogCall → Option ConstraintKind
  | .complete request build => desk.granted[request]?.map (·.completed build)
  | _ => none

/-- The catalog after a call. What was not granted cannot be completed. -/
def after (desk : OpenCatalog) : CatalogCall → OpenCatalog
  | .register name slots size =>
    match desk.catalog.register name slots size with
    | .ok pending => { desk with granted := desk.granted ++ [pending] }
    | .error _ => desk
  | .complete request build =>
    match desk.granted[request]? with
    | some pending => { desk with catalog := desk.catalog.complete pending build }
    | none => desk
  | .lookup _ => desk

/-- The catalog after some calls, one after the other. -/
def afterAll (desk : OpenCatalog) (calls : List CatalogCall) : OpenCatalog := calls.foldl after desk

/-- The kinds that calls complete under a name, in order. -/
def completions (desk : OpenCatalog) (name : String) : List CatalogCall → List ConstraintKind
  | [] => []
  | call :: rest =>
    (desk.completed? call).toList.filter (·.name = name) ++ (desk.after call).completions name rest

/-- A call completes a kind although its name is defined. -/
def Redefines (desk : OpenCatalog) (call : CatalogCall) : Prop :=
  ∃ kind, desk.completed? call = some kind ∧ (desk.catalog.find? kind.name).isSome

variable {desk : OpenCatalog} {name : String}

/-- After a call a name means the kind that the call completes under it, else what it meant. -/
theorem find?_after (desk : OpenCatalog) (call : CatalogCall) (name : String) :
    (desk.after call).catalog.find? name =
      ((desk.completed? call).filter (·.name = name)).or (desk.catalog.find? name) := by
  cases call with
  | register given slots size =>
    unfold after
    dsimp only
    split <;> rfl
  | lookup given => rfl
  | complete request build =>
    unfold after completed?
    dsimp only
    cases desk.granted[request]? with
    | none => rfl
    | some pending =>
      show (desk.catalog.define (pending.completed build)).find? name = _
      rw [Catalog.find?_define, Option.map_some, Option.filter_some]
      by_cases here : (pending.completed build).name = name
      · rw [if_pos here, if_pos (decide_eq_true here), Option.some_or]
      · rw [if_neg here, if_neg (by simpa using here), Option.none_or]

/-- After some calls a name means the kind that was completed last under it, else what it meant. -/
theorem find?_afterAll (desk : OpenCatalog) (calls : List CatalogCall) (name : String) :
    (desk.afterAll calls).catalog.find? name =
      (desk.completions name calls).getLast?.or (desk.catalog.find? name) := by
  induction calls generalizing desk with
  | nil => rfl
  | cons call rest ih =>
    have first : ((desk.completed? call).toList.filter (·.name = name)).getLast? =
        (desk.completed? call).filter (·.name = name) := by
      cases desk.completed? call with
      | none => rfl
      | some kind =>
        rw [Option.toList_some, Option.filter_some]
        by_cases here : kind.name = name
        · simp [here]
        · simp [here]
    show ((desk.after call).afterAll rest).catalog.find? name = _
    rw [ih, find?_after, completions, List.getLast?_append, first, Option.or_assoc]

/-- Every completion under a name is made by some call, after the calls before it. -/
theorem mem_completions {calls : List CatalogCall} {kind : ConstraintKind} :
    kind ∈ desk.completions name calls ↔ ∃ early call rest, calls = early ++ call :: rest ∧
      (desk.afterAll early).completed? call = some kind ∧ kind.name = name := by
  induction calls generalizing desk with
  | nil => exact ⟨nofun, fun ⟨early, call, rest, split, _⟩ => by simp at split⟩
  | cons first rest ih =>
    unfold completions
    rw [List.mem_append, List.mem_filter, Option.mem_toList, decide_eq_true_eq, ih]
    constructor
    · rintro (⟨here, named⟩ | ⟨early, call, later, rfl, done, named⟩)
      · exact ⟨[], first, rest, rfl, here, named⟩
      · exact ⟨first :: early, call, later, rfl, done, named⟩
    · rintro ⟨early, call, later, split, done, named⟩
      cases early with
      | nil =>
        cases split
        exact .inl ⟨done, named⟩
      | cons other early =>
        cases split
        exact .inr ⟨early, call, later, rfl, done, named⟩

/-- A name that is defined stays so. -/
theorem isSome_find?_afterAll (known : (desk.catalog.find? name).isSome)
    (calls : List CatalogCall) : ((desk.afterAll calls).catalog.find? name).isSome := by
  rw [find?_afterAll, Option.isSome_or, known, Bool.or_true]

/-- Under a name that is defined no further request is granted. -/
theorem granted_after (known : (desk.catalog.find? name).isSome) (call : CatalogCall) :
    (desk.after call).granted.filter (·.name = name) = desk.granted.filter (·.name = name) := by
  cases call with
  | lookup given => rfl
  | complete request build =>
    unfold after
    dsimp only
    split <;> rfl
  | register given slots size =>
    unfold after
    dsimp only
    cases granted : desk.catalog.register given slots size with
    | error fault => rfl
    | ok pending =>
      have other : pending.name ≠ name := by
        rintro rfl
        rw [Catalog.find?_of_register granted] at known
        cases known
      show (desk.granted ++ [pending]).filter _ = _
      rw [List.filter_append, List.filter_cons_of_neg (by simpa using other), List.filter_nil,
        List.append_nil]

/-- Under a name that is defined no request is granted ever after. -/
theorem granted_afterAll (known : (desk.catalog.find? name).isSome) (calls : List CatalogCall) :
    (desk.afterAll calls).granted.filter (·.name = name) = desk.granted.filter (·.name = name) := by
  induction calls generalizing desk with
  | nil => rfl
  | cons call rest ih =>
    exact (ih (isSome_find?_afterAll known [call])).trans (granted_after known _)

/-- What is completed under a name that is defined was requested before. -/
theorem exists_granted_of_mem_completions (known : (desk.catalog.find? name).isSome)
    {calls : List CatalogCall} {kind : ConstraintKind}
    (there : kind ∈ desk.completions name calls) :
    ∃ pending ∈ desk.granted, ∃ build, pending.name = name ∧ kind = pending.completed build := by
  obtain ⟨early, call, rest, -, done, named⟩ := mem_completions.mp there
  cases call with
  | complete request build =>
    obtain ⟨pending, granted, rfl⟩ := Option.map_eq_some_iff.mp done
    have listed : pending ∈ (desk.afterAll early).granted.filter (·.name = name) :=
      List.mem_filter.mpr ⟨List.mem_of_getElem? granted, decide_eq_true named⟩
    rw [granted_afterAll known] at listed
    exact ⟨pending, List.mem_of_mem_filter listed, build, named, rfl⟩
  | _ => cases done

/-- What a name means once a look-up of it has succeeded. Whatever is requested, completed and
looked up later, the look-up succeeds, and gives the kind that was completed last under the name,
or the kind from before if none was. So it stays the same exactly as long as nothing but this kind
is completed under the name. Under the name no further request is granted: what is completed under
it was requested before it was known. The kind stays if no call completes a request whose name is
defined by then, and it stays in any case if its name was defined before all requests. -/
theorem lookup_afterAll (catalog : Catalog) (before later : List CatalogCall) {name : Value}
    {kind : ConstraintKind}
    (known : ((fresh catalog).afterAll before).catalog.lookup name = .ok kind) :
    let desk := (fresh catalog).afterAll before
    (desk.afterAll later).catalog.lookup name =
        .ok ((desk.completions kind.name later).getLast?.getD kind) ∧
      ((∀ early rest, later = early ++ rest →
          (desk.afterAll early).catalog.lookup name = .ok kind) ↔
        ∀ other ∈ desk.completions kind.name later, other = kind) ∧
      (∀ other ∈ desk.completions kind.name later, ∃ pending ∈ desk.granted, ∃ build,
        pending.name = kind.name ∧ other = pending.completed build) ∧
      ((∀ early call rest, later = early ++ call :: rest →
          ¬ (desk.afterAll early).Redefines call) →
        (desk.afterAll later).catalog.lookup name = .ok kind) ∧
      ((catalog.find? kind.name).isSome →
        (desk.afterAll later).catalog.lookup name = .ok kind) := by
  intro desk
  obtain ⟨rfl, found⟩ := Catalog.lookup_eq_ok.mp known
  have defined : (desk.catalog.find? kind.name).isSome := Option.isSome_of_eq_some found
  have means (calls : List CatalogCall) : (desk.afterAll calls).catalog.lookup (.text kind.name) =
      .ok ((desk.completions kind.name calls).getLast?.getD kind) := by
    cases last : (desk.completions kind.name calls).getLast? with
    | none =>
      refine Catalog.lookup_of_find? ?_
      rw [find?_afterAll, last, Option.none_or, found]
      rfl
    | some other =>
      refine Catalog.lookup_of_find? ?_
      rw [find?_afterAll, last, Option.some_or]
      rfl
  have stays (none : desk.completions kind.name later = []) :
      (desk.afterAll later).catalog.lookup (.text kind.name) = .ok kind := by
    rw [means, none]
    rfl
  refine ⟨means later, ⟨fun same other there => ?_, fun same early rest split => ?_⟩,
    fun other there => exists_granted_of_mem_completions defined there, fun never => stays ?_,
    fun first => stays ?_⟩
  · -- The run up to this completion ends with it.
    obtain ⟨early, call, rest, split, done, named⟩ := mem_completions.mp there
    have looked := same (early ++ [call]) rest (by rw [split, List.append_assoc]; rfl)
    have now : (desk.afterAll (early ++ [call])).catalog.find? kind.name = some other := by
      unfold afterAll at done ⊢
      rw [List.foldl_append, List.foldl_cons, List.foldl_nil, find?_after, done,
        Option.filter_some, if_pos (decide_eq_true named), Option.some_or]
    exact Except.ok.inj ((Catalog.lookup_of_find? now).symm.trans looked)
  · rw [means]
    cases last : (desk.completions kind.name early).getLast? with
    | none => rfl
    | some other =>
      obtain ⟨first, call, after, within, done, named⟩ :=
        mem_completions.mp (List.mem_of_getLast? last)
      have there : other ∈ desk.completions kind.name later :=
        mem_completions.mpr ⟨first, call, after ++ rest, by rw [split, within]; simp, done, named⟩
      rw [same other there]
      rfl
  · rw [List.eq_nil_iff_forall_not_mem]
    intro other there
    obtain ⟨early, call, rest, split, done, named⟩ := mem_completions.mp there
    refine never early call rest split ⟨other, done, ?_⟩
    rw [named]
    exact isSome_find?_afterAll defined early
  · rw [List.eq_nil_iff_forall_not_mem]
    intro other there
    obtain ⟨pending, granted, _, named, -⟩ := exists_granted_of_mem_completions defined there
    have listed : pending ∈ desk.granted.filter (·.name = kind.name) :=
      List.mem_filter.mpr ⟨granted, decide_eq_true named⟩
    rw [granted_afterAll first] at listed
    cases listed

/-- A builder that refuses. -/
def refuses : List Operand → Except Fault Block := fun _ => .error (.arithmetic .emptySequence)

/-- A kind is requested twice while its name is free, and the first request is completed. -/
def twins : OpenCatalog :=
  (fresh .builtin).afterAll
    [.register (.text "twin") [.text "scalar"] (.int 1),
      .register (.text "twin") [.text "point", .text "point"] (.int 2), .complete 0 refuses]

/-- The kind that the first request made keeps its meaning although a third request for the name
comes and is completed: that one was not granted. Completing the first request again makes the same
kind. -/
theorem lookup_afterAll_twins :
    twins.catalog.lookup (.text "twin") = .ok ⟨"twin", [.scalar], 1, refuses⟩ ∧
      (twins.afterAll
        [.register (.text "twin") [.text "circle"] (.int 3), .complete 2 refuses,
          .complete 0 refuses]).catalog.lookup (.text "twin") =
            .ok ⟨"twin", [.scalar], 1, refuses⟩ := by
  have known : twins.catalog.lookup (.text "twin") = .ok ⟨"twin", [.scalar], 1, refuses⟩ := rfl
  obtain ⟨means, -⟩ := lookup_afterAll .builtin _
    [.register (.text "twin") [.text "circle"] (.int 3), .complete 2 refuses, .complete 0 refuses]
    known
  exact ⟨known, means⟩

/-- Of two requests that were granted while a name was free, the second replaces the kind that the
first one made, which was looked up in between. -/
theorem later_completion_redefines :
    (twins.catalog.lookup (.text "twin")).toOption.map (·.slots) = some [.scalar] ∧
      ((twins.after (.complete 1 refuses)).catalog.lookup (.text "twin")).toOption.map (·.slots) =
        some [.point, .point] := by
  decide +kernel

end OpenCatalog

end Drafting
