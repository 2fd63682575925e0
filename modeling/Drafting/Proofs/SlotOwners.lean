import Drafting.Proofs.Numbering
import Mathlib.Data.List.Flatten
import Mathlib.Data.List.Pairwise

/-!
# Holders of slots

Beside the registered geometries the table keeps who owns which slot, so that no two own blocks
meet. Registering, dropping and clearing each change both, and they stay in step: after any calls a
slot has an owner exactly if the own block of a registered geometry holds it, and that geometry is
the owner. So a view is refused exactly if its block meets another, and once a geometry is dropped
its slots can be owned again.
-/

namespace Drafting

/-- What can be asked of a table of geometry. -/
inductive TableCall where
  | add (view : View) (tag : Int)
  | reserve
  | removeTag (tag : Int)
  | clear

namespace GeometryTable

/-- The table that a call leaves. -/
def after (table : GeometryTable) : TableCall → GeometryTable
  | .add view tag => (table.add view (.int tag)).2
  | .reserve => table.reserveId.2
  | .removeTag tag =>
    match table.removeTag (.int tag) with
    | .ok (_, kept) => kept
    | .error _ => table
  | .clear => table.clear

/-- The table that some calls leave, one after the other. -/
def afterAll (table : GeometryTable) (calls : List TableCall) : GeometryTable :=
  calls.foldl after table

/-- A slot is held in the own block of a geometry that is registered under an identifier. -/
def Holds (table : GeometryTable) (id : Nat) (slot : Int) : Prop :=
  ∃ entry ∈ table.entries, entry.id = id ∧ slot ∈ entry.view.ownIndices

/-- Owners are noted for just the slots of own blocks, these are disjoint, and identifiers ascend
below the next one. -/
structure InStep (table : GeometryTable) : Prop where
  owners : ∀ slot id, (slot, id) ∈ table.owners ↔ table.Holds id slot
  blocks : table.entries.Pairwise fun first second =>
    first.view.ownIndices.Disjoint second.view.ownIndices
  ascending : table.entries.Pairwise (·.id < ·.id)
  below : ∀ entry ∈ table.entries, entry.id < table.nextId

variable {table : GeometryTable} {view : View} {tag : Int} {slot : Int} {entry : GeometryEntry}

/-- An owner that is found is noted. -/
theorem noted_of_owner? {id : Nat} (found : table.owner? slot = some id) :
    (slot, id) ∈ table.owners := by
  unfold owner? at found
  obtain ⟨pair, first, rfl⟩ := Option.map_eq_some_iff.mp found
  have same : pair.1 = slot := of_decide_eq_true (List.find?_some first :)
  rw [← same]
  exact List.mem_of_find?_eq_some first

/-- A slot for which an owner is noted has an owner. -/
theorem owner?_of_noted {id : Nat} (noted : (slot, id) ∈ table.owners) :
    ∃ other, table.owner? slot = some other := by
  unfold owner?
  rw [← Option.isSome_iff_exists, Option.isSome_map, List.find?_isSome]
  exact ⟨_, noted, decide_eq_true rfl⟩

/-- A table without geometry is in step. -/
theorem inStep_empty : empty.InStep where
  owners _ _ := ⟨nofun, fun ⟨_, there, _⟩ => nomatch there⟩
  blocks := .nil
  ascending := .nil
  below := List.forall_mem_nil _

namespace InStep

variable (inStep : table.InStep)

include inStep

/-- A registered geometry is found under its identifier. -/
theorem find?_entry (there : entry ∈ table.entries) : table.find? entry.id = some entry :=
  find?_of_ascending inStep.ascending there

/-- Two registered geometries that hold the same slot are one. -/
theorem holder_unique {other : GeometryEntry} (there : entry ∈ table.entries)
    (among : other ∈ table.entries) (held : slot ∈ entry.view.ownIndices)
    (again : slot ∈ other.view.ownIndices) : entry = other := by
  have symmetric : Std.Symm fun first second : GeometryEntry =>
      first.view.ownIndices.Disjoint second.view.ownIndices :=
    ⟨fun _ _ apart _ held again => apart again held⟩
  by_contra differ
  exact inStep.blocks.forall there among differ held again

/-- The owner of a slot is the geometry whose own block holds it. -/
theorem owner?_eq_some {id : Nat} : table.owner? slot = some id ↔ table.Holds id slot := by
  refine ⟨fun found => (inStep.owners slot id).mp (noted_of_owner? found), fun holds => ?_⟩
  obtain ⟨other, found⟩ := owner?_of_noted ((inStep.owners slot id).mpr holds)
  obtain ⟨first, there, rfl, held⟩ := (inStep.owners slot other).mp (noted_of_owner? found)
  obtain ⟨second, among, rfl, again⟩ := holds
  rw [inStep.holder_unique there among held again] at found
  exact found

/-- A slot that no block holds passes. -/
theorem checkUnowned_of_unheld (unheld : ∀ entry ∈ table.entries, slot ∉ entry.view.ownIndices) :
    table.checkUnowned slot = .ok () := by
  have free : table.owner? slot = none := by
    rw [Option.eq_none_iff_forall_ne_some]
    intro id owned
    obtain ⟨entry, there, -, held⟩ := inStep.owner?_eq_some.mp owned
    exact unheld entry there held
  unfold checkUnowned
  rw [free]

/-- A slot that a block holds is refused, and the refusal names the geometry. -/
theorem checkUnowned_of_held (there : entry ∈ table.entries)
    (held : slot ∈ entry.view.ownIndices) :
    table.checkUnowned slot = .error (.overlappingBlock slot entry.id entry.view.kind) := by
  have owned : table.owner? slot = some entry.id :=
    inStep.owner?_eq_some.mpr ⟨entry, there, rfl, held⟩
  unfold checkUnowned
  rw [owned]
  dsimp only
  rw [inStep.find?_entry there]

/-- A view whose block meets no other is registered under the next identifier. -/
theorem add_of_apart (apart : ∀ entry ∈ table.entries, ∀ slot ∈ view.ownIndices,
      slot ∉ entry.view.ownIndices) (tag : Int) :
    table.add view (.int tag) =
      (.ok table.nextId, table.reserveId.2.insert table.nextId view tag) := by
  have passed : view.ownIndices.forM table.checkUnowned = .ok () :=
    forM_eq_ok.mpr fun slot own =>
      inStep.checkUnowned_of_unheld fun entry there => apart entry there slot own
  unfold add
  rw [passed]
  rfl

/-- A view whose block meets another is refused for its first slot that another block holds. -/
theorem add_of_meeting (meeting : ∃ entry ∈ table.entries, ∃ slot ∈ view.ownIndices,
      slot ∈ entry.view.ownIndices) (tag : Int) :
    ∃ before slot rest, ∃ entry ∈ table.entries, view.ownIndices = before ++ slot :: rest ∧
      (∀ other ∈ before, ∀ entry ∈ table.entries, other ∉ entry.view.ownIndices) ∧
      slot ∈ entry.view.ownIndices ∧
      table.add view (.int tag) =
        (.error (.overlappingBlock slot entry.id entry.view.kind), table) := by
  obtain ⟨entry, there, slot, own, held⟩ := meeting
  cases checked : view.ownIndices.forM table.checkUnowned with
  | ok _ =>
    have passed := forM_eq_ok.mp checked slot own
    cases passed.symm.trans (inStep.checkUnowned_of_held there held)
  | error fault =>
    obtain ⟨before, first, rest, split, passed, refused⟩ := exists_first_of_forM_error checked
    have unheld : ∀ other ∈ before, ∀ entry ∈ table.entries, other ∉ entry.view.ownIndices := by
      intro other early entry there held
      cases (passed other early).symm.trans (inStep.checkUnowned_of_held there held)
    -- The slot that is refused is held, since one that is not would have passed.
    have owned : ∃ entry ∈ table.entries, first ∈ entry.view.ownIndices := by
      by_contra none
      have free := inStep.checkUnowned_of_unheld fun entry there held => none ⟨entry, there, held⟩
      cases free.symm.trans refused
    obtain ⟨owner, registered, holds⟩ := owned
    refine ⟨before, first, rest, owner, registered, split, unheld, holds, ?_⟩
    cases refused.symm.trans (inStep.checkUnowned_of_held registered holds)
    unfold add
    rw [checked]

/-- Registering a view whose block meets no other keeps a table in step. -/
theorem insert (apart : ∀ entry ∈ table.entries, ∀ slot ∈ view.ownIndices,
      slot ∉ entry.view.ownIndices) (tag : Int) :
    (table.reserveId.2.insert table.nextId view tag).InStep where
  owners slot id := by
    show (slot, id) ∈ view.ownIndices.map (·, table.nextId) ++ table.owners ↔
      ∃ entry ∈ table.entries ++ [⟨table.nextId, view, tag⟩], _
    rw [List.mem_append, List.mem_map, inStep.owners]
    constructor
    · rintro (⟨_, own, ⟨⟩⟩ | ⟨entry, there, same, held⟩)
      · exact ⟨_, List.mem_append_right _ (List.mem_singleton_self _), rfl, own⟩
      · exact ⟨entry, List.mem_append_left _ there, same, held⟩
    · rintro ⟨entry, there, rfl, held⟩
      rcases List.mem_append.mp there with before | new
      · exact .inr ⟨entry, before, rfl, held⟩
      · rw [List.mem_singleton.mp new] at held ⊢
        exact .inl ⟨slot, held, rfl⟩
  blocks := by
    refine List.pairwise_append.mpr ⟨inStep.blocks, List.pairwise_singleton .., ?_⟩
    intro entry there last new slot held own
    rw [List.mem_singleton.mp new] at own
    exact apart entry there slot own held
  ascending := pairwise_append_last inStep.ascending inStep.below
  below entry there := by
    rcases List.mem_append.mp there with before | new
    · exact Nat.lt_succ_of_lt (inStep.below entry before)
    · rw [List.mem_singleton.mp new]
      exact Nat.lt_succ_self _

/-- To remove a tag is to drop the geometries that have it. -/
theorem removeTag_int (tag : Int) : ∃ kept,
    table.removeTag (.int tag) =
        .ok ((table.entries.filter (·.tag = tag)).map (·.id), kept) ∧
      kept.entries = table.entries.filter (·.tag ≠ tag) ∧
      kept.nextId = table.nextId ∧ kept.InStep := by
  have equals (n : Int) : (Value.int tag).equalsInteger n = .ok (decide (n = tag)) := by
    show Except.ok (decide (some tag = some n)) = _
    simp [eq_comm]
  have selected : (table.entries.filterM fun entry => (Value.int tag).equalsInteger entry.tag) =
      .ok (table.entries.filter (·.tag = tag)) := by
    simp only [equals]
    exact filterM_eq_ok.mpr ⟨fun _ _ => ⟨_, rfl⟩, rfl⟩
  have left : (table.drop (table.entries.filter (·.tag = tag))).2.entries =
      table.entries.filter (·.tag ≠ tag) := by
    refine (filter_not_contains (fun entry => decide (entry.tag = tag)) inStep.ascending).trans ?_
    simp only [decide_not, ne_eq]
  refine ⟨(table.drop (table.entries.filter (·.tag = tag))).2, ?_, left, rfl, ?_⟩
  · unfold removeTag
    rw [selected]
    rfl
  · constructor
    · intro slot id
      unfold Holds
      rw [left]
      show (slot, id) ∈ table.owners.filter _ ↔ _
      rw [List.mem_filter, inStep.owners]
      simp only [Bool.not_eq_true', ← Bool.not_eq_true, List.contains_iff_mem, List.mem_flatMap,
        List.mem_filter, decide_eq_true_eq, not_exists, not_and]
      constructor
      · rintro ⟨⟨entry, there, same, held⟩, kept⟩
        exact ⟨entry, ⟨there, fun dropped => kept entry ⟨there, dropped⟩ held⟩, same, held⟩
      · rintro ⟨entry, ⟨there, kept⟩, same, held⟩
        refine ⟨⟨entry, there, same, held⟩, fun other ⟨among, dropped⟩ again => kept ?_⟩
        rw [inStep.holder_unique there among held again]
        exact dropped
    · rw [left]
      exact inStep.blocks.filter _
    · rw [left]
      exact inStep.ascending.filter _
    · rw [left]
      exact fun entry there => inStep.below entry (List.mem_of_mem_filter there)

omit inStep in
/-- A cleared table is in step. -/
theorem clear : table.clear.InStep where
  owners _ _ := ⟨nofun, fun ⟨_, there, _⟩ => nomatch there⟩
  blocks := .nil
  ascending := .nil
  below := List.forall_mem_nil _

/-- Every call keeps a table in step. -/
theorem after (call : TableCall) : (table.after call).InStep := by
  cases call with
  | add view tag =>
    show (table.add view (.int tag)).2.InStep
    by_cases meeting : ∃ entry ∈ table.entries, ∃ slot ∈ view.ownIndices,
        slot ∈ entry.view.ownIndices
    · obtain ⟨_, _, _, _, _, _, _, _, refused⟩ := inStep.add_of_meeting meeting tag
      rw [refused]
      exact inStep
    · have apart : ∀ entry ∈ table.entries, ∀ slot ∈ view.ownIndices,
          slot ∉ entry.view.ownIndices :=
        fun entry there slot own held => meeting ⟨entry, there, slot, own, held⟩
      rw [inStep.add_of_apart apart]
      exact inStep.insert apart tag
  | reserve =>
    exact ⟨inStep.owners, inStep.blocks, inStep.ascending,
      fun entry there => Nat.lt_succ_of_lt (inStep.below entry there)⟩
  | removeTag tag =>
    obtain ⟨kept, removed, -, -, still⟩ := inStep.removeTag_int tag
    show GeometryTable.InStep (match table.removeTag (.int tag) with
      | .ok (_, kept) => kept
      | .error _ => table)
    rw [removed]
    exact still
  | clear => exact .clear

end InStep

/-- Every run of calls leaves a table in step. -/
theorem inStep_afterAll (calls : List TableCall) : (empty.afterAll calls).InStep :=
  List.foldlRecOn calls GeometryTable.after inStep_empty fun _ inStep call _ => inStep.after call

/-- What a table says about slots and the geometries that hold them. The owner of a slot is the
registered geometry in whose own block it lies. A view is refused exactly if its block meets that
of a registered geometry. The refusal names the first slot that is held, its holder and the kind of
that, and changes nothing. Otherwise the view is registered under the next identifier. Where the
block of a view meets none but geometries that have a tag, the view is refused no more once this tag
is removed, and no view is refused by a table that was cleared. -/
structure KnowsHolders (table : GeometryTable) : Prop where
  owner : ∀ slot id, table.owner? slot = some id ↔
    ∃ entry, table.find? id = some entry ∧ slot ∈ entry.view.ownIndices
  refused : ∀ view tag, (∃ fault, (table.add view (.int tag)).1 = .error fault) ↔
    ∃ entry ∈ table.entries, ∃ slot ∈ view.ownIndices, slot ∈ entry.view.ownIndices
  refusal : ∀ view tag fault, (table.add view (.int tag)).1 = .error fault →
    (table.add view (.int tag)).2 = table ∧
      ∃ before slot rest entry, view.ownIndices = before ++ slot :: rest ∧
        (∀ other ∈ before, table.owner? other = none) ∧ slot ∈ entry.view.ownIndices ∧
        table.find? entry.id = some entry ∧
        fault = .overlappingBlock slot entry.id entry.view.kind
  registered : ∀ view tag id, (table.add view (.int tag)).1 = .ok id →
    id = table.nextId ∧ (table.add view (.int tag)).2.entries = table.entries ++ [⟨id, view, tag⟩] ∧
      (table.add view (.int tag)).2.nextId = table.nextId + 1
  removed : ∀ tag, ∃ kept, table.removeTag (.int tag) =
      .ok ((table.entries.filter (·.tag = tag)).map (·.id), kept) ∧
    kept.entries = table.entries.filter (·.tag ≠ tag) ∧ kept.nextId = table.nextId ∧
    ∀ view other, (∀ entry ∈ table.entries, entry.tag ≠ tag →
        view.ownIndices.Disjoint entry.view.ownIndices) →
      (kept.add view (.int other)).1 = .ok table.nextId
  cleared : ∀ view tag, (table.clear.add view (.int tag)).1 = .ok table.nextId

/-- A table that is in step knows the holders of slots. -/
theorem InStep.knowsHolders (inStep : table.InStep) : table.KnowsHolders := by
  have apart_of_not {view : View} (none : ¬ ∃ entry ∈ table.entries, ∃ slot ∈ view.ownIndices,
      slot ∈ entry.view.ownIndices) :
      ∀ entry ∈ table.entries, ∀ slot ∈ view.ownIndices, slot ∉ entry.view.ownIndices :=
    fun entry there slot own held => none ⟨entry, there, slot, own, held⟩
  have meets {view : View} {tag : Int} {fault : Fault}
      (failed : (table.add view (.int tag)).1 = .error fault) :
      ∃ entry ∈ table.entries, ∃ slot ∈ view.ownIndices, slot ∈ entry.view.ownIndices := by
    by_contra none
    rw [inStep.add_of_apart (apart_of_not none)] at failed
    cases failed
  constructor
  case owner =>
    intro slot id
    rw [inStep.owner?_eq_some]
    constructor
    · rintro ⟨entry, there, rfl, held⟩
      exact ⟨entry, inStep.find?_entry there, held⟩
    · rintro ⟨entry, found, held⟩
      obtain ⟨there, same⟩ := find?_eq_some found
      exact ⟨entry, there, Int.ofNat.inj same, held⟩
  case refused =>
    refine fun view tag => ⟨fun ⟨fault, failed⟩ => meets failed, fun meeting => ?_⟩
    obtain ⟨_, _, _, _, _, _, _, _, failed⟩ := inStep.add_of_meeting meeting tag
    rw [failed]
    exact ⟨_, rfl⟩
  case refusal =>
    intro view tag fault failed
    obtain ⟨before, slot, rest, entry, there, split, unheld, held, refused⟩ :=
      inStep.add_of_meeting (meets failed) tag
    rw [refused] at failed ⊢
    cases failed
    refine ⟨rfl, before, slot, rest, entry, split, fun other early => ?_, held,
      inStep.find?_entry there, rfl⟩
    rw [Option.eq_none_iff_forall_ne_some]
    intro id owned
    obtain ⟨holder, among, -, holds⟩ := inStep.owner?_eq_some.mp owned
    exact unheld other early holder among holds
  case registered =>
    intro view tag id answered
    by_cases meeting : ∃ entry ∈ table.entries, ∃ slot ∈ view.ownIndices,
        slot ∈ entry.view.ownIndices
    · obtain ⟨_, _, _, _, _, _, _, _, failed⟩ := inStep.add_of_meeting meeting tag
      rw [failed] at answered
      cases answered
    · rw [inStep.add_of_apart (apart_of_not meeting)] at answered ⊢
      cases answered
      exact ⟨rfl, rfl, rfl⟩
  case removed =>
    intro tag
    obtain ⟨kept, removed, entries, nextId, still⟩ := inStep.removeTag_int tag
    refine ⟨kept, removed, entries, nextId, fun view other apart => ?_⟩
    have free : ∀ entry ∈ kept.entries, ∀ slot ∈ view.ownIndices,
        slot ∉ entry.view.ownIndices := by
      rw [entries]
      intro entry there slot own held
      obtain ⟨before, differs⟩ := List.mem_filter.mp there
      exact apart entry before (of_decide_eq_true differs) own held
    rw [still.add_of_apart free, nextId]
  case cleared =>
    intro view tag
    rw [InStep.clear.add_of_apart (List.forall_mem_nil _)]
    rfl

/-- After any calls, with views whose blocks meet others or list a slot twice among them, a table
knows the holders of slots. -/
theorem knowsHolders_afterAll (calls : List TableCall) : (empty.afterAll calls).KnowsHolders :=
  (inStep_afterAll calls).knowsHolders

/-- A block that lists a slot twice is dropped whole: both its slots can be owned again. -/
example : (empty.afterAll [.add ⟨.point 3 3, none⟩ 1, .add ⟨.point 4 5, none⟩ 2, .removeTag 1,
    .add ⟨.point 3 6, none⟩ 0]).entries.map (fun entry => (entry.id, entry.view.ownIndices)) =
      [(1, [4, 5]), (2, [3, 6])] := by decide

end GeometryTable

end Drafting
