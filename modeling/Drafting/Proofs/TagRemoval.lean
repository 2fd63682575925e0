import Drafting.Proofs.Numbering
import Drafting.Proofs.Steadiness

/-!
# Removing by a tag

What carries a tag is removed together: constraints, geometries and the slots of both. The slots of
the block of a geometry have its tag, and what is retired is fixed. So after the removal of a tag
none of its slots is free, those of other tags are as they were, and to remove it again finds
nothing to do.
-/

namespace Drafting

namespace Store

/-- A store whose slots are each revised: tags stay, and what is retired is fixed if it was so
before. -/
def Revises (before after : Store) : Prop :=
  ∀ place : Nat, ∃ revise : Slot → Slot, after.slots[place]? = before.slots[place]?.map revise ∧
    ∀ slot, (revise slot).tag = slot.tag ∧
      ((slot.retired → slot.fixed) → (revise slot).retired → (revise slot).fixed)

variable {store : Store}

/-- A store that is as it was. -/
theorem Revises.refl (store : Store) : store.Revises store :=
  fun _ => ⟨id, (Option.map_id' ..).symm, fun _ => ⟨rfl, id⟩⟩

/-- A store that is revised twice. -/
theorem Revises.trans {middle after : Store} (first : store.Revises middle)
    (second : middle.Revises after) : store.Revises after := by
  intro place
  obtain ⟨revise, here, kept⟩ := first place
  obtain ⟨revise', there, kept'⟩ := second place
  refine ⟨revise' ∘ revise, ?_, fun slot => ⟨(kept' _).1.trans (kept slot).1, fun fixed => ?_⟩⟩
  · rw [there, here, Option.map_map]
  · exact (kept' _).2 ((kept slot).2 fixed)

/-- Retiring revises slots. -/
theorem revises_retireTag (store : Store) (tag : Int) : store.Revises (store.retireTag tag).2 := by
  refine fun place => ⟨(·.retiring tag), slots_retireTag store tag place, fun slot => ?_⟩
  dsimp only [Slot.retiring]
  split
  · exact ⟨rfl, fun _ _ => rfl⟩
  · exact ⟨rfl, id⟩

/-- Where all slots with a tag are retired, there is nothing to retire. -/
theorem retireTag_of_retired {tag : Int}
    (retired : ∀ (place : Nat) (slot : Slot), store.slots[place]? = some slot →
      slot.tag = tag → slot.retired) : store.retireTag tag = ([], store) := by
  have none : store.indicesWhere (fun slot => slot.tag = tag && !slot.retired) = [] := by
    unfold indicesWhere
    rw [List.filter_eq_nil_iff]
    intro place _ hit
    cases there : store.slots[place]? with
    | none => rw [there] at hit; cases hit
    | some slot =>
      rw [there] at hit
      obtain ⟨same, active⟩ := Bool.and_eq_true_iff.mp hit
      rw [retired place slot there (of_decide_eq_true same)] at active
      cases active
  unfold retireTag
  rw [none]
  rfl

/-- What was retired is not retired again. -/
theorem retireTag_retireTag (store : Store) (tag : Int) :
    (store.retireTag tag).2.retireTag tag = ([], (store.retireTag tag).2) := by
  refine retireTag_of_retired fun place slot there same => ?_
  rw [slots_retireTag] at there
  obtain ⟨old, -, rfl⟩ := Option.map_eq_some_iff.mp there
  unfold Slot.retiring at same ⊢
  by_cases due : old.tag = tag && !old.retired
  · rw [if_pos due]
  · rw [if_neg due] at same ⊢
    simpa [same] using due

/-- Writing to what is free revises slots. -/
theorem revises_writeFreeAll (store : Store) (pairs : List (Nat × Float)) :
    store.Revises (store.writeFreeAll pairs).2 := by
  induction pairs generalizing store with
  | nil => exact .refl store
  | cons pair rest ih =>
    refine .trans (fun place => ?_) (ih (store.writeFree pair.1 pair.2).2)
    rw [slots_writeFree]
    by_cases here : pair.1 = place
    · refine ⟨(·.taking pair.2), if_pos here, fun slot => ?_⟩
      dsimp only [Slot.taking]
      split <;> exact ⟨rfl, id⟩
    · exact ⟨id, (if_neg here).trans Option.map_id'.symm, fun _ => ⟨rfl, id⟩⟩

/-- Storing a measured value revises a slot. -/
theorem revises_write_mark (store : Store) (index : Nat) (value : Float) :
    store.Revises ((store.write index value).mark index true) := by
  intro place
  rw [slots_mark, slots_write]
  by_cases here : index = place
  · refine ⟨fun slot => { slot with value, fixed := true }, ?_, fun _ => ⟨rfl, fun _ _ => rfl⟩⟩
    rw [if_pos here, if_pos here, Option.map_map]
    rfl
  · refine ⟨id, ?_, fun _ => ⟨rfl, id⟩⟩
    rw [if_neg here, if_neg here]
    exact Option.map_id'.symm

end Store

namespace Sketch

/-- The slots of the block of each geometry have its tag, and what is retired is fixed. -/
structure Tagged (sketch : Sketch) : Prop where
  blocks : ∀ entry ∈ sketch.table.entries, ∀ index ∈ entry.view.ownIndices,
    ∃ slot, sketch.store.slots[index.toNat]? = some slot ∧ slot.tag = entry.tag
  retired : ∀ (place : Nat) (slot : Slot), sketch.store.slots[place]? = some slot →
    slot.retired → slot.fixed

variable {sketch after : Sketch} {scope : Scope}

/-- In a new sketch there is nothing to be tagged. -/
theorem tagged_start (identity : Nat) (options : SolveOptions) (journal : Journal) :
    (start identity options journal).Tagged where
  blocks := List.forall_mem_nil _
  retired _ _ there := nomatch there

/-- Revising slots and dropping geometry keep a sketch tagged. -/
theorem Tagged.revised (tagged : sketch.Tagged) (revises : sketch.store.Revises after.store)
    (entries : after.table.entries.Sublist sketch.table.entries) : after.Tagged where
  blocks entry there index own := by
    obtain ⟨slot, stored, same⟩ := tagged.blocks entry (entries.subset there) index own
    obtain ⟨revise, found, kept⟩ := revises index.toNat
    rw [stored] at found
    exact ⟨revise slot, found, (kept slot).1.trans same⟩
  retired place slot there := by
    obtain ⟨revise, found, kept⟩ := revises place
    rw [there] at found
    obtain ⟨old, stored, rfl⟩ := Option.map_eq_some_iff.mp found.symm
    exact (kept old).2 (tagged.retired place old stored)

/-- What is appended is not retired. -/
theorem Tagged.retired_append (tagged : sketch.Tagged) {values : List Float} {fixed : Bool}
    {tag : Int} (place : Nat) (slot : Slot)
    (there : (sketch.store.append values fixed tag).2.slots[place]? = some slot) :
    slot.retired → slot.fixed := by
  rcases Nat.lt_or_ge place sketch.store.slots.size with old | new
  · rw [show (sketch.store.append values fixed tag).2.slots = sketch.store.slots ++ _ from rfl,
      Array.getElem?_append_left old] at there
    exact tagged.retired place slot there
  · rw [show (sketch.store.append values fixed tag).2.slots = sketch.store.slots ++ _ from rfl,
      Array.getElem?_append_right new, List.getElem?_toArray, List.getElem?_map] at there
    obtain ⟨value, -, rfl⟩ := Option.map_eq_some_iff.mp there
    exact fun impossible => nomatch impossible

/-- Appending slots keeps a sketch tagged. -/
theorem Tagged.grown (tagged : sketch.Tagged) (values : List Float) (fixed : Bool) (tag : Int)
    (entries : after.table.entries = sketch.table.entries)
    (store : after.store = (sketch.store.append values fixed tag).2) : after.Tagged where
  blocks entry there index own := by
    obtain ⟨slot, stored, same⟩ := tagged.blocks entry (entries ▸ there) index own
    refine ⟨slot, ?_, same⟩
    rw [store]
    show (sketch.store.slots ++ _)[index.toNat]? = _
    rw [Array.getElem?_append_left (Array.getElem?_eq_some_iff.mp stored).1, stored]
  retired place slot there := tagged.retired_append place slot (store ▸ there)

/-- A geometry that is registered over a new block of its tag keeps a sketch tagged. -/
theorem Tagged.drawn (tagged : sketch.Tagged) {view : View} {values : List Float}
    (draws : sketch.Draws scope values.length view) (fixed : Bool) {slotTag tag : Int}
    (same : values ≠ [] → slotTag = tag) :
    Tagged { sketch with
      store := (sketch.store.append values fixed slotTag).2
      table := sketch.table.reserveId.2.insert sketch.table.nextId view tag } where
  blocks entry there index own := by
    rcases List.mem_append.mp there with before | new
    · have grown := @Tagged.grown sketch
        { sketch with store := (sketch.store.append values fixed slotTag).2 } tagged values fixed
        slotTag rfl rfl
      exact grown.blocks entry before index own
    · rw [List.mem_singleton.mp new] at own ⊢
      rw [draws.own] at own
      obtain ⟨place, inside, rfl⟩ := List.mem_map.mp own
      obtain ⟨least, below⟩ := List.mem_range'_1.mp inside
      obtain ⟨offset, rfl⟩ := Nat.exists_eq_add_of_le least
      have short : offset < values.length := by omega
      refine ⟨⟨values[offset], fixed, slotTag, false⟩, ?_, same fun none => by simp [none] at short⟩
      show (sketch.store.slots ++ _)[(Int.ofNat _).toNat]? = _
      have past : sketch.store.slots.size ≤ sketch.store.size + offset := Nat.le_add_right ..
      rw [Int.ofNat_eq_natCast, Int.toNat_natCast, Array.getElem?_append_right past,
        show sketch.store.size + offset - sketch.store.slots.size = offset from
          Nat.add_sub_cancel_left ..]
      simp [short]
  retired := tagged.retired_append

/-- Every change keeps a sketch tagged. -/
theorem Tagged.change (tagged : sketch.Tagged) (change : Change scope sketch after) :
    after.Tagged := by
  cases change with
  | drawn values fixed slotTag tag draws same => exact tagged.drawn draws fixed same
  | grown values fixed tag => exact tagged.grown values fixed tag rfl rfl
  | named value fixed tag => exact tagged.grown [value] fixed tag rfl rfl
  | constrained modifiers tag => exact tagged.grown _ true tag rfl rfl
  | dropped => exact tagged.revised (.refl _) List.filter_sublist
  | cleared => exact ⟨List.forall_mem_nil _, fun _ _ there => nomatch there⟩
  | retired tag => exact tagged.revised (Store.revises_retireTag sketch.store tag) (.refl _)
  | applied => exact tagged.revised (Store.revises_writeFreeAll sketch.store _) (.refl _)
  | measured value =>
    exact tagged.revised (Store.revises_write_mark sketch.store _ value) (.refl _)
  | noted | reserved | defined | removed | attempted => exact tagged.revised (.refl _) (.refl _)

/-- Every sketch that is reached is tagged. -/
theorem Reached.tagged (reached : sketch.Reached scope) : sketch.Tagged :=
  reached.invariant tagged_start Tagged.change

/-- The sketch without what has a tag. -/
def withoutTag (sketch : Sketch) (tag : Int) : Sketch :=
  { sketch with
    constraints := sketch.constraints.filter (·.tag ≠ tag)
    table := (sketch.table.drop (sketch.table.entries.filter (·.tag = tag))).2
    store := (sketch.store.retireTag tag).2 }

end Sketch

namespace Session

variable {sketch : Sketch}

/-- Retiring a tag that is read and tolerated retires its slots and writes to the journal. -/
theorem outcome_retire {tag : Value} {number : Int} (read : tag.toInteger = .ok number)
    (tolerates : sketch.Tolerates tag) :
    ∃ journal, (retire tag).outcome sketch =
      (.ok (sketch.store.retireTag number).1,
        Sketch.withJournal { sketch with store := (sketch.store.retireTag number).2 } journal) := by
  unfold retire
  rw [outcome_bind, outcome_onStore, show sketch.store.retire tag =
    .ok (sketch.store.retireTag number) by
      unfold Store.retire
      rw [read]
      rfl]
  dsimp only
  by_cases none : (sketch.store.retireTag number).1.isEmpty
  · rw [if_pos none]
    exact ⟨sketch.journal, rfl⟩
  · rw [if_neg none]
    obtain ⟨given, journal, noted, -, shown⟩ := outcome_noteTag_return .debug .store
      ("Retired " ++ decimalText (sketch.store.retireTag number).1.length ++ " parameter(s) with")
      tag "" (sketch.store.retireTag number).1
      { sketch with store := (sketch.store.retireTag number).2 }
    rw [shown tolerates] at noted
    exact ⟨journal, noted⟩

/-- Retiring a tag that cannot be read is refused. -/
theorem outcome_retire_unread {tag : Value} {fault : Fault} (unread : tag.toInteger = .error fault)
    (sketch : Sketch) : (retire tag).outcome sketch = (.error fault, sketch) := by
  unfold retire
  rw [outcome_bind, outcome_onStore, show sketch.store.retire tag = .error fault by
    unfold Store.retire
    rw [unread]
    rfl]

/-- The members of a list whose tag equals one that is compared. -/
theorem filterM_equalsInteger {α : Type} {tag : Value} {chosen : Int → Bool}
    (equals : ∀ n, tag.equalsInteger n = .ok (chosen n)) (members : List α) (tagOf : α → Int) :
    (members.filterM fun member => tag.equalsInteger (tagOf member)) =
      .ok (members.filter fun member => chosen (tagOf member)) := by
  rw [show tag.equalsInteger = fun n => .ok (chosen n) from funext equals]
  exact filterM_eq_ok.mpr ⟨fun _ _ => ⟨_, rfl⟩, rfl⟩

/-- Removing a tag that is compared but not read is refused after the constraints whose tag it
equals are gone. -/
theorem outcome_removeTag_unread {tag : Value} {chosen : Int → Bool} {fault : Fault}
    (ascend : sketch.Numbered) (equals : ∀ n, tag.equalsInteger n = .ok (chosen n))
    (unread : tag.toInteger = .error fault) :
    (removeTag tag).outcome sketch =
      (.error fault,
        { sketch with constraints := sketch.constraints.filter fun c => !chosen c.tag }) := by
  unfold removeTag
  rw [outcome_get_bind, outcome_bind, outcome_filterM_liftM, filterM_equalsInteger equals]
  dsimp only
  rw [outcome_modify_bind, filter_not_contains _ ascend.constraintsAscend, outcome_bind,
    outcome_retire_unread unread]

/-- Removing a tag that is neither compared nor read is refused and changes nothing. -/
theorem outcome_removeTag_uncompared {tag : Value} {fault other : Fault}
    (unread : tag.toInteger = .error fault) (unequal : ∀ n, tag.equalsInteger n = .error other) :
    ∃ refusal, (removeTag tag).outcome sketch = (.error refusal, sketch) := by
  unfold removeTag
  rw [outcome_get_bind, outcome_bind, outcome_filterM_liftM]
  cases selected : sketch.constraints.filterM fun c => tag.equalsInteger c.tag with
  | error refusal => exact ⟨refusal, rfl⟩
  | ok kept =>
    -- There is no constraint to compare the tag with, so it is read next.
    obtain ⟨each, rfl⟩ := filterM_eq_ok.mp selected
    have none : sketch.constraints = [] := List.eq_nil_iff_forall_not_mem.mpr fun c there => by
      obtain ⟨answer, answered⟩ := each c there
      cases (unequal c.tag).symm.trans answered
    have same : { sketch with constraints := [] } = sketch := by rw [← none]
    dsimp only
    rw [none, List.filter_nil, outcome_modify_bind, none, List.filter_nil, outcome_bind,
      outcome_retire_unread unread, same]
    exact ⟨fault, rfl⟩

/-- Removing a tag that is compared, read and tolerated answers the identifiers of the constraints
whose tag it equals, and leaves the sketch without these constraints and without the geometries
whose tag it equals. -/
theorem outcome_removeTag_of_equals {tag : Value} {chosen : Int → Bool} {number : Int}
    (ascend : sketch.Numbered) (equals : ∀ n, tag.equalsInteger n = .ok (chosen n))
    (read : tag.toInteger = .ok number) (tolerates : sketch.Tolerates tag) :
    ∃ journal, (removeTag tag).outcome sketch =
      (.ok ((sketch.constraints.filter fun c => chosen c.tag).map (·.id)),
        Sketch.withJournal
          { sketch with
            constraints := sketch.constraints.filter fun c => !chosen c.tag
            table := (sketch.table.drop (sketch.table.entries.filter fun entry =>
              chosen entry.tag)).2
            store := (sketch.store.retireTag number).2 }
          journal) := by
  unfold removeTag
  rw [outcome_get_bind, outcome_bind, outcome_filterM_liftM, filterM_equalsInteger equals]
  dsimp only
  rw [outcome_modify_bind, filter_not_contains _ ascend.constraintsAscend, outcome_bind]
  obtain ⟨middle, retired⟩ := @outcome_retire
    { sketch with constraints := sketch.constraints.filter fun c => !chosen c.tag } _ _ read
      tolerates
  rw [retired]
  dsimp only
  rw [outcome_bind]
  obtain ⟨answer, journal, noted, shown⟩ := outcome_noteTag .info .constraints
    ("Removed " ++ decimalText (sketch.constraints.filter fun c => chosen c.tag).length ++
      " constraint(s) and retired " ++ decimalText (sketch.store.retireTag number).1.length ++
      " parameter(s) with") tag ""
    (Sketch.withJournal
      { sketch with
        constraints := sketch.constraints.filter fun c => !chosen c.tag
        store := (sketch.store.retireTag number).2 } middle)
  rw [noted, shown tolerates]
  refine ⟨journal, ?_⟩
  dsimp only
  rw [outcome_get_bind, outcome_liftM_bind]
  unfold GeometryTable.removeTag
  rw [filterM_equalsInteger equals]
  rfl

/-- Removing a tag that equals one integer answers the identifiers of the constraints that have this
integer for a tag, and leaves the sketch without it. -/
theorem outcome_removeTag_whole (ascend : sketch.Numbered) {tag : Value} {number : Int}
    (equals : ∀ n, tag.equalsInteger n = .ok (decide (n = number)))
    (read : tag.toInteger = .ok number) (tolerates : sketch.Tolerates tag) :
    ∃ journal, (removeTag tag).outcome sketch =
      (.ok ((sketch.constraints.filter (·.tag = number)).map (·.id)),
        (sketch.withoutTag number).withJournal journal) := by
  obtain ⟨journal, removed⟩ := outcome_removeTag_of_equals ascend equals read tolerates
  refine ⟨journal, removed.trans ?_⟩
  unfold Sketch.withoutTag
  simp only [decide_not, ne_eq]

/-- Removing an integer tag answers the identifiers of the constraints that have it, and leaves the
sketch without them. -/
theorem outcome_removeTag (numbered : sketch.Numbered) (tag : Int) :
    ∃ journal, (removeTag (.int tag)).outcome sketch =
      (.ok ((sketch.constraints.filter (·.tag = tag)).map (·.id)),
        (sketch.withoutTag tag).withJournal journal) := by
  have equals (n : Int) : (Value.int tag).equalsInteger n = .ok (decide (n = tag)) := by
    show Except.ok (decide (some tag = some n)) = _
    simp [eq_comm]
  exact outcome_removeTag_whole numbered equals rfl .int

end Session

namespace Sketch

variable {sketch : Sketch}

/-- What it means that a tag was removed and the identifiers of the constraints that had it were
answered: nothing else is gone, and of the slots only the flags of those with the tag differ. -/
structure Removal (sketch : Sketch) (tag : Int) (ids : List Nat) (after : Sketch) : Prop where
  ascending : ids.Pairwise (· < ·)
  answered : ∀ id : Nat, id ∈ ids ↔ ∃ c, sketch.constraint? id = some c ∧ c.tag = tag
  noConstraint : ∀ c ∈ after.constraints, c.tag ≠ tag
  noGeometry : ∀ entry ∈ after.table.entries, entry.tag ≠ tag
  constraintUnder : ∀ id, after.constraint? id = (sketch.constraint? id).filter (·.tag ≠ tag)
  geometryUnder : ∀ id, after.table.find? id = (sketch.table.find? id).filter (·.tag ≠ tag)
  names : after.names = sketch.names
  nextId : after.table.nextId = sketch.table.nextId
  size : after.store.size = sketch.store.size
  binding : after.store.binding = sketch.store.binding
  slots : ∀ place : Nat, after.store.slots[place]? = sketch.store.slots[place]?.map fun slot =>
    if slot.tag = tag then { slot with fixed := true, retired := true } else slot
  notFree : ∀ entry ∈ sketch.table.entries, entry.tag = tag → ∀ place ∈ after.store.freeIndices,
    (place : Int) ∉ entry.view.ownIndices
  catalog : after.catalog = sketch.catalog
  options : after.options = sketch.options
  attempt : after.attempt = sketch.attempt

/-- Where everything that is retired is fixed, retiring a tag fixes and retires all its slots. -/
theorem Tagged.slots_retireTag (tagged : sketch.Tagged) (tag : Int) (place : Nat) :
    (sketch.store.retireTag tag).2.slots[place]? = sketch.store.slots[place]?.map fun slot =>
      if slot.tag = tag then { slot with fixed := true, retired := true } else slot := by
  rw [Store.slots_retireTag]
  cases there : sketch.store.slots[place]? with
  | none => rfl
  | some slot =>
    have fixed := tagged.retired place slot there
    rw [Option.map_some, Option.map_some]
    obtain ⟨value, fixed', tag', retired'⟩ := slot
    by_cases same : tag' = tag
    · cases retired' with
      | false => simp [Slot.retiring, same]
      | true => simp [Slot.retiring, same, show fixed' = true from fixed rfl]
    · simp [Slot.retiring, same]

/-- Leaving out what has a tag is its removal. -/
theorem removal_withoutTag (numbered : sketch.Numbered) (tagged : sketch.Tagged) (tag : Int)
    (journal : Journal) :
    sketch.Removal tag ((sketch.constraints.filter (·.tag = tag)).map (·.id))
      ((sketch.withoutTag tag).withJournal journal) := by
  have entries : (sketch.withoutTag tag).table.entries =
      sketch.table.entries.filter fun entry => !decide (entry.tag = tag) :=
    filter_not_contains _ numbered.entriesAscend
  constructor
  · exact List.pairwise_map.mpr (numbered.constraintsAscend.filter _)
  · intro id
    constructor
    · intro there
      obtain ⟨c, among, rfl⟩ := List.mem_map.mp there
      obtain ⟨registered, has⟩ := List.mem_filter.mp among
      exact ⟨c, numbered.constraint?_id registered, of_decide_eq_true has⟩
    · rintro ⟨c, found, has⟩
      obtain ⟨registered, same⟩ := constraint?_eq_some found
      exact List.mem_map.mpr
        ⟨c, List.mem_filter.mpr ⟨registered, decide_eq_true has⟩, Int.ofNat.inj same⟩
  · intro c there
    exact of_decide_eq_true (List.mem_filter.mp there).2
  · intro entry there
    have left : entry ∈ (sketch.withoutTag tag).table.entries := there
    rw [entries] at left
    simpa using (List.mem_filter.mp left).2
  · exact fun id => find?_filter_of_ascending _ numbered.constraintsAscend id
  · intro id
    show (sketch.withoutTag tag).table.entries.find? _ = _
    rw [entries, find?_filter_of_ascending _ numbered.entriesAscend]
    simp only [decide_not]
    rfl
  · rfl
  · rfl
  · exact Store.size_retireTag ..
  · exact Store.binding_retireTag ..
  · exact tagged.slots_retireTag tag
  · intro entry there has place free own
    obtain ⟨slot, stored, same⟩ := tagged.blocks entry there place own
    have held : (sketch.store.retireTag tag).2.IsFree place := Store.isFree_of_mem free
    rw [Int.toNat_natCast] at stored
    unfold Store.IsFree at held
    rw [tagged.slots_retireTag, stored, Option.map_some, if_pos (same.trans has)] at held
    cases held
  · rfl
  · rfl
  · rfl

/-- What was left out is not there to be left out again. -/
theorem withoutTag_withoutTag (numbered : sketch.Numbered) (tag : Int) :
    (sketch.withoutTag tag).withoutTag tag = sketch.withoutTag tag := by
  have constraints : (sketch.withoutTag tag).constraints.filter (·.tag ≠ tag) =
      (sketch.withoutTag tag).constraints :=
    List.filter_eq_self.mpr fun _ there => (List.mem_filter.mp there).2
  have entries : (sketch.withoutTag tag).table.entries.filter (·.tag = tag) = [] := by
    rw [show (sketch.withoutTag tag).table.entries =
        sketch.table.entries.filter fun entry => !decide (entry.tag = tag) from
      filter_not_contains _ numbered.entriesAscend, List.filter_filter]
    simp
  have table : ((sketch.withoutTag tag).table.drop []).2 = (sketch.withoutTag tag).table := by
    simp [GeometryTable.drop]
  have store := congrArg Prod.snd (Store.retireTag_retireTag sketch.store tag)
  show { sketch.withoutTag tag with
    constraints := (sketch.withoutTag tag).constraints.filter (·.tag ≠ tag)
    table := ((sketch.withoutTag tag).table.drop
      ((sketch.withoutTag tag).table.entries.filter fun entry => entry.tag = tag)).2
    store := ((sketch.store.retireTag tag).2.retireTag tag).2 } = _
  rw [constraints, entries, table, store]
  rfl

/-- Removing a tag removes exactly the constraints and the geometries that have it and fixes and
retires exactly the slots that have it, in every sketch that requests leave; it answers the
identifiers of the constraints in ascending order. To remove it again finds nothing. -/
theorem removeTag_exact (identity : Nat) (options : SolveOptions) (journal : Journal)
    (requests : List Request) (tag : Int) :
    let sketch := (start identity options journal).afterAll requests
    ∃ ids after, (Session.removeTag (.int tag)).outcome sketch = (.ok ids, after) ∧
      sketch.Removal tag ids after ∧
      ∃ journal', (Session.removeTag (.int tag)).outcome after =
        (.ok [], after.withJournal journal') := by
  intro sketch
  have reached : sketch.Reached .all :=
    ⟨identity, options, journal, requests, fun request _ => request.within_all, rfl⟩
  obtain ⟨middle, removed⟩ := Session.outcome_removeTag reached.numbered tag
  refine ⟨_, _, removed, removal_withoutTag reached.numbered reached.tagged tag middle, ?_⟩
  have numbered : ((sketch.withoutTag tag).withJournal middle).Numbered :=
    reached.numbered.mono (Nat.le_refl _) List.filter_sublist List.filter_sublist
  obtain ⟨last, again⟩ := Session.outcome_removeTag numbered tag
  have none : (sketch.constraints.filter (·.tag ≠ tag)).filter (·.tag = tag) = [] := by
    rw [List.filter_filter]
    simp
  have same : ((sketch.withoutTag tag).withJournal middle).withoutTag tag =
      (sketch.withoutTag tag).withJournal middle :=
    congrArg (·.withJournal middle) (withoutTag_withoutTag reached.numbered tag)
  refine ⟨last, again.trans ?_⟩
  rw [same]
  show (Except.ok (((sketch.constraints.filter (·.tag ≠ tag)).filter (·.tag = tag)).map _), _) = _
  rw [none]
  rfl

end Sketch

end Drafting
