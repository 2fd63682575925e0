import Drafting.Proofs.Refusal
import Drafting.Store

/-!
# Slots

What the operations of the store do to its row of slots. Slots are only ever appended: as a block
with one flag and one tag, or one at a time, which comes to the same.
-/

namespace Drafting

/-- A slot to which a value is offered: it takes it unless it is fixed. -/
def Slot.taking (slot : Slot) (value : Float) : Slot :=
  if slot.fixed then slot else { slot with value }

/-- A slot when a tag is retired: it is held fixed and marked if it has the tag and is not retired
yet. -/
def Slot.retiring (slot : Slot) (tag : Int) : Slot :=
  if slot.tag = tag && !slot.retired then { slot with fixed := true, retired := true } else slot

namespace Store

/-- Appending nothing changes nothing. -/
@[simp] theorem append_nil (store : Store) (fixed : Bool) (tag : Int) :
    (store.append [] fixed tag).2 = store := by
  simp [append]

/-- Slots that are appended one after the other are appended together. -/
theorem append_append (store : Store) (before after : List Float) (fixed : Bool) (tag : Int) :
    ((store.append before fixed tag).2.append after fixed tag).2 =
      (store.append (before ++ after) fixed tag).2 := by
  simp [append, Array.append_assoc]

/-- Retiring keeps the count of slots. -/
@[simp] theorem size_retireTag (store : Store) (tag : Int) :
    (store.retireTag tag).2.size = store.size := by
  unfold retireTag
  dsimp only
  generalize store.indicesWhere _ = hits
  induction hits generalizing store with
  | nil => rfl
  | cons hit rest ih => rw [List.foldl_cons, ih, size_retireSlot]

/-- Writing to what is free keeps the count of slots. -/
@[simp] theorem size_writeFreeAll (store : Store) (pairs : List (Nat × Float)) :
    (store.writeFreeAll pairs).2.size = store.size := by
  induction pairs generalizing store with
  | nil => rfl
  | cons pair rest ih =>
    have written : (store.writeFree pair.1 pair.2).2.size = store.size := by
      unfold writeFree
      split
      · split
        · rfl
        · exact size_write ..
      · rfl
    exact (ih _).trans written

/-- A literal is refused a slot only for its tag. -/
theorem push_literal {x : Float} (store : Store) (finite : x.isFinite) (tag : Value) :
    store.push (.float x) (.bool true) tag =
      (storedTag tag).map fun tag => (store.size, (store.append [x] true tag).2) := by
  have known : finiteReal (.float x) = .ok x := if_pos finite
  unfold push
  rw [known]
  show (storedTag tag >>= _) = _
  cases storedTag tag <;> rfl

/-- A tag that is stored is the integer that was given. -/
theorem toInteger_of_storedTag {tag : Value} {t : Int} (stored : storedTag tag = .ok t) :
    tag.toInteger = .ok t := by
  obtain ⟨n, read, checked⟩ := bind_eq_ok.mp stored
  by_cases range : -tagLimit ≤ n ∧ n < tagLimit
  · rw [if_pos range] at checked
    rw [read, checked]
  · rw [if_neg range] at checked
    cases checked

/-- A tag that has to be stored only under a condition is refused under it, or it counts as one
integer, which is the one that is stored. -/
theorem storedTag_cases (tag : Value) (needed : Prop) :
    (∃ fault, storedTag tag = .error fault ∧ needed) ∨
      ∃ t, (needed → storedTag tag = .ok t) ∧ ∀ n, tag.toInteger = .ok n → n = t := by
  cases stored : storedTag tag with
  | ok t =>
    refine .inr ⟨t, fun _ => rfl, fun n read => ?_⟩
    rw [toInteger_of_storedTag stored] at read
    exact (Except.ok.inj read).symm
  | error fault =>
    by_cases need : needed
    · exact .inl ⟨fault, rfl, need⟩
    · cases number : tag.toInteger with
      | ok n =>
        exact .inr ⟨n, fun wanted => absurd wanted need, fun _ read => (Except.ok.inj read).symm⟩
      | error other =>
        refine .inr ⟨0, fun wanted => absurd wanted need, fun _ read => ?_⟩
        cases read

/-- A finite number is put into a slot, which is held fixed, if the slot exists. -/
theorem set_finite (store : Store) (slot : Nat) {x : Float} (finite : x.isFinite) :
    store.set (.int slot) (.float x) (.bool true) =
      if slot < store.size then (.ok (), (store.write slot x).mark slot true)
      else (.error (.slotOutOfRange slot store.size), store) := by
  have read : finiteReal (.float x) = .ok x := if_pos finite
  by_cases inside : slot < store.size
  · have checked : store.check (.int slot) = .ok slot :=
      if_pos ⟨Int.natCast_nonneg slot, Int.ofNat_lt.mpr inside⟩
    rw [if_pos inside]
    unfold set setValue
    rw [checked, read]
    rfl
  · have checked : store.check (.int slot) = .error (.slotOutOfRange slot store.size) :=
      if_neg fun both => inside (Int.ofNat_lt.mp both.2)
    rw [if_neg inside]
    unfold set setValue
    rw [checked]
    rfl

/-- Setting changes nothing, or it writes a value, or it also marks the slot. -/
theorem set_cases (store : Store) (index value fixed : Value) :
    (store.set index value fixed).2 = store ∨ ∃ place x,
      (store.set index value fixed).2 = store.write place x ∨
        ∃ flag, (store.set index value fixed).2 = (store.write place x).mark place flag := by
  unfold set
  cases written : store.setValue index value with
  | error fault => exact .inl rfl
  | ok result =>
    obtain ⟨place, -, rest⟩ := bind_eq_ok.mp written
    obtain ⟨x, -, answered⟩ := bind_eq_ok.mp rest
    cases answered
    cases fixed.truth with
    | error fault => exact .inr ⟨place, x, .inl rfl⟩
    | ok flag => exact .inr ⟨place, x, .inr ⟨flag, rfl⟩⟩

/-- A slot that is pushed is appended with the number, the flag and the tag that were given. -/
theorem push_eq_ok {store grown : Store} {value fixed tag : Value} {index : Nat}
    (pushed : store.push value fixed tag = .ok (index, grown)) :
    ∃ x b t, index = store.size ∧ grown = (store.append [x] b t).2 := by
  obtain ⟨x, -, rest⟩ := bind_eq_ok.mp pushed
  obtain ⟨b, -, rest⟩ := bind_eq_ok.mp rest
  obtain ⟨t, -, answered⟩ := bind_eq_ok.mp rest
  cases answered
  exact ⟨x, b, t, rfl, rfl⟩

/-- A block that is pushed is appended with one number for each value. -/
theorem pushAll_eq_ok {store grown : Store} {values : List Value} {fixed tag : Value}
    {block : List Nat} (pushed : store.pushAll values fixed tag = .ok (block, grown)) :
    ∃ reals b t, reals.length = values.length ∧ tag.toInteger = .ok t ∧
      block = List.range' store.size values.length ∧ grown = (store.append reals b t).2 := by
  obtain ⟨reals, read, rest⟩ := bind_eq_ok.mp pushed
  obtain ⟨b, -, rest⟩ := bind_eq_ok.mp rest
  obtain ⟨t, stored, answered⟩ := bind_eq_ok.mp rest
  have count := (mapM_eq_ok.mp read).length_eq
  cases answered
  exact ⟨reals, b, t, count.symm, toInteger_of_storedTag stored, by rw [count], rfl⟩

/-- Writing changes the value of one slot. -/
theorem slots_write (store : Store) (index place : Nat) (value : Float) :
    (store.write index value).slots[place]? =
      if index = place then store.slots[place]?.map fun slot => { slot with value }
      else store.slots[place]? := Array.getElem?_modify

/-- Marking changes the flag of one slot. -/
theorem slots_mark (store : Store) (index place : Nat) (fixed : Bool) :
    (store.mark index fixed).slots[place]? =
      if index = place then store.slots[place]?.map fun slot => { slot with fixed }
      else store.slots[place]? := Array.getElem?_modify

/-- Retiring changes the flags of one slot. -/
theorem slots_retireSlot (store : Store) (index place : Nat) :
    (store.retireSlot index).slots[place]? =
      if index = place then
        store.slots[place]?.map fun slot => { slot with fixed := true, retired := true }
      else store.slots[place]? := Array.getElem?_modify

/-- Retiring several slots changes their flags. -/
theorem slots_foldl_retireSlot (store : Store) (hits : List Nat) (place : Nat) :
    (hits.foldl retireSlot store).slots[place]? =
      if place ∈ hits then
        store.slots[place]?.map fun slot => { slot with fixed := true, retired := true }
      else store.slots[place]? := by
  induction hits generalizing store with
  | nil => rfl
  | cons hit rest ih =>
    rw [List.foldl_cons, ih, slots_retireSlot]
    by_cases here : hit = place
    · subst here
      rw [if_pos rfl, if_pos List.mem_cons_self, Option.map_map]
      split <;> rfl
    · have same : place ∈ hit :: rest ↔ place ∈ rest := by
        rw [List.mem_cons, or_iff_right fun equal => here equal.symm]
      rw [if_neg here]
      simp only [same]

/-- Retiring a tag changes the flags of the slots that have it. -/
theorem slots_retireTag (store : Store) (tag : Int) (place : Nat) :
    (store.retireTag tag).2.slots[place]? = store.slots[place]?.map (·.retiring tag) := by
  unfold retireTag indicesWhere
  dsimp only
  rw [slots_foldl_retireSlot]
  simp only [List.mem_filter, List.mem_range]
  cases there : store.slots[place]? with
  | none => simp
  | some slot =>
    have inside : place < store.size := (Array.getElem?_eq_some_iff.mp there).1
    simp only [inside, true_and, Option.any_some, Option.map_some, Slot.retiring]
    split <;> rfl

/-- Writing puts the value into the snapshot. -/
theorem snapshot_write (store : Store) (index : Nat) (value : Float) :
    (store.write index value).snapshot = store.snapshot.setIfInBounds index value := by
  refine Array.ext_getElem? fun place => ?_
  unfold snapshot write
  rw [Array.getElem?_map, Array.getElem?_modify, Array.getElem?_setIfInBounds, Array.getElem?_map,
    Array.size_map]
  by_cases same : index = place
  · subst same
    rw [if_pos rfl, if_pos rfl, Option.map_map]
    by_cases inside : index < store.slots.size
    · rw [if_pos inside, Array.getElem?_eq_getElem inside]
      rfl
    · rw [if_neg inside, Array.getElem?_eq_none (Nat.le_of_not_lt inside)]
      rfl
  · rw [if_neg same, if_neg same]

/-- Marking changes no value. -/
@[simp] theorem snapshot_mark (store : Store) (index : Nat) (fixed : Bool) :
    (store.mark index fixed).snapshot = store.snapshot := by
  refine Array.ext_getElem? fun place => ?_
  unfold snapshot mark
  rw [Array.getElem?_map, Array.getElem?_modify, Array.getElem?_map]
  by_cases same : index = place
  · rw [if_pos same, Option.map_map]
    rfl
  · rw [if_neg same]

/-- A snapshot has one value for each slot. -/
@[simp] theorem size_snapshot (store : Store) : store.snapshot.size = store.size := by
  simp [snapshot, size]

/-- A slot is free if it exists and is not fixed. -/
def IsFree (store : Store) (index : Nat) : Prop := store.slots[index]?.any (!·.fixed)

/-- The free slots are listed. -/
theorem isFree_of_mem {index : Nat} {store : Store} (there : index ∈ store.freeIndices) :
    store.IsFree index := (List.mem_filter.mp there).2

/-- Writing leaves every slot as free as it was. -/
theorem isFree_write {store : Store} {place : Nat} (index : Nat) (value : Float)
    (free : store.IsFree place) : (store.write index value).IsFree place := by
  unfold IsFree write at *
  rw [Array.getElem?_modify]
  by_cases same : index = place
  · rw [if_pos same, Option.any_map]
    exact free
  · rw [if_neg same]
    exact free

/-- A free slot is written. -/
theorem writeFree_of_isFree {store : Store} {index : Nat} (free : store.IsFree index)
    (value : Float) : store.writeFree index value = (true, store.write index value) := by
  unfold IsFree at free
  unfold writeFree
  cases there : store.slots[index]? with
  | none =>
    rw [there] at free
    cases free
  | some slot =>
    rw [there] at free
    have movable : slot.fixed = false := by simpa using free
    dsimp only
    rw [movable]
    rfl

/-- Writing to free slots puts the values into the snapshot, in order. -/
theorem snapshot_writeFreeAll {store : Store} {pairs : List (Nat × Float)}
    (free : ∀ pair ∈ pairs, store.IsFree pair.1) :
    (store.writeFreeAll pairs).2.snapshot =
      pairs.foldl (fun vector pair => vector.setIfInBounds pair.1 pair.2) store.snapshot := by
  induction pairs generalizing store with
  | nil => rfl
  | cons pair rest ih =>
    have later : ∀ other ∈ rest, (store.write pair.1 pair.2).IsFree other.1 :=
      fun other there => isFree_write _ _ (free other (List.mem_cons_of_mem _ there))
    have first := writeFree_of_isFree (free pair List.mem_cons_self) pair.2
    rw [List.foldl_cons, ← snapshot_write, ← ih later]
    show (Store.writeFreeAll (store.writeFree pair.1 pair.2).2 rest).2.snapshot = _
    rw [first]

/-- A slot takes a value that is offered to it unless it is fixed. -/
theorem slots_writeFree (store : Store) (index place : Nat) (value : Float) :
    (store.writeFree index value).2.slots[place]? =
      if index = place then store.slots[place]?.map (·.taking value) else store.slots[place]? := by
  unfold writeFree
  cases there : store.slots[index]? with
  | none =>
    by_cases same : index = place
    · rw [if_pos same, ← same, there]
      rfl
    · rw [if_neg same]
  | some slot =>
    by_cases fixed : slot.fixed
    · dsimp only
      rw [if_pos fixed]
      by_cases same : index = place
      · rw [if_pos same, ← same, there, Option.map_some]
        unfold Slot.taking
        rw [if_pos fixed]
      · rw [if_neg same]
    · dsimp only
      rw [if_neg fixed, slots_write]
      by_cases same : index = place
      · rw [if_pos same, if_pos same, ← same, there, Option.map_some, Option.map_some]
        unfold Slot.taking
        rw [if_neg fixed]
      · rw [if_neg same, if_neg same]

/-- The first of some slots is written before the others. -/
theorem writeFreeAll_cons (store : Store) (pair : Nat × Float) (rest : List (Nat × Float)) :
    (store.writeFreeAll (pair :: rest)).2 =
      ((store.writeFree pair.1 pair.2).2.writeFreeAll rest).2 := rfl

/-- Slots to which nothing is offered stay as they are. -/
theorem slots_writeFreeAll_of_absent {store : Store} {pairs : List (Nat × Float)} {place : Nat}
    (absent : place ∉ pairs.map (·.1)) :
    (store.writeFreeAll pairs).2.slots[place]? = store.slots[place]? := by
  induction pairs generalizing store with
  | nil => rfl
  | cons pair rest ih =>
    rw [List.map_cons, List.mem_cons, not_or] at absent
    rw [writeFreeAll_cons, ih absent.2, slots_writeFree, if_neg fun same => absent.1 same.symm]

/-- Slots to which one value is offered take it unless they are fixed. -/
theorem slots_writeFreeAll_of_mem {store : Store} {pairs : List (Nat × Float)} {place : Nat}
    {value : Float} (distinct : (pairs.map (·.1)).Nodup) (there : (place, value) ∈ pairs) :
    (store.writeFreeAll pairs).2.slots[place]? = store.slots[place]?.map (·.taking value) := by
  induction pairs generalizing store with
  | nil => cases there
  | cons pair rest ih =>
    obtain ⟨new, others⟩ := List.nodup_cons.mp distinct
    rcases List.mem_cons.mp there with rfl | later
    · rw [writeFreeAll_cons, slots_writeFreeAll_of_absent new, slots_writeFree, if_pos rfl]
    · have apart : pair.1 ≠ place := fun same =>
        new (List.mem_map.mpr ⟨(place, value), later, same.symm⟩)
      rw [writeFreeAll_cons, ih others later, slots_writeFree, if_neg apart]

end Store

end Drafting
