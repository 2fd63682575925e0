import Drafting.Proofs.Slots
import Drafting.Store.Arena

/-!
# The arena as a store

An arena stands for the store with the slots that its arrays and its set give piece by piece. Every
call is answered by the arena as by that store, and leaves an arena that stands for the store that
the call leaves. Room and what lies behind the last slot never show.
-/

namespace Drafting

/-- The cells of a row are found where they were written, the others as they were. -/
theorem getD_overwrite (cells : Array α) (place : Nat) (row : List α) (index : Nat) (blank : α) :
    (overwrite cells place row).getD index blank =
      if place ≤ index ∧ index < place + row.length ∧ index < cells.size then
        row.getD (index - place) blank
      else cells.getD index blank := by
  induction row generalizing cells place with
  | nil =>
    rw [overwrite, if_neg]
    rintro ⟨behind, before, -⟩
    exact absurd before (by simpa using behind)
  | cons cell rest ih =>
    rw [overwrite, ih, Array.size_setIfInBounds]
    simp only [List.length_cons, Array.getD_eq_getD_getElem?, Array.getElem?_setIfInBounds]
    by_cases first : place = index
    · subst first
      by_cases inside : place < cells.size
      · rw [if_neg (by omega), if_pos rfl, if_pos inside, if_pos (by omega), Nat.sub_self]
        rfl
      · rw [if_neg (by omega), if_pos rfl, if_neg inside, if_neg (by omega),
          Array.getElem?_eq_none (Nat.le_of_not_lt inside)]
    · rw [if_neg first]
      by_cases later : place + 1 ≤ index ∧ index < place + 1 + rest.length ∧ index < cells.size
      · rw [if_pos later, if_pos (by omega),
          show index - place = index - (place + 1) + 1 by omega, List.getD_cons_succ]
      · rw [if_neg later, if_neg (by omega)]

/-- A wider array has the first cells of the given one. -/
theorem getD_widen {cells : Array α} {size room index : Nat} (blank : α) (fits : size ≤ cells.size)
    (wide : size ≤ room) (inside : index < size) :
    (widen cells size room blank).getD index blank = cells.getD index blank := by
  have count : (cells.take size).toList.length = size := by
    simp [Nat.min_eq_left fits]
  have there : index < (Array.replicate room blank).size := by
    rw [Array.size_replicate]
    omega
  rw [widen, getD_overwrite, if_pos ⟨Nat.zero_le _, by omega, there⟩, Nat.sub_zero]
  simp [List.getD_eq_getElem?_getD, inside]

namespace Arena

/-- The slot to which the places at an index belong. -/
def slot (arena : Arena) (index : Nat) : Slot :=
  ⟨arena.value index, arena.flag index, arena.tag index, arena.isRetired index⟩

/-- The store that an arena stands for. -/
def toStore (arena : Arena) (identity : Nat) : Store :=
  ⟨identity, (Array.range arena.size).map arena.slot, arena.generation⟩

variable {arena other : Arena} {identity : Nat}

/-- The store that an arena stands for has as many slots as the arena. -/
@[simp] theorem size_toStore : (arena.toStore identity).size = arena.size := by
  simp [toStore, Store.size]

/-- The slots of the store that an arena stands for. -/
theorem slots_toStore (arena : Arena) (identity index : Nat) :
    (arena.toStore identity).slots[index]? =
      if index < arena.size then some (arena.slot index) else none := by
  by_cases inside : index < arena.size
  · simp [toStore, inside]
  · simp [toStore, inside]

/-- An arena stands for a store that has its slots and its generation. -/
theorem toStore_eq {store : Store} (named : store.identity = identity)
    (aged : store.generation = arena.generation)
    (slots : ∀ index, store.slots[index]? =
      if index < arena.size then some (arena.slot index) else none) :
    arena.toStore identity = store := by
  obtain ⟨identity', slots', generation'⟩ := store
  cases named
  cases aged
  refine congrArg (Store.mk _ · _) (Array.ext_getElem? fun index => ?_)
  exact (slots_toStore arena identity' index).trans (slots index).symm

/-- Arenas whose slots are the same stand for the same store. -/
theorem toStore_congr (size : other.size = arena.size)
    (aged : other.generation = arena.generation)
    (slots : ∀ index, index < arena.size → other.slot index = arena.slot index) :
    other.toStore identity = arena.toStore identity := by
  refine toStore_eq rfl aged.symm fun index => ?_
  rw [slots_toStore, size]
  by_cases inside : index < arena.size
  · rw [if_pos inside, if_pos inside, slots index inside]
  · rw [if_neg inside, if_neg inside]

/-- An arena without slots stands for a store without slots, whatever room it has. -/
theorem toStore_blank (room generation identity : Nat) (positive : 0 < room) :
    (blank room generation positive).toStore identity = ⟨identity, #[], generation⟩ :=
  toStore_eq rfl rfl fun index => (if_neg (Nat.not_lt_zero index)).symm

/-! ## Room -/

/-- Making room loses and reorders nothing. -/
theorem slot_grow (needed : Nat) {index : Nat} (inside : index < arena.size) :
    (arena.grow needed).slot index = arena.slot index := by
  unfold grow
  split
  · rfl
  · have wide := Nat.le_trans arena.size_le (roomFor_ge needed arena.room arena.room_pos).2
    unfold slot value flag tag isRetired
    dsimp only
    rw [getD_widen _ arena.size_le wide inside,
      getD_widen _ (arena.size_flags ▸ arena.size_le) wide inside,
      getD_widen _ (arena.size_tags ▸ arena.size_le) wide inside]

/-- Making room does not step the generation. -/
@[simp] theorem generation_grow (needed : Nat) :
    (arena.grow needed).generation = arena.generation := by
  unfold grow
  split <;> rfl

/-- Making room retires nothing. -/
@[simp] theorem retired_grow (needed : Nat) : (arena.grow needed).retired = arena.retired := by
  unfold grow
  split <;> rfl

/-- Making room keeps the store that the arena stands for. -/
@[simp] theorem toStore_grow (needed : Nat) :
    (arena.grow needed).toStore identity = arena.toStore identity :=
  toStore_congr (size_grow arena needed) (generation_grow needed) fun _ => slot_grow needed

/-- A slot that is not there yet is not retired. -/
theorem not_isRetired {index : Nat} (beyond : arena.size ≤ index) :
    arena.isRetired index = false := by
  unfold isRetired
  rw [List.contains_eq_any_beq, List.any_eq_false]
  intro retired there same
  have inside := arena.retired_lt retired there
  have : index = retired := by simpa using same
  omega

/-! ## Appending -/

/-- Before the place from which on a row is written, cells are as they were. -/
theorem getD_overwrite_before {cells : Array α} {place index : Nat} (row : List α) (blank : α)
    (before : index < place) :
    (overwrite cells place row).getD index blank = cells.getD index blank := by
  rw [getD_overwrite, if_neg fun both => absurd both.1 (Nat.not_le.mpr before)]

/-- A row for which there is room is found where it was written. -/
theorem getD_overwrite_row {cells : Array α} {place offset : Nat} {row : List α} (blank : α)
    (room : place + row.length ≤ cells.size) (inside : offset < row.length) :
    (overwrite cells place row).getD (place + offset) blank = row[offset] := by
  rw [getD_overwrite, if_pos ⟨Nat.le_add_right .., by omega, by omega⟩, Nat.add_sub_cancel_left]
  simp [List.getD_eq_getElem?_getD, inside]

/-- Values that are written behind the last slot do not show. -/
theorem toStore_writeValues (arena : Arena) (identity : Nat) {place : Nat}
    (behind : arena.size ≤ place) (xs : List Float) :
    (arena.writeValues place xs).toStore identity = arena.toStore identity :=
  toStore_congr rfl rfl fun index inside => by
    unfold slot value writeValues
    rw [getD_overwrite_before xs _ (by omega)]
    rfl

/-- Flags that are written behind the last slot do not show. -/
theorem toStore_writeFlags (arena : Arena) (identity : Nat) {place : Nat}
    (behind : arena.size ≤ place) (flags : List Bool) :
    (arena.writeFlags place flags).toStore identity = arena.toStore identity :=
  toStore_congr rfl rfl fun index inside => by
    unfold slot flag writeFlags
    rw [getD_overwrite_before flags _ (by omega)]
    rfl

/-- Tags that are written behind the last slot do not show. -/
theorem toStore_writeTags (arena : Arena) (identity : Nat) {place : Nat}
    (behind : arena.size ≤ place) (tags : List Int) :
    (arena.writeTags place tags).toStore identity = arena.toStore identity :=
  toStore_congr rfl rfl fun index inside => by
    unfold slot tag writeTags
    rw [getD_overwrite_before tags _ (by omega)]
    rfl

/-- What is written behind the last slot shows once it counts. -/
theorem toStore_lengthen {xs : List Float} {b : Bool} {t : Int}
    (fits : arena.size + xs.length ≤ arena.room)
    (written : ∀ offset, (inside : offset < xs.length) →
      arena.slot (arena.size + offset) = ⟨xs[offset], b, t, false⟩) :
    (arena.lengthen xs.length fits).toStore identity =
      ((arena.toStore identity).append xs b t).2 := by
  refine toStore_eq rfl rfl fun index => ?_
  have old : (arena.toStore identity).slots.size = arena.size := size_toStore
  show ((arena.toStore identity).slots ++ _)[index]? =
    if index < arena.size + xs.length then some (arena.slot index) else none
  by_cases before : index < arena.size
  · rw [Array.getElem?_append_left (by omega), slots_toStore, if_pos before, if_pos (by omega)]
  · obtain ⟨offset, rfl⟩ := Nat.exists_eq_add_of_le (Nat.le_of_not_lt before)
    rw [Array.getElem?_append_right (by omega), old, Nat.add_sub_cancel_left]
    by_cases new : offset < xs.length
    · rw [if_pos (by omega), written offset new]
      simp [new]
    · rw [if_neg (by omega), Array.getElem?_eq_none]
      simpa using new

/-- Appending is refused for the flag or for the tag, and then the slots are as before, or the
slots are appended. -/
theorem append_toStore (arena : Arena) (identity : Nat) (xs : List Float) (fixed tag : Value) :
    (∃ fault, (∀ (α : Type) (next : Bool → Int → Except Fault α),
          (do next (← fixed.truth) (← Store.storedTag tag)) = .error fault) ∧
        (arena.append xs fixed tag).1 = .error fault ∧
        (arena.append xs fixed tag).2.toStore identity = arena.toStore identity) ∨
      ∃ b t, fixed.truth = .ok b ∧ Store.storedTag tag = .ok t ∧
        (arena.append xs fixed tag).1 = .ok (.range' arena.size xs.length) ∧
        (arena.append xs fixed tag).2.toStore identity =
          ((arena.toStore identity).append xs b t).2 := by
  let grown := arena.grow (arena.size + xs.length)
  have behind : grown.size ≤ arena.size := Nat.le_of_eq (size_grow ..)
  have valued : (grown.writeValues arena.size xs).toStore identity = arena.toStore identity :=
    (toStore_writeValues grown identity behind xs).trans (toStore_grow _)
  unfold append
  cases flagRead : fixed.truth with
  | error fault => exact .inl ⟨fault, fun _ _ => rfl, rfl, valued⟩
  | ok b =>
    have flagged := (toStore_writeFlags (grown.writeValues arena.size xs) identity behind
      (.replicate xs.length b)).trans valued
    cases tagRead : Store.storedTag tag with
    | error fault => exact .inl ⟨fault, fun _ _ => rfl, rfl, flagged⟩
    | ok t =>
      refine .inr ⟨b, t, rfl, rfl, rfl,
        .trans (toStore_lengthen (b := b) (t := t) _ fun offset inside => ?_) ?_⟩
      · -- Each of the three arrays has room for the row that was written into it.
        have room : arena.size + xs.length ≤ grown.values.size := le_room_grow arena _
        have roomFlags : arena.size + xs.length ≤ grown.flags.size := grown.size_flags ▸ room
        have roomTags : arena.size + xs.length ≤ grown.tags.size := grown.size_tags ▸ room
        have start : grown.size + offset = arena.size + offset :=
          congrArg (· + offset) (size_grow ..)
        have fresh : grown.isRetired (arena.size + offset) = false :=
          not_isRetired (by rw [← start]; exact Nat.le_add_right ..)
        show Slot.mk ((overwrite grown.values arena.size xs).getD (grown.size + offset) _)
          ((overwrite grown.flags arena.size (.replicate xs.length b)).getD (grown.size + offset) _)
          ((overwrite grown.tags arena.size (.replicate xs.length t)).getD (grown.size + offset) _)
          (grown.isRetired (grown.size + offset)) = _
        rw [start, getD_overwrite_row _ room inside, fresh,
          getD_overwrite_row _ (by rwa [List.length_replicate]) (by rwa [List.length_replicate]),
          getD_overwrite_row _ (by rwa [List.length_replicate]) (by rwa [List.length_replicate]),
          List.getElem_replicate, List.getElem_replicate]
      · exact congrArg (fun store => (Store.append store xs b t).2)
          ((toStore_writeTags ((grown.writeValues arena.size xs).writeFlags arena.size _) identity
            behind _).trans flagged)

/-! ## Looking up and overwriting -/

/-- An index is checked alike. -/
@[simp] theorem check_toStore (arena : Arena) (identity : Nat) (index : Value) :
    (arena.toStore identity).check index = arena.check index := by
  unfold Store.check check
  cases index with
  | int n =>
    unfold Store.checkIndex
    rw [size_toStore]
    dsimp only
    by_cases inside : 0 ≤ n ∧ n < arena.size
    · rw [if_pos inside, if_neg (by omega)]
    · rw [if_neg inside, if_pos (by omega)]
  | _ => rfl

/-- An index that is checked is one of a slot. -/
theorem lt_size_of_check {index : Value} {place : Nat} (checked : arena.check index = .ok place) :
    place < arena.size ∧ index = .int place := by
  unfold check at checked
  split at checked
  · rename_i n
    split at checked
    · cases checked
    · cases checked
      exact ⟨by omega, congrArg Value.int (by omega)⟩
  · cases checked

/-- The slot at an index is looked up alike. -/
theorem slotOf_toStore (arena : Arena) (identity : Nat) (index : Value) :
    (arena.toStore identity).slotOf index = (arena.check index).map arena.slot := by
  unfold Store.slotOf
  rw [check_toStore]
  cases checked : arena.check index with
  | error fault => rfl
  | ok place =>
    show (arena.toStore identity).slotAt place = .ok (arena.slot place)
    unfold Store.slotAt
    rw [Int.toNat_natCast, slots_toStore, if_pos (lt_size_of_check checked).1]
    exact if_pos (Int.natCast_nonneg place)

/-- What a slot is asked for is answered alike. -/
theorem slotOf_map_toStore (arena : Arena) (identity : Nat) (index : Value)
    (answer : Slot → StoreAnswer) :
    ((arena.toStore identity).slotOf index).map answer =
      (arena.check index).map fun place => answer (arena.slot place) := by
  rw [slotOf_toStore]
  cases arena.check index <;> rfl

/-- Slots are selected alike. -/
theorem indicesWhere_toStore (arena : Arena) (identity : Nat) (condition : Slot → Bool) :
    (arena.toStore identity).indicesWhere condition =
      arena.indicesWhere fun index => condition (arena.slot index) := by
  unfold Store.indicesWhere indicesWhere
  rw [size_toStore]
  refine List.filter_congr fun index there => ?_
  rw [slots_toStore, if_pos (List.mem_range.mp there)]
  rfl

/-- The free slots are listed alike. -/
@[simp] theorem freeIndices_toStore (arena : Arena) (identity : Nat) :
    (arena.toStore identity).freeIndices = arena.freeIndices :=
  indicesWhere_toStore ..

/-- A snapshot is the same. -/
@[simp] theorem snapshot_toStore (arena : Arena) (identity : Nat) :
    (arena.toStore identity).snapshot.toList = arena.snapshot := by
  refine List.ext_getElem? fun index => ?_
  unfold Store.snapshot snapshot
  rw [Array.getElem?_toList, Array.getElem?_map, slots_toStore, Array.getElem?_toList,
    Array.take, Array.getElem?_extract]
  by_cases inside : index < arena.size
  · have there : index < arena.values.size := Nat.lt_of_lt_of_le inside arena.size_le
    rw [if_pos inside]
    rw [if_pos (by omega), Nat.zero_add, Array.getElem?_eq_getElem there]
    simp [slot, value, there]
  · rw [if_neg inside, if_neg (by omega)]
    rfl

/-- The line about the store is the same. -/
@[simp] theorem text_toStore (arena : Arena) (identity : Nat) :
    (arena.toStore identity).text = arena.text := by
  unfold Store.text text
  rw [size_toStore, freeIndices_toStore]

/-- One cell that is overwritten. -/
theorem getD_overwrite_cell {cells : Array α} {place : Nat} (index : Nat) (cell blank : α)
    (inside : place < cells.size) :
    (overwrite cells place [cell]).getD index blank =
      if place = index then cell else cells.getD index blank := by
  rw [getD_overwrite]
  by_cases here : place = index
  · subst here
    rw [if_pos ⟨Nat.le_refl _, by simp, inside⟩, if_pos rfl, Nat.sub_self]
    rfl
  · rw [if_neg (by simp only [List.length_singleton]; omega), if_neg here]

/-- A value that is written to a slot shows. -/
theorem toStore_writeValue (arena : Arena) (identity : Nat) {place : Nat}
    (inside : place < arena.size) (x : Float) :
    (arena.writeValues place [x]).toStore identity = (arena.toStore identity).write place x := by
  refine toStore_eq rfl rfl fun index => ?_
  have room := Nat.lt_of_lt_of_le inside arena.size_le
  rw [Store.slots_write, slots_toStore]
  show _ = if index < arena.size then
    some (Slot.mk ((overwrite arena.values place [x]).getD index 0.0)
    (arena.flag index) (arena.tag index) (arena.isRetired index)) else none
  rw [getD_overwrite_cell _ _ _ room]
  split
  · split <;> rfl
  · rfl

/-- A flag that is written to a slot shows. -/
theorem toStore_writeFlag (arena : Arena) (identity : Nat) {place : Nat}
    (inside : place < arena.size) (b : Bool) :
    (arena.writeFlags place [b]).toStore identity = (arena.toStore identity).mark place b := by
  refine toStore_eq rfl rfl fun index => ?_
  have room := Nat.lt_of_lt_of_le inside (arena.size_flags ▸ arena.size_le)
  rw [Store.slots_mark, slots_toStore]
  show _ = if index < arena.size then some (Slot.mk (arena.value index)
    ((overwrite arena.flags place [b]).getD index false) (arena.tag index)
    (arena.isRetired index)) else none
  rw [getD_overwrite_cell _ _ _ room]
  split
  · split <;> rfl
  · rfl

/-- A slot that is retired shows. -/
theorem toStore_retireSlot {place : Nat} (inside : place < arena.size) :
    (arena.retireSlot place).toStore identity = (arena.toStore identity).retireSlot place := by
  unfold retireSlot
  rw [dif_pos inside]
  refine toStore_eq rfl rfl fun index => ?_
  have room := Nat.lt_of_lt_of_le inside (arena.size_flags ▸ arena.size_le)
  rw [Store.slots_retireSlot, slots_toStore]
  show _ = if index < arena.size then some (Slot.mk (arena.value index)
    ((overwrite arena.flags place [true]).getD index false) (arena.tag index)
    ((place :: arena.retired).contains index)) else none
  rw [getD_overwrite_cell _ _ _ room, List.contains_cons]
  by_cases here : place = index
  · subst here
    simp only [if_true, BEq.rfl, Bool.true_or]
    split <;> rfl
  · have apart : (index == place) = false := by simpa using fun same => here same.symm
    rw [if_neg here, if_neg here, apart, Bool.false_or]
    rfl

/-! ## Calls -/

/-- The free slots among some are overwritten alike. -/
theorem writeFreeAll_toStore (arena : Arena) (identity : Nat) {pairs : List (Nat × Float)}
    (inside : ∀ pair ∈ pairs, pair.1 < arena.size) :
    (arena.toStore identity).writeFreeAll pairs =
      ((arena.writeFreeAll pairs).1, (arena.writeFreeAll pairs).2.toStore identity) := by
  induction pairs generalizing arena with
  | nil => rfl
  | cons pair rest ih =>
    obtain ⟨place, x⟩ := pair
    have here : place < arena.size := inside _ List.mem_cons_self
    have others : ∀ pair ∈ rest, pair.1 < arena.size :=
      fun pair there => inside pair (List.mem_cons_of_mem _ there)
    unfold Store.writeFreeAll writeFreeAll Store.writeFree
    rw [slots_toStore, if_pos here]
    dsimp only [slot]
    by_cases fixed : arena.flag place
    · rw [if_pos fixed, if_pos fixed]
      dsimp only
      rw [ih arena others]
      rfl
    · rw [if_neg fixed, if_neg fixed]
      dsimp only
      rw [← toStore_writeValue arena identity here, ih (arena.writeValues place [x]) others]
      rfl

/-- An answer of the arena, with the store that it stands for afterwards. -/
def seen (identity : Nat) (result : α × Arena) : α × Store :=
  (result.1, result.2.toStore identity)

/-- Slots are set alike. -/
theorem set_toStore (arena : Arena) (identity : Nat) (index value fixed : Value) :
    (arena.toStore identity).set index value fixed =
      seen identity (arena.set index value fixed) := by
  unfold Store.set Store.setValue set
  rw [check_toStore]
  cases checked : arena.check index with
  | error fault => rfl
  | ok place =>
    cases finite : Store.finiteReal value with
    | error fault => rfl
    | ok x =>
      have inside := (lt_size_of_check checked).1
      have written := arena.toStore_writeValue identity inside x
      cases truth : fixed.truth with
      | error fault =>
        show (_, (arena.toStore identity).write place x) = _
        rw [← written]
        rfl
      | ok b =>
        show (_, ((arena.toStore identity).write place x).mark place b) = _
        rw [← written, ← (arena.writeValues place [x]).toStore_writeFlag identity inside]
        rfl

/-- Slots that are there take numbers alike. -/
theorem assign_toStore (arena : Arena) (identity : Nat) {places : List Nat}
    (inside : ∀ place ∈ places, place < arena.size) (values : List Float) :
    (arena.toStore identity).assign places values = (do
      Store.checkRow places values.length values
      return seen identity (arena.writeFreeAll (places.zip values))) := by
  unfold Store.assign
  rw [writeFreeAll_toStore arena identity fun pair there =>
    inside pair.1 (List.of_mem_zip there).1]
  rfl

/-- Slots that are there refuse whole rows alike. -/
theorem assignRows_toStore (arena : Arena) (identity : Nat) {places : List Nat}
    (inside : ∀ place ∈ places, place < arena.size) (count : Nat) (values : List Float) :
    (arena.toStore identity).assignRows places count values = (do
      Store.checkRow places count values
      if places.all arena.flag then return (0, arena.toStore identity)
      else arithmeticFault .rowInSlot) := by
  unfold Store.assignRows
  have free : (places.any fun place => (arena.toStore identity).slots[place]?.any (!·.fixed)) =
      !places.all arena.flag := by
    rw [List.not_all_eq_any_not, Bool.eq_iff_iff, List.any_eq_true, List.any_eq_true]
    refine exists_congr fun place => and_congr_right fun there => ?_
    rw [slots_toStore, if_pos (inside place there)]
    rfl
  rw [free]
  cases places.all arena.flag <;> rfl

/-- Slots are updated alike. -/
theorem update_toStore (arena : Arena) (identity : Nat) (indices values : Value) :
    (arena.toStore identity).update indices values =
      (arena.update indices values).map (seen identity) := by
  have same : (arena.toStore identity).check = arena.check := funext (check_toStore arena identity)
  unfold Store.update update
  rw [same]
  cases indices.toItems with
  | error fault => rfl
  | ok items =>
    rw [ok_bind, ok_bind]
    cases checked : items.mapM arena.check with
    | error fault => rfl
    | ok places =>
      have inside : ∀ place ∈ places, place < arena.size := fun place there => by
        obtain ⟨_, -, stepped⟩ := mem_of_mapM checked there
        exact (lt_size_of_check stepped).1
      rw [ok_bind, ok_bind]
      cases values.toItems with
      | error fault => rfl
      | ok values =>
        rw [ok_bind, ok_bind]
        cases (Value.list values).toArray with
        | error fault => rfl
        | ok array =>
          obtain ⟨_ | ⟨count, _ | ⟨width, inner⟩⟩, numbers⟩ := array
          · rw [ok_bind, ok_bind]
            dsimp only
            rw [assign_toStore arena identity inside]
            cases Store.checkRow places numbers.length numbers <;> rfl
          · rw [ok_bind, ok_bind]
            dsimp only
            rw [assign_toStore arena identity inside]
            cases Store.checkRow places numbers.length numbers <;> rfl
          · rw [ok_bind, ok_bind]
            dsimp only
            rw [assignRows_toStore arena identity inside]
            cases Store.checkRow places count numbers with
            | error fault => rfl
            | ok _ =>
              rw [ok_bind, ok_bind]
              split <;> rfl

/-- Retiring slots keeps the count of slots. -/
@[simp] theorem size_retireSlot (arena : Arena) (index : Nat) :
    (arena.retireSlot index).size = arena.size := by
  unfold retireSlot
  split <;> rfl

/-- Slots that are there are retired alike, one after the other. -/
theorem foldl_retireSlot_toStore (arena : Arena) (identity : Nat) {places : List Nat}
    (inside : ∀ place ∈ places, place < arena.size) :
    places.foldl Store.retireSlot (arena.toStore identity) =
      (places.foldl retireSlot arena).toStore identity := by
  induction places generalizing arena with
  | nil => rfl
  | cons place rest ih =>
    rw [List.foldl_cons, List.foldl_cons, ← toStore_retireSlot (inside place List.mem_cons_self)]
    refine ih _ fun other there => ?_
    rw [size_retireSlot]
    exact inside other (List.mem_cons_of_mem _ there)

/-- Slots are retired alike. -/
theorem retire_toStore (arena : Arena) (identity : Nat) (tag : Value) :
    (arena.toStore identity).retire tag = (arena.retire tag).map (seen identity) := by
  unfold Store.retire retire
  cases tag.toInteger with
  | error fault => rfl
  | ok t =>
    rw [ok_bind, ok_bind]
    unfold Store.retireTag
    dsimp only
    rw [indicesWhere_toStore, foldl_retireSlot_toStore]
    · rfl
    · exact fun place there => List.mem_range.mp (List.mem_of_mem_filter there)

/-- A slot is pushed alike. -/
theorem perform_push (arena : Arena) (identity : Nat) (value fixed tag : Value) :
    (arena.toStore identity).perform (.push value fixed tag) =
      seen identity (arena.perform (.push value fixed tag)) := by
  show settle _ _ ((arena.toStore identity).push value fixed tag) =
    (((arena.push value fixed tag).1.map _), (arena.push value fixed tag).2.toStore identity)
  unfold Store.push push
  cases Store.finiteReal value with
  | error fault => rfl
  | ok x =>
    rw [ok_bind]
    dsimp only
    rcases append_toStore arena identity [x] fixed tag with
      ⟨fault, refused, answered, kept⟩ | ⟨b, t, flagRead, tagRead, answered, grown⟩
    · rw [refused, answered, kept]
      rfl
    · rw [flagRead, tagRead, answered, grown]
      exact congrArg (fun size => (Except.ok (StoreAnswer.count size), _)) size_toStore

/-- A block of slots is pushed alike. -/
theorem perform_pushAll (arena : Arena) (identity : Nat) (values fixed tag : Value) :
    (arena.toStore identity).perform (.pushAll values fixed tag) =
      seen identity (arena.perform (.pushAll values fixed tag)) := by
  show settle _ _ (do (arena.toStore identity).pushAll (← values.toItems) fixed tag) =
    (((arena.pushAll values fixed tag).1.map _),
      (arena.pushAll values fixed tag).2.toStore identity)
  unfold Store.pushAll pushAll
  cases values.toItems with
  | error fault => rfl
  | ok items =>
    rw [ok_bind, ok_bind]
    cases items.mapM Store.finiteReal with
    | error fault => rfl
    | ok xs =>
      rw [ok_bind]
      dsimp only
      rcases append_toStore arena identity xs fixed tag with
        ⟨fault, refused, answered, kept⟩ | ⟨b, t, flagRead, tagRead, answered, grown⟩
      · rw [refused, answered, kept]
        rfl
      · rw [flagRead, tagRead, answered, grown]
        exact congrArg (fun size => (Except.ok (StoreAnswer.indices (.range' size xs.length)), _))
          size_toStore

/-- A call is answered by the arena as by the store that it stands for, and leaves it standing for
the store that the call leaves. -/
theorem perform_toStore (arena : Arena) (identity : Nat) (call : StoreCall) :
    (arena.toStore identity).perform call = seen identity (arena.perform call) := by
  cases call with
  | push value fixed tag => exact perform_push ..
  | pushAll values fixed tag => exact perform_pushAll ..
  | set index value fixed =>
    show (Except.map _ ((arena.toStore identity).set index value fixed).1,
      ((arena.toStore identity).set index value fixed).2) = _
    rw [set_toStore]
    rfl
  | update indices values =>
    show settle _ _ ((arena.toStore identity).update indices values) =
      seen identity (settle _ _ (arena.update indices values))
    rw [update_toStore]
    cases arena.update indices values <;> rfl
  | retire tag =>
    show settle _ _ ((arena.toStore identity).retire tag) =
      seen identity (settle _ _ (arena.retire tag))
    rw [retire_toStore]
    cases arena.retire tag <;> rfl
  | clear =>
    exact congrArg (Except.ok StoreAnswer.done, ·) (toStore_blank 16 _ identity (by decide)).symm
  | get index => exact congrArg (·, _) (slotOf_map_toStore arena identity index (.number ·.value))
  | isFixed index => exact congrArg (·, _) (slotOf_map_toStore arena identity index (.flag ·.fixed))
  | tagOf index => exact congrArg (·, _) (slotOf_map_toStore arena identity index (.tag ·.tag))
  | isRetired index =>
    exact congrArg (·, _) (slotOf_map_toStore arena identity index (.flag ·.retired))
  | check index => exact congrArg (Except.map _ ·, _) (check_toStore ..)
  | size => exact congrArg (fun count => (Except.ok (StoreAnswer.count count), _)) size_toStore
  | snapshot =>
    exact congrArg (fun xs => (Except.ok (StoreAnswer.numbers xs), _)) (snapshot_toStore ..)
  | freeIndices =>
    exact congrArg (fun places => (Except.ok (StoreAnswer.indices places), _))
      (freeIndices_toStore ..)
  | generation => rfl
  | text => exact congrArg (fun line => (Except.ok (StoreAnswer.text line), _)) (text_toStore ..)

/-- A new arena stands for an empty store, whatever room is asked for. -/
theorem toStore_withRoom (room : Int) (identity : Nat) :
    (withRoom room).toStore identity = Store.empty identity := toStore_blank ..

/-- Calls one after the other are answered by the arena as by the store that it stands for. -/
theorem performAll_toStore (arena : Arena) (identity : Nat) (calls : List StoreCall) :
    performAll Store.perform (arena.toStore identity) calls =
      seen identity (performAll perform arena calls) := by
  induction calls generalizing arena with
  | nil => rfl
  | cons call rest ih =>
    rw [performAll, perform_toStore]
    show (_ :: (performAll Store.perform ((arena.perform call).2.toStore identity) rest).1, _) = _
    rw [ih]
    rfl

end Arena

end Drafting
