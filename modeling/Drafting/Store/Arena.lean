import Drafting.Store.Call

/-!
# The arena behind a store

The slots of a store lie in three arrays side by side, one for the values, one for the flags and
one for the tags, and in the set of the indices that are retired. The arrays have room for more
slots than there are. When the room does not suffice it is doubled until it does, and only what
belongs to slots is copied.

A slot is written behind the last one before it counts: the value first, then the flag, then the
tag. What is written for a slot that is refused in the end stays there until it is overwritten.
-/

namespace Drafting

/-- Three arrays of the same length, of which the first places belong to slots. -/
structure Arena where
  values : Array Float
  flags : Array Bool
  tags : Array Int
  retired : List Nat
  size : Nat
  generation : Nat
  size_flags : flags.size = values.size
  size_tags : tags.size = values.size
  size_le : size ≤ values.size
  room_pos : 0 < values.size
  retired_lt : ∀ index ∈ retired, index < size

/-- Write a row into an array from a place on. -/
def overwrite (cells : Array α) (place : Nat) : List α → Array α
  | [] => cells
  | cell :: rest => overwrite (cells.setIfInBounds place cell) (place + 1) rest

/-- Overwriting keeps the length of an array. -/
@[simp] theorem size_overwrite (cells : Array α) (place : Nat) (row : List α) :
    (overwrite cells place row).size = cells.size := by
  induction row generalizing cells place with
  | nil => rfl
  | cons cell rest ih => rw [overwrite, ih, Array.size_setIfInBounds]

/-- A longer array that begins with the first cells of a given one. -/
def widen (cells : Array α) (size room : Nat) (blank : α) : Array α :=
  overwrite (.replicate room blank) 0 (cells.take size).toList

/-- A wider array has the room that was asked for. -/
@[simp] theorem size_widen (cells : Array α) (size room : Nat) (blank : α) :
    (widen cells size room blank).size = room := by
  rw [widen, size_overwrite, Array.size_replicate]

/-- The room, doubled until it suffices. -/
def roomFor (needed room : Nat) (positive : 0 < room) : Nat :=
  if room < needed then roomFor needed (room * 2) (by omega) else room
termination_by needed - room

/-- The doubled room suffices and is not smaller than before. -/
theorem roomFor_ge (needed room : Nat) (positive : 0 < room) :
    needed ≤ roomFor needed room positive ∧ room ≤ roomFor needed room positive := by
  fun_induction roomFor needed room positive with
  | case1 room positive short ih => exact ⟨ih.1, by omega⟩
  | case2 room positive enough => exact ⟨by omega, by omega⟩

namespace Arena

/-- How many slots there can be before the arena grows. -/
def room (arena : Arena) : Nat := arena.values.size

/-- An arena without slots. -/
def blank (room generation : Nat) (positive : 0 < room) : Arena where
  values := .replicate room 0.0
  flags := .replicate room false
  tags := .replicate room 0
  retired := []
  size := 0
  generation := generation
  size_flags := by simp
  size_tags := by simp
  size_le := Nat.zero_le _
  room_pos := by simpa using positive
  retired_lt := by simp

/-- An arena without slots, with the room that is asked for but at least that for one slot. -/
def withRoom (room : Int) : Arena := blank (max room 1).toNat 0 (by omega)

/-- Make room for as many slots as are needed. -/
def grow (arena : Arena) (needed : Nat) : Arena :=
  if needed ≤ arena.room then arena
  else
    let room := roomFor needed arena.room arena.room_pos
    { arena with
      values := widen arena.values arena.size room 0.0
      flags := widen arena.flags arena.size room false
      tags := widen arena.tags arena.size room 0
      size_flags := by simp
      size_tags := by simp
      size_le := by
        rw [size_widen]
        exact Nat.le_trans arena.size_le (roomFor_ge needed arena.room arena.room_pos).2
      room_pos := by
        rw [size_widen]
        exact Nat.lt_of_lt_of_le arena.room_pos (roomFor_ge needed arena.room arena.room_pos).2 }

/-- Write values from a place on. -/
def writeValues (arena : Arena) (place : Nat) (xs : List Float) : Arena :=
  { arena with
    values := overwrite arena.values place xs
    size_flags := by rw [size_overwrite, arena.size_flags]
    size_tags := by rw [size_overwrite, arena.size_tags]
    size_le := by rw [size_overwrite]; exact arena.size_le
    room_pos := by rw [size_overwrite]; exact arena.room_pos }

/-- Write flags from a place on. -/
def writeFlags (arena : Arena) (place : Nat) (flags : List Bool) : Arena :=
  { arena with
    flags := overwrite arena.flags place flags
    size_flags := by rw [size_overwrite, arena.size_flags] }

/-- Write tags from a place on. -/
def writeTags (arena : Arena) (place : Nat) (tags : List Int) : Arena :=
  { arena with
    tags := overwrite arena.tags place tags
    size_tags := by rw [size_overwrite, arena.size_tags] }

/-- Count more slots, for which there is room. -/
def lengthen (arena : Arena) (count : Nat) (fits : arena.size + count ≤ arena.room) : Arena :=
  { arena with
    size := arena.size + count
    size_le := fits
    retired_lt := fun index there =>
      Nat.lt_of_lt_of_le (arena.retired_lt index there) (Nat.le_add_right ..) }

/-- The arena has the room that was needed. -/
theorem le_room_grow (arena : Arena) (needed : Nat) : needed ≤ (arena.grow needed).room := by
  unfold grow
  split
  · assumption
  · show _ ≤ Array.size _
    rw [size_widen]
    exact (roomFor_ge needed arena.room arena.room_pos).1

/-- Making room changes no count of slots. -/
@[simp] theorem size_grow (arena : Arena) (needed : Nat) :
    (arena.grow needed).size = arena.size := by
  unfold grow
  split <;> rfl

/-- Append a slot for each value; the indices of the new slots. The values are written first, and
stay behind the last slot if the flag or the tag is refused. -/
def append (arena : Arena) (xs : List Float) (fixed tag : Value) :
    Except Fault (List Nat) × Arena :=
  let start := arena.size
  let valued := (arena.grow (start + xs.length)).writeValues start xs
  match fixed.truth with
  | .error fault => (.error fault, valued)
  | .ok fixed =>
    let flagged := valued.writeFlags start (.replicate xs.length fixed)
    match Store.storedTag tag with
    | .error fault => (.error fault, flagged)
    | .ok tag =>
      let tagged := flagged.writeTags start (.replicate xs.length tag)
      have fits : tagged.size + xs.length ≤ tagged.room :=
        calc (arena.grow (start + xs.length)).size + xs.length
            = start + xs.length := by rw [size_grow]
          _ ≤ (arena.grow (start + xs.length)).room := le_room_grow arena _
          _ = tagged.room := (size_overwrite ..).symm
      (.ok (.range' start xs.length), tagged.lengthen xs.length fits)

/-- Append one slot; its index. -/
def push (arena : Arena) (value fixed tag : Value) : Except Fault Nat × Arena :=
  match Store.finiteReal value with
  | .error fault => (.error fault, arena)
  | .ok x =>
    let (result, grown) := arena.append [x] fixed tag
    (result.map fun _ => arena.size, grown)

/-- Append a block of slots once all its values are known to be finite; their indices. -/
def pushAll (arena : Arena) (values fixed tag : Value) : Except Fault (List Nat) × Arena :=
  match values.toItems >>= (·.mapM Store.finiteReal) with
  | .error fault => (.error fault, arena)
  | .ok xs => arena.append xs fixed tag

/-- Drop all slots, and the room for more of them than a new store has. -/
def clear (arena : Arena) : Arena := blank 16 (arena.generation + 1) (by decide)

/-- The index of a slot: an integer, but no truth value. -/
def check (arena : Arena) (index : Value) : Except Fault Nat :=
  match index with
  | .int n =>
    if n < 0 ∨ n ≥ arena.size then .error (.slotOutOfRange n arena.size) else .ok n.toNat
  | value => .error (.slotNotInteger value)

/-- The value of a slot. -/
def value (arena : Arena) (index : Nat) : Float := arena.values.getD index 0.0

/-- The flag of a slot. -/
def flag (arena : Arena) (index : Nat) : Bool := arena.flags.getD index false

/-- The tag of a slot. -/
def tag (arena : Arena) (index : Nat) : Int := arena.tags.getD index 0

/-- Whether a slot is retired. -/
def isRetired (arena : Arena) (index : Nat) : Bool := arena.retired.contains index

/-- The indices of the slots that satisfy a condition, in ascending order. -/
def indicesWhere (arena : Arena) (condition : Nat → Bool) : List Nat :=
  (List.range arena.size).filter condition

/-- The values of all slots. -/
def snapshot (arena : Arena) : List Float := (arena.values.take arena.size).toList

/-- The indices of the slots that are not fixed. -/
def freeIndices (arena : Arena) : List Nat := arena.indicesWhere fun index => !arena.flag index

/-- Overwrite the value and then the flag of the slot at an index. -/
def set (arena : Arena) (index value fixed : Value) : Except Fault Unit × Arena :=
  match (do return (← arena.check index, ← Store.finiteReal value)) with
  | .error fault => (.error fault, arena)
  | .ok (index, x) =>
    let valued := arena.writeValues index [x]
    match fixed.truth with
    | .error fault => (.error fault, valued)
    | .ok fixed => (.ok (), valued.writeFlags index [fixed])

/-- Overwrite the free slots among some, in order; how many were overwritten. -/
def writeFreeAll (arena : Arena) : List (Nat × Float) → Nat × Arena
  | [] => (0, arena)
  | (index, x) :: rest =>
    if arena.flag index then arena.writeFreeAll rest
    else
      let (count, arena) := (arena.writeValues index [x]).writeFreeAll rest
      (count + 1, arena)

/-- Overwrite the free slots among some, or refuse to before any is written: no free slot takes a
whole row of numbers. -/
def update (arena : Arena) (indices values : Value) : Except Fault (Nat × Arena) := do
  let indices ← (← indices.toItems).mapM arena.check
  match ← (Value.list (← values.toItems)).toArray with
  | (count :: _ :: _, values) =>
    Store.checkRow indices count values
    if indices.all arena.flag then .ok (0, arena) else arithmeticFault .rowInSlot
  | (_, values) =>
    Store.checkRow indices values.length values
    .ok (arena.writeFreeAll (indices.zip values))

/-- Hold a slot fixed and mark it retired. -/
def retireSlot (arena : Arena) (index : Nat) : Arena :=
  if inside : index < arena.size then
    { arena.writeFlags index [true] with
      retired := index :: arena.retired
      retired_lt := fun other there => (List.mem_cons.mp there).elim (· ▸ inside)
        (arena.retired_lt other) }
  else arena

/-- Retire the slots allocated with a tag that are not retired yet; their indices. -/
def retire (arena : Arena) (tag : Value) : Except Fault (List Nat × Arena) := do
  let tag ← tag.toInteger
  let hits := arena.indicesWhere fun index => arena.tag index = tag && !arena.isRetired index
  .ok (hits, hits.foldl retireSlot arena)

/-- One line about the store. -/
def text (arena : Arena) : String :=
  fieldsText "ParameterStore"
    [("size", decimalText arena.size), ("free", decimalText arena.freeIndices.length)]

/-- What a call of the store comes to. -/
def perform : Performing Arena
  | arena, .push value fixed tag =>
    let (result, arena) := arena.push value fixed tag
    (result.map .count, arena)
  | arena, .pushAll values fixed tag =>
    let (result, arena) := arena.pushAll values fixed tag
    (result.map .indices, arena)
  | arena, .set index value fixed =>
    let (result, arena) := arena.set index value fixed
    (result.map fun _ => .done, arena)
  | arena, .update indices values => settle arena .count (arena.update indices values)
  | arena, .retire tag => settle arena .indices (arena.retire tag)
  | arena, .clear => (.ok .done, arena.clear)
  | arena, .get index => ((arena.check index).map fun index => .number (arena.value index), arena)
  | arena, .isFixed index => ((arena.check index).map fun index => .flag (arena.flag index), arena)
  | arena, .tagOf index => ((arena.check index).map fun index => .tag (arena.tag index), arena)
  | arena, .isRetired index =>
    ((arena.check index).map fun index => .flag (arena.isRetired index), arena)
  | arena, .check index => ((arena.check index).map .count, arena)
  | arena, .size => (.ok (.count arena.size), arena)
  | arena, .snapshot => (.ok (.numbers arena.snapshot), arena)
  | arena, .freeIndices => (.ok (.indices arena.freeIndices), arena)
  | arena, .generation => (.ok (.count arena.generation), arena)
  | arena, .text => (.ok (.text arena.text), arena)

end Arena

end Drafting
