import Drafting.Value.Conversion

/-!
# The parameter store

All numbers of a sketch live in one row of slots. A slot has a value, which is always finite, a
flag that holds it fixed, and the tag it was allocated with. Slots are appended and never recycled:
removing a tag retires its slots in place, and only clearing the store drops them, all at once and
with a step of the generation.

An operation either succeeds or leaves the store as it was; only a value that is set stays even if
the flag that comes with it cannot be read.
-/

namespace Drafting

/-- One parameter. -/
structure Slot where
  value : Float
  fixed : Bool
  tag : Int
  retired : Bool

/-- A row of parameters. The identity tells the stores of two sessions apart. -/
structure Store where
  identity : Nat
  slots : Array Slot
  generation : Nat

namespace Store

/-- The room for slots that is set aside at most before there are any. -/
def greatestRoom : Int := 65536

/-- A store without slots, with room for some of them before it has to grow. -/
def withRoom (identity : Nat) (room : Int) : Store :=
  ⟨identity, .emptyWithCapacity (min room greatestRoom).toNat, 0⟩

/-- A store without slots. -/
def empty (identity : Nat) : Store := withRoom identity 16

/-- The count of slots. -/
def size (store : Store) : Nat := store.slots.size

/-- The values of all slots. -/
def snapshot (store : Store) : Array Float := store.slots.map (·.value)

/-- The indices of the slots that satisfy a condition, in ascending order. -/
def indicesWhere (store : Store) (condition : Slot → Bool) : List Nat :=
  (List.range store.size).filter fun i => store.slots[i]?.any condition

/-- The indices of the slots that are not fixed. -/
def freeIndices (store : Store) : List Nat := store.indicesWhere (!·.fixed)

/-- The indices of the retired slots. -/
def retiredIndices (store : Store) : List Nat := store.indicesWhere (·.retired)

/-- The binding of a view made in this store now. -/
def binding (store : Store) : Binding := ⟨store.identity, store.generation⟩

/-- The number that is to be stored, which has to be finite. -/
def finiteReal (value : Value) : Except Fault Float := do
  let x ← value.toReal
  if x.isFinite then .ok x else .error (.valueNotFinite x)

/-- The first integer that does not fit into 64 bits with a sign. -/
def tagLimit : Int := 9223372036854775808

/-- The tag that is to be stored, which has to fit into 64 bits. -/
def storedTag (tag : Value) : Except Fault Int := do
  let n ← tag.toInteger
  if -tagLimit ≤ n ∧ n < tagLimit then .ok n else arithmeticFault .tagTooLarge

/-- Append a slot for each value; the indices of the new slots. -/
def append (store : Store) (values : List Float) (fixed : Bool) (tag : Int) :
    List Nat × Store :=
  (List.range' store.size values.length,
    { store with
      slots := store.slots ++
        (values.map fun value => ({ value, fixed, tag, retired := false } : Slot)).toArray })

/-- Append one slot; its index. -/
def push (store : Store) (value fixed tag : Value) : Except Fault (Nat × Store) := do
  let x ← finiteReal value
  let fixed ← fixed.truth
  let tag ← storedTag tag
  .ok (store.size, (store.append [x] fixed tag).2)

/-- Append a block of slots, all or none; their indices. -/
def pushAll (store : Store) (values : List Value) (fixed tag : Value) :
    Except Fault (List Nat × Store) := do
  let reals ← values.mapM finiteReal
  let fixed ← fixed.truth
  let tag ← storedTag tag
  .ok (store.append reals fixed tag)

/-- Drop all slots and begin the next generation. -/
def clear (store : Store) : Store :=
  { store with slots := #[], generation := store.generation + 1 }

/-- The index itself, if it is one of a slot. -/
def checkIndex (store : Store) (index : Int) : Except Fault Nat :=
  if 0 ≤ index ∧ index < store.size then .ok index.toNat
  else .error (.slotOutOfRange index store.size)

/-- The index of a slot: an integer, but no truth value. -/
def check (store : Store) (index : Value) : Except Fault Nat :=
  match index with
  | .int n => store.checkIndex n
  | value => .error (.slotNotInteger value)

/-- The slot at an index. -/
def slotAt (store : Store) (index : Int) : Except Fault Slot :=
  match store.slots[index.toNat]? with
  | some slot => if 0 ≤ index then .ok slot else .error (.slotOutOfRange index store.size)
  | none => .error (.slotOutOfRange index store.size)

/-- The value at an index. -/
def valueAt (store : Store) (index : Int) : Except Fault Float :=
  (store.slotAt index).map (·.value)

/-- Whether the slot at an index is fixed. -/
def fixedAt (store : Store) (index : Int) : Except Fault Bool :=
  (store.slotAt index).map (·.fixed)

/-- Overwrite the value of a slot. -/
def write (store : Store) (index : Nat) (value : Float) : Store :=
  { store with slots := store.slots.modify index fun slot => { slot with value := value } }

/-- Overwrite the flag of a slot. -/
def mark (store : Store) (index : Nat) (fixed : Bool) : Store :=
  { store with slots := store.slots.modify index fun slot => { slot with fixed := fixed } }

/-- Overwrite the value of the slot at an index; the checked index. -/
def setValue (store : Store) (index value : Value) : Except Fault (Nat × Store) := do
  let index ← store.check index
  .ok (index, store.write index (← finiteReal value))

/-- Overwrite the value and then the flag of the slot at an index. -/
def set (store : Store) (index value fixed : Value) : Except Fault Unit × Store :=
  match store.setValue index value with
  | .error fault => (.error fault, store)
  | .ok (index, written) =>
    match fixed.truth with
    | .error fault => (.error fault, written)
    | .ok fixed => (.ok (), written.mark index fixed)

/-- Overwrite the value of a slot unless it is fixed; whether it was. -/
def writeFree (store : Store) (index : Nat) (value : Float) : Bool × Store :=
  match store.slots[index]? with
  | some slot => if slot.fixed then (false, store) else (true, store.write index value)
  | none => (false, store)

/-- Overwrite the free slots among some, in order; how many were overwritten. -/
def writeFreeAll (store : Store) : List (Nat × Float) → Nat × Store
  | [] => (0, store)
  | (index, value) :: rest =>
    let (written, store) := store.writeFree index value
    let (count, store) := store.writeFreeAll rest
    (count + if written then 1 else 0, store)

/-- Refuse numbers that are not as many as slots, or not finite. -/
def checkRow (indices : List Nat) (count : Nat) (values : List Float) : Except Fault Unit :=
  if count ≠ indices.length then .error (.valueCount indices.length count)
  else if values.all Float.isFinite then .ok ()
  else .error .nonFiniteValues

/-- Overwrite the free slots among some, once the values are known to be as many and finite. -/
def assign (store : Store) (indices : List Nat) (values : List Float) :
    Except Fault (Nat × Store) := do
  checkRow indices values.length values
  .ok (store.writeFreeAll (indices.zip values))

/-- Overwrite the free slots among some by whole rows of numbers, which no free slot takes. -/
def assignRows (store : Store) (indices : List Nat) (count : Nat) (values : List Float) :
    Except Fault (Nat × Store) := do
  checkRow indices count values
  if indices.any fun index => store.slots[index]?.any (!·.fixed) then
    arithmeticFault .rowInSlot
  else .ok (0, store)

/-- Overwrite the free slots among some: every index is checked before any value is looked at, and
every value before any slot is written. -/
def update (store : Store) (indices values : Value) : Except Fault (Nat × Store) := do
  let indices ← (← indices.toItems).mapM store.check
  match ← (Value.list (← values.toItems)).toArray with
  | (count :: _ :: _, values) => store.assignRows indices count values
  | (_, values) => store.assign indices values

/-- Hold a slot fixed and mark it retired. -/
def retireSlot (store : Store) (index : Nat) : Store :=
  { store with
    slots := store.slots.modify index fun slot => { slot with fixed := true, retired := true } }

/-- Retire every slot with a tag that is not retired yet; their indices. -/
def retireTag (store : Store) (tag : Int) : List Nat × Store :=
  let hits := store.indicesWhere fun slot => slot.tag = tag && !slot.retired
  (hits, hits.foldl retireSlot store)

/-- Retire the slots allocated with a tag. -/
def retire (store : Store) (tag : Value) : Except Fault (List Nat × Store) := do
  .ok (store.retireTag (← tag.toInteger))

/-- One line about the store. -/
def text (store : Store) : String :=
  fieldsText "ParameterStore"
    [("size", decimalText store.size), ("free", decimalText store.freeIndices.length)]

/-- A new slot comes last. -/
@[simp] theorem size_append (store : Store) (values : List Float) (fixed : Bool) (tag : Int) :
    (store.append values fixed tag).2.size = store.size + values.length := by
  simp [append, size]

/-- Writing keeps the count of slots. -/
@[simp] theorem size_write (store : Store) (index : Nat) (value : Float) :
    (store.write index value).size = store.size := by
  simp [write, size]

/-- Marking keeps the count of slots. -/
@[simp] theorem size_mark (store : Store) (index : Nat) (fixed : Bool) :
    (store.mark index fixed).size = store.size := by
  simp [mark, size]

/-- Retiring keeps the count of slots. -/
@[simp] theorem size_retireSlot (store : Store) (index : Nat) :
    (store.retireSlot index).size = store.size := by
  simp [retireSlot, size]

/-- Clearing leaves no slot. -/
@[simp] theorem size_clear (store : Store) : store.clear.size = 0 := rfl

/-- Clearing steps the generation. -/
@[simp] theorem generation_clear (store : Store) :
    store.clear.generation = store.generation + 1 := rfl

end Store

end Drafting
