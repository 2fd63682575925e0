import Drafting.Value.Conversion

/-!
# The table of registered geometry

A geometry is registered under an identifier. Identifiers come from one ascending sequence that
constraints share, and are never handed out twice, so a smaller one means "constructed earlier". No
two registered geometries have a slot of their own block in common: the table knows the owner of
every such slot and refuses a view whose block meets another.
-/

namespace Drafting

/-- A registered geometry. -/
structure GeometryEntry where
  id : Nat
  view : View
  tag : Int

/-- Registered geometries in the order of registration, the owners of their slots, and the next
identifier. -/
structure GeometryTable where
  entries : List GeometryEntry
  owners : List (Int × Nat)
  nextId : Nat

namespace GeometryTable

/-- A table without geometry. -/
def empty : GeometryTable := ⟨[], [], 0⟩

/-- The geometry registered under an identifier. -/
def find? (table : GeometryTable) (id : Int) : Option GeometryEntry :=
  table.entries.find? fun entry => (entry.id : Int) = id

/-- The identifier of the geometry whose own block holds a slot. -/
def owner? (table : GeometryTable) (slot : Int) : Option Nat :=
  (table.owners.find? fun (owned, _) => owned = slot).map (·.2)

/-- Take the next identifier. -/
def reserveId (table : GeometryTable) : Nat × GeometryTable :=
  (table.nextId, { table with nextId := table.nextId + 1 })

/-- The refusal of a slot that another geometry owns. The refusal names the owner with its kind, so
it is looked up. -/
def checkUnowned (table : GeometryTable) (slot : Int) : Except Fault Unit :=
  match table.owner? slot with
  | none => .ok ()
  | some owner =>
    match table.find? owner with
    | some entry => .error (.overlappingBlock slot owner entry.view.kind)
    | none => .error (.arithmetic .missingKey)

/-- Register a view under an identifier that was reserved for it. -/
def insert (table : GeometryTable) (id : Nat) (view : View) (tag : Int) : GeometryTable :=
  { table with
    entries := table.entries ++ [⟨id, view, tag⟩]
    owners := view.ownIndices.map (·, id) ++ table.owners }

/-- Register a view whose block meets no other. The identifier is taken before the tag is read, so
a tag that is no integer leaves a gap in the sequence. -/
def add (table : GeometryTable) (view : View) (tag : Value) :
    Except Fault Nat × GeometryTable :=
  match view.ownIndices.forM table.checkUnowned with
  | .error fault => (.error fault, table)
  | .ok () =>
    let (id, reserved) := table.reserveId
    match tag.toInteger with
    | .error fault => (.error fault, reserved)
    | .ok tag => (.ok id, reserved.insert id view tag)

/-- The view registered under an identifier. -/
def get (table : GeometryTable) (id : Value) : Except Fault View := do
  match ← id.lookup table.find? with
  | some entry => .ok entry.view
  | none => .error (.missingGeometry id)

/-- Whether a geometry is registered under an identifier. -/
def contains (table : GeometryTable) (id : Value) : Except Fault Bool :=
  (id.lookup table.find?).map (·.isSome)

/-- Drop some geometries; their identifiers. Their slots can be owned again. -/
def drop (table : GeometryTable) (removed : List GeometryEntry) : List Nat × GeometryTable :=
  let ids := removed.map (·.id)
  let freed := removed.flatMap fun entry => entry.view.ownIndices
  (ids,
    { table with
      entries := table.entries.filter fun entry => !ids.contains entry.id
      owners := table.owners.filter fun (slot, _) => !freed.contains slot })

/-- Drop the geometries with a tag; their identifiers. -/
def removeTag (table : GeometryTable) (tag : Value) :
    Except Fault (List Nat × GeometryTable) := do
  .ok (table.drop (← table.entries.filterM fun entry => tag.equalsInteger entry.tag))

/-- Drop all geometries. The sequence of identifiers goes on. -/
def clear (table : GeometryTable) : GeometryTable :=
  { table with entries := [], owners := [] }

/-- A cleared table goes on with the same identifier. -/
@[simp] theorem nextId_clear (table : GeometryTable) : table.clear.nextId = table.nextId := rfl

/-- Registering under a reserved identifier takes no further one. -/
@[simp] theorem nextId_insert (table : GeometryTable) (id : Nat) (view : View) (tag : Int) :
    (table.insert id view tag).nextId = table.nextId := rfl

/-- Dropping takes no identifier. -/
@[simp] theorem nextId_drop (table : GeometryTable) (removed : List GeometryEntry) :
    (table.drop removed).2.nextId = table.nextId := rfl

end GeometryTable

end Drafting
