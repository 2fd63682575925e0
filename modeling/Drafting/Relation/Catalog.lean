import Drafting.Relation.Builtin
import Drafting.Value.Conversion

/-!
# The catalog of constraint kinds

A session knows the built-in kinds and those registered in it. A kind has places for its operands,
a count of rows, and a builder that turns resolved operands into a block: the function from the
parameter vector to the rows. Registering is done in two steps, a request that checks the name, the
places and the count, and its completion with a builder.
-/

namespace Drafting

/-- What a block gives at a parameter vector: a row of numbers or a single bare one. -/
inductive BlockValue where
  | rows (values : List Float)
  | bare (value : Float)

/-- A bare number counts as one row. -/
def BlockValue.toRows : BlockValue → List Float
  | rows values => values
  | bare value => [value]

/-- The first entry; a bare number has none. -/
def BlockValue.first : BlockValue → Except Fault Float
  | rows (value :: _) => .ok value
  | rows [] => .error (.arithmetic (.slotBeyondVector 0 0))
  | bare _ => .error (.arithmetic .bareReading)

/-- A function from what is read from the slots to the residual of a constraint. -/
abbrev Block := SlotReader Float → Except Fault BlockValue

/-- The slots of a parameter vector; one below zero counts from the end. -/
def slotsOf {α : Type} (vector : Array α) : SlotReader α := fun slot =>
  let place := if slot < 0 then slot + vector.size else slot
  match vector[place.toNat]? with
  | some value =>
    if 0 ≤ place then .ok value else .error (.arithmetic (.slotBeyondVector slot vector.size))
  | none => .error (.arithmetic (.slotBeyondVector slot vector.size))

/-- The block of a relation. -/
def Relation.block (relation : Relation) : Block := fun read =>
  (relation.rows read).map .rows

/-- A kind of constraint. -/
structure ConstraintKind where
  name : String
  slots : List SlotKind
  size : Nat
  build : List Operand → Except Fault Block

/-- The position of the last scalar among places, counted from `position`. -/
def lastScalarFrom (position : Nat) : List SlotKind → Option Nat
  | [] => none
  | slot :: rest =>
    lastScalarFrom (position + 1) rest <|> if slot = .scalar then some position else none

/-- The position of the operand that a constraint measures when it does not drive. -/
def ConstraintKind.valueSlot (kind : ConstraintKind) : Option Nat := lastScalarFrom 0 kind.slots

/-- A built-in kind as an entry of a catalog. A spline without poles has no end rules. -/
def BuiltinKind.toKind (kind : BuiltinKind) : ConstraintKind where
  name := kind.name
  slots := kind.slots
  size := kind.size
  build operands :=
    match kind.relation? operands with
    | some relation => .ok relation.block
    | none => .error (.arithmetic .emptySequence)

/-- The kinds known to a session, in order of definition. -/
structure Catalog where
  kinds : List ConstraintKind

namespace Catalog

/-- The built-in kinds alone. -/
def builtin : Catalog := ⟨BuiltinKind.all.map BuiltinKind.toKind⟩

/-- The kind with a name. -/
def find? (catalog : Catalog) (name : String) : Option ConstraintKind :=
  catalog.kinds.find? fun kind => kind.name == name

/-- The count of kinds. -/
def size (catalog : Catalog) : Nat := catalog.kinds.length

/-- The names in order of definition. -/
def names (catalog : Catalog) : List String := catalog.kinds.map (·.name)

/-- The kind that a value names. -/
def lookup (catalog : Catalog) (name : Value) : Except Fault ConstraintKind :=
  match name with
  | .text s =>
    match catalog.find? s with
    | some kind => .ok kind
    | none => .error (.unknownConstraintKind name)
  | name => .error (.unknownConstraintKind name)

/-- Whether a value names a kind. -/
def contains (catalog : Catalog) (name : Value) : Except Fault Bool :=
  match name with
  | .text s => .ok (catalog.find? s).isSome
  | value => do
    value.checkKey
    .ok false

/-- The place that a value names. -/
def parseSlot (name : String) (slot : Value) : Except Fault SlotKind :=
  match slot with
  | .text s =>
    match SlotKind.ofName? s with
    | some kind => .ok kind
    | none => .error (.unknownSlot slot name)
  | value => do
    value.checkComparable
    value.checkKey
    throw (.unknownSlot value name)

end Catalog

/-- A checked request for a new kind, which takes effect once it is completed by a builder. -/
structure PendingKind where
  name : String
  slots : List SlotKind
  size : Nat

namespace Catalog

/-- Request a new kind: its name has to be new, its places known, and it needs at least one row. -/
def register (catalog : Catalog) (name : Value) (slots : List Value) (size : Value) :
    Except Fault PendingKind := do
  match name with
  | .text s =>
    if s.isEmpty then throw (.kindNameInvalid name)
    if (catalog.find? s).isSome then throw (.kindDefined s)
    let rows ← size.toInteger
    if rows < 1 then throw (.kindWithoutRows s size)
    .ok ⟨s, ← slots.mapM (parseSlot s), rows.toNat⟩
  | value => throw (.kindNameInvalid value)

/-- Put a kind in the place of the one of the same name, or at the end. -/
def define (catalog : Catalog) (kind : ConstraintKind) : Catalog :=
  if (catalog.find? kind.name).isSome then
    ⟨catalog.kinds.map fun known => if known.name == kind.name then kind else known⟩
  else ⟨catalog.kinds ++ [kind]⟩

/-- Complete a request by a builder. -/
def complete (catalog : Catalog) (pending : PendingKind)
    (build : List Operand → Except Fault Block) : Catalog :=
  catalog.define ⟨pending.name, pending.slots, pending.size, build⟩

end Catalog

end Drafting
