import Drafting.Geometry.Property
import Drafting.Journal.Summary
import Drafting.Sketch

/-!
# Adding constraints

The operands of a constraint may be given in many ways: a geometry by its identifier or by a view, a
scalar by a literal, a name or a property of a geometry. All operands are resolved before anything
changes. Then every literal gets a slot of its own, the next identifier is taken, the kind builds
its block, and the constraint is registered.
-/

namespace Drafting

/-- A resolved operand, or a literal that has no slot yet. -/
inductive Resolved where
  | operand (operand : Operand)
  | literal (value : Float)

namespace Sketch

/-- The geometry that an identifier names as an operand: it has to be constructed before. -/
def resolveObject (sketch : Sketch) (position : Nat) : Value → Except Fault View
  | .int id =>
    if (sketch.table.nextId : Int) ≤ id then .error (.operandTooEarly position id)
    else if (sketch.constraint? id).isSome then .error (.operandIsConstraint position id)
    else
      match sketch.table.find? id with
      | some entry => .ok entry.view
      | none => .error (.operandUnknownGeometry position id)
  | value => .error (.operandNotGeometry position value)

/-- The view that an operand names, whatever its kind. -/
def resolveView (sketch : Sketch) (position : Nat) : Value → Except Fault View
  | .view view => sketch.store.checkView view
  | value => sketch.resolveObject position value

/-- The geometry for a place that accepts some kinds. -/
def resolveGeometry (sketch : Sketch) (slot : SlotKind) (position : Nat) (value : Value) :
    Except Fault View := do
  let view ← sketch.resolveView position value
  if slot.accepted.contains view.kind then .ok view
  else throw (.operandOfOtherKind position slot.accepted view.kind)

/-- A literal has to be a finite number. -/
def resolveLiteral (position : Nat) (value : Value) : Except Fault Resolved := do
  let x ← value.toReal
  if x.isFinite then .ok (.literal x) else throw (.operandNotFinite position value)

/-- The slot of the parameter that an operand names. -/
def resolveName (sketch : Sketch) (position : Nat) (name : Value) : Except Fault Resolved :=
  match name with
  | .text s =>
    match sketch.named? s with
    | some slot => .ok (.operand (.scalar slot))
    | none => .error (.operandUnknownParameter position name)
  | name => do
    name.checkKey
    throw (.operandUnknownParameter position name)

/-- A scalar that is not wrapped as a literal. -/
def resolveBareScalar (sketch : Sketch) (position : Nat) (value : Value) :
    Except Fault Resolved := do
  match value with
  | .bool _ | .int _ | .float _ | .entry _ => resolveLiteral position value
  | .text _ => sketch.resolveName position value
  | .parameter name => sketch.resolveName position name
  | .property geometry name =>
    let view ← sketch.resolveObject position geometry
    .ok (.operand (.scalar (← propertyIndex view name .none)))
  | value => throw (.operandNotScalar position value)

/-- The scalar that an operand names. Truth values are refused unless they are wrapped. -/
def resolveScalar (sketch : Sketch) (position : Nat) : Value → Except Fault Resolved
  | .bool _ => .error (.operandBoolean position)
  | .literal value => sketch.resolveBareScalar position value
  | value => sketch.resolveBareScalar position value

/-- The operand for a place. -/
def resolve (sketch : Sketch) (slot : SlotKind) (position : Nat) (value : Value) :
    Except Fault Resolved := do
  if slot = .scalar then sketch.resolveScalar position value
  else .ok (.operand (.view (← sketch.resolveGeometry slot position value)))

/-- The operands for the places of a kind, from the first to the last. -/
def resolveAll (sketch : Sketch) (slots : List SlotKind) (operands : List Value) :
    Except Fault (List Resolved) :=
  ((slots.zip operands).zipIdx).mapM fun ((slot, value), position) =>
    sketch.resolve slot position value

/-- The kind and the operands that a request names. -/
def resolveRequest (sketch : Sketch) (kind : Value) (operands : List Value) :
    Except Fault (ConstraintKind × List Resolved) := do
  let spec ← sketch.catalog.lookup kind
  if operands.length ≠ spec.slots.length then
    throw (.operandCount kind spec.slots.length operands.length)
  .ok (spec, ← sketch.resolveAll spec.slots operands)

end Sketch

/-- A resolved operand, and the slot it owns if it was a literal. -/
structure Allocated where
  operand : Operand
  owned : Option Nat

/-- The slot that is measured: the one of the operand at a position, if that was a literal. -/
def measuredSlot (position : Option Nat) (allocated : List Allocated) : Option Nat := do
  (← allocated[← position]?).owned

namespace Session

/-- A fixed slot for a literal; other operands as they are. -/
def allocate (tag : Value) : Resolved → Session Allocated
  | .operand operand => return ⟨operand, none⟩
  | .literal x => do
    let slot ← onStore (·.push (.float x) (.bool true) tag)
    return ⟨.scalar slot, some slot⟩

/-- Take the next identifier. -/
def takeId : Session Nat := do
  let (id, table) := (← get).table.reserveId
  modify fun sketch => { sketch with table := table }
  return id

/-- Register a constraint of a kind with resolved operands. -/
def register (spec : ConstraintKind) (resolved : List Resolved) (modifiers : Modifiers)
    (tag : Value) : Session Nat := do
  let allocated ← resolved.mapM (allocate tag)
  let operands := allocated.map (·.operand)
  let id ← takeId
  let block ← spec.build operands
  let c : Constraint :=
    { id, kind := spec.name, operands, modifiers, tag := ← tag.toInteger, size := spec.size, block
      owned := allocated.filterMap (·.owned)
      valueSlot := measuredSlot spec.valueSlot allocated }
  modify fun sketch => { sketch with constraints := sketch.constraints ++ [c] }
  noteTag .debug .constraints ("Registered constraint #" ++ decimalText id ++ " " ++ c.kind) tag
    (" driving=" ++ modifiers.driving.shown ++ " temporary=" ++ modifiers.temporary.shown ++
      " scale=" ++ generalText 6 modifiers.scale)
  return id

/-- A request with its arguments and its outcome in the journal. -/
def traced (call : String) (arguments : List Value) (written : List String)
    (request : Session Nat) : Session Nat := do
  note .debug .constraints
    (call ++ "(" ++ ", ".intercalate (arguments.map Value.summary ++ written) ++ ")")
  tryCatch
    (do
      let answer ← request
      note .debug .constraints (call ++ " -> " ++ decimalText answer)
      return answer)
    fun fault => do
      note .debug .constraints
        (call ++ " failed: " ++ fault.category.name ++ ": " ++ fault.message)
      throw fault

/-- Add a constraint with checked modifiers; its identifier. -/
def constrain (kind : Value) (operands : List Value) (modifiers : Modifiers) (tag : Value) :
    Session Nat :=
  traced "ConstraintRegistry.add" [kind, .tuple operands]
    [elided 120 modifiers.text, tag.summary] do
    let (spec, resolved) ← (← get).resolveRequest kind operands
    register spec resolved modifiers tag

/-- Add a constraint; its identifier. -/
def addConstraint (kind : Value) (operands : List Value)
    (driving temporary scale tag : Value) : Session Nat := do
  constrain kind operands (← Modifiers.of driving temporary scale) tag

/-- Register a kind of constraint under a builder that is made for its count of rows. -/
def registerKind (name : Value) (slots : List Value) (size : Value)
    (build : Nat → List Operand → Except Fault Block) : Session Unit := do
  let pending ← (← get).catalog.register name slots size
  modify fun sketch =>
    { sketch with catalog := sketch.catalog.complete pending (build pending.size) }
  note .debug .catalog
    ("Registered constraint kind " ++ pending.name ++
      tupleText (pending.slots.map fun slot => quoted slot.name))

/-- The rows of a constraint at a vector, or at the values of the store. -/
def evaluate (id : Value) (vector : Option (Array Float)) : Session (List Float) := do
  let c ← constraint id
  c.rows (vector.getD (← get).store.snapshot)

/-- Measure a constraint at a parameter vector. -/
def measureOne (vector : Array Float) (c : Constraint) (slot : Nat) : Session Float := do
  let search ← c.measure slot vector
  if search.stuck then
    note .debug .constraints
      ("Cannot measure " ++ c.key ++ ": residual does not depend on its value")
  return search.value

/-- A measurement put in the place of an earlier one of the same slot, or at the end. -/
def withMeasurement (measured : List (Nat × Float)) (slot : Nat) (value : Float) :
    List (Nat × Float) :=
  if (measured.lookup slot).isSome then
    measured.map fun (known, old) => (known, if known = slot then value else old)
  else measured ++ [(slot, value)]

/-- Some measurements with the one of a further constraint, if that can be measured. -/
def measureNext (vector : Array Float) (measured : List (Nat × Float)) (c : Constraint) :
    Session (List (Nat × Float)) := do
  match ← c.measuredSlot? with
  | none => return measured
  | some slot => return withMeasurement measured slot (← measureOne vector c slot)

/-- The measurements at a parameter vector of all constraints that can be measured, one for each
slot: of two constraints that measure the same slot the later one counts. -/
def measure (vector : Array Float) : Session (List (Nat × Float)) := do
  (← get).constraints.foldlM (measureNext vector) []

/-- Store a measured value, unless it is not finite. -/
def commitMeasurement (slot : Nat) (value : Float) : Session Unit := do
  if value.isFinite then setSlot (.int slot) (.float value) (.bool true)

/-- Measure at a parameter vector and store what was measured. -/
def commitMeasurements (vector : Array Float) : Session (List (Nat × Float)) := do
  let measured ← measure vector
  measured.forM fun (slot, value) => commitMeasurement slot value
  return measured

end Session

end Drafting
