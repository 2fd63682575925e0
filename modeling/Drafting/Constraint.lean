import Drafting.Journal
import Drafting.Relation.Catalog
import Drafting.Solve.Jacobian

/-!
# Registered constraints

A constraint is a kind with resolved operands, a tag, and modifiers: whether it drives the geometry
or only measures it, whether it is temporary, and by which factor its rows are scaled. A literal
operand is stored in a slot that the constraint owns. Where the last scalar operand is such a
literal, the constraint can be measured: the value of that slot for which the residual vanishes.
-/

namespace Drafting

/-- How a constraint takes part. The two flags are kept as they were given: whether they count as
true shows only where they are used. -/
structure Modifiers where
  driving : Value
  temporary : Value
  /-- The factor of the rows, positive and finite. -/
  scale : Float
  /-- The factor as it was given. -/
  givenScale : Value

namespace Modifiers

/-- A constraint that drives, stays and is not scaled. -/
def standard : Modifiers := ⟨.bool true, .bool false, 1.0, .float 1.0⟩

/-- Modifiers with a checked factor. -/
def of (driving temporary scale : Value) : Except Fault Modifiers := do
  match scale with
  | .int _ | .float _ | .entry _ =>
    let x ← scale.toReal
    if x.isFinite && 0.0 < x then .ok ⟨driving, temporary, x, scale⟩
    else throw (.scaleNotPositive scale)
  | scale => throw (.scaleNotReal scale)

/-- The written form of modifiers. -/
def text (modifiers : Modifiers) : String :=
  fieldsText "Modifiers"
    [("driving", modifiers.driving.written), ("temporary", modifiers.temporary.written),
      ("scale", modifiers.givenScale.written)]

end Modifiers

/-- A registered constraint. -/
structure Constraint where
  id : Nat
  kind : String
  operands : List Operand
  modifiers : Modifiers
  tag : Int
  /-- The count of rows that the kind declares. -/
  size : Nat
  block : Block
  /-- The slots that were allocated for literals. -/
  owned : List Nat
  /-- The slot that is measured, if the last scalar operand was a literal. -/
  valueSlot : Option Nat

/-- The words that name a constraint with its operands. -/
def constraintKey (kind : String) (id : Nat) (operands : List Operand) : String :=
  kind ++ "#" ++ decimalText id ++ "(" ++ ",".intercalate (operands.map Operand.describe) ++ ")"

namespace Constraint

/-- The words that name a constraint. -/
def key (c : Constraint) : String := constraintKey c.kind c.id c.operands

/-- Whether a constraint has to hold: it drives and is not temporary. -/
def isHard (c : Constraint) : Except Fault Bool := do
  if ← c.modifiers.driving.truth then return !(← c.modifiers.temporary.truth) else return false

/-- Whether a constraint is a temporary wish. -/
def isWish (c : Constraint) : Except Fault Bool := do
  if ← c.modifiers.driving.truth then c.modifiers.temporary.truth else return false

/-- The scaled rows of a constraint at a parameter vector. -/
def rows (c : Constraint) (vector : Array Float) : Except Fault (List Float) := do
  let values := (← c.block (slotsOf vector)).toRows
  if values.length ≠ c.size then throw (.rowCount c.key c.size values.length)
  .ok (values.map (· * c.modifiers.scale))

/-- The first row of a constraint, without its scale. -/
def reading (c : Constraint) (vector : Array Float) : Except Fault Float := do
  (← c.block (slotsOf vector)).first

end Constraint

/-- The rows of several constraints, one after the other. -/
def stackedRows (constraints : List Constraint) (vector : Array Float) :
    Except Fault (List Float) := do
  .ok (← constraints.mapM (·.rows vector)).flatten

/-- The rows of several constraints as a function of the free values. -/
def freeRows (constraints : List Constraint) (full : Array Float) (free : List Nat) :
    RowFunction := fun values => do
  stackedRows constraints (← scatter full free values)

/-- Where a search for a measured value ended. -/
structure Search (α : Type) where
  value : α
  /-- Whether the reading turned out not to depend on the value. -/
  stuck : Bool

/-- Readings and slopes up to this magnitude count as zero. -/
def measureTolerance [Arithmetic α] : α := 1e-14

/-- Search the value at which a reading vanishes: from the reading here and a little further on, go
to where the line through both crosses zero. The search ends where the reading vanishes, where it
does not depend on the value, or when its steps are used up. -/
def searchZero [Arithmetic α] (reading : α → Except Fault α) : Nat → α → Except Fault (Search α)
  | 0, value => .ok ⟨value, false⟩
  | steps + 1, value => do
    let here ← reading value
    if atMost (magnitude here) measureTolerance then return ⟨value, false⟩
    let step := 1e-7 * larger 1.0 (magnitude value)
    let there ← reading (value + step)
    let value := value + step - step
    let slope := (there - here) / step
    if atMost (magnitude slope) measureTolerance then return ⟨value, true⟩
    searchZero reading steps (value - here / slope)

/-- How many steps a search takes at most. -/
def measureSteps : Nat := 25

namespace Constraint

/-- The slot that a constraint measures: it does not drive, has one row, and owns its value. -/
def measuredSlot? (c : Constraint) : Except Fault (Option Nat) := do
  if (← c.modifiers.driving.truth) || c.size ≠ 1 then return none else return c.valueSlot

/-- The first row as a function of the value in one slot, the others held. -/
def readingOf (c : Constraint) (slot : Nat) (vector : Array Float) (value : Float) :
    Except Fault Float :=
  c.reading (vector.setIfInBounds slot value)

/-- The search for the value in a slot at which a constraint holds. The first reading comes before
the slot is looked for. -/
def measure (c : Constraint) (slot : Nat) (vector : Array Float) :
    Except Fault (Search Float) := do
  match vector[slot]? with
  | some value => searchZero (c.readingOf slot vector) measureSteps value
  | none =>
    discard (c.reading vector)
    throw (.arithmetic (.slotBeyondVector slot vector.size))

end Constraint

end Drafting
