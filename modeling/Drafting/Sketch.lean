import Drafting.Constraint
import Drafting.Geometry.Binding
import Drafting.Geometry.Table
import Drafting.Solve.Diagnosis

/-!
# Sketches and sessions

A sketch is a store of parameters, a table of geometry, the constraints between them, and what the
last solve found. A session is a run of requests on one sketch. A request either answers or is
refused for a fault, and in both cases the sketch goes on as the request left it: what was changed
before a refusal stays changed. Most requests check first and change last, so that a refusal leaves
the sketch as it was.
-/

namespace Drafting

/-- The outcome of a solve. -/
structure SolveStatus where
  converged : Bool
  algorithm : Algorithm
  freedom : Int
  conflicting : List Int
  redundant : List Int
  partiallyRedundant : List Int
  maxResidual : Float
  iterations : Int
  message : String

/-- What the last solve leaves behind: its outcome, its diagnosis, and the values it found for the
slots that were free, if these are finite. -/
structure Attempt where
  status : SolveStatus
  diagnosis : Diagnosis
  free : List Nat
  solution : Option (List Float)
  generation : Nat

/-- A sketch. -/
structure Sketch where
  store : Store
  table : GeometryTable
  /-- Registered constraints by ascending identifier. -/
  constraints : List Constraint
  /-- Named parameters in order of definition. -/
  names : List (String × Nat)
  catalog : Catalog
  options : SolveOptions
  attempt : Option Attempt
  journal : Journal
  /-- Whether a record that cannot be written is refused, and the request with it. Otherwise it is
  left out. -/
  strict : Bool

namespace Sketch

/-- A sketch with nothing in it. -/
def empty (identity : Nat) (options : SolveOptions) : Sketch where
  store := .empty identity
  table := .empty
  constraints := []
  names := []
  catalog := .builtin
  options
  attempt := none
  journal := .silent
  strict := false

/-- The constraint registered under an identifier. -/
def constraint? (sketch : Sketch) (id : Int) : Option Constraint :=
  sketch.constraints.find? fun c => (c.id : Int) = id

/-- The slot of a named parameter. -/
def named? (sketch : Sketch) (name : String) : Option Nat := sketch.names.lookup name

/-- The constraints that have to hold. -/
def hard (sketch : Sketch) : Except Fault (List Constraint) :=
  sketch.constraints.filterM Constraint.isHard

/-- The constraints that are temporary wishes. -/
def wishes (sketch : Sketch) : Except Fault (List Constraint) :=
  sketch.constraints.filterM Constraint.isWish

/-- Whether a constraint is temporary, driving or not. -/
def hasTemporary (sketch : Sketch) : Except Fault Bool :=
  sketch.constraints.anyM (·.modifiers.temporary.truth)

/-- The tags of all constraints, ascending. -/
def tags (sketch : Sketch) : List Int := ascendingTags (sketch.constraints.map (·.tag))

end Sketch

/-- A run of requests on one sketch. -/
abbrev Session := ExceptT Fault (StateM Sketch)

namespace Session

/-- The answer or the fault of a request, and the sketch it leaves. -/
def outcome (request : Session α) (sketch : Sketch) : Except Fault α × Sketch :=
  (ExceptT.run request).run sketch

/-- Record a line in the journal. -/
def note (level : Level) (source : Source) (message : String) : Session Unit :=
  modify fun sketch => { sketch with journal := sketch.journal.add ⟨level, source, message⟩ }

/-- Record a line about a tag. A tag given as a text cannot be written, so the record is left out,
or refused if the sketch is strict and the record is wanted at all. -/
def noteTag (level : Level) (source : Source) (before : String) (tag : Value)
    (after : String) : Session Unit := do
  if (← get).journal.wants level then
    match tag.toNumeral with
    | .ok numeral => note level source (before ++ " tag=" ++ numeral ++ after)
    | .error fault => if (← get).strict then throw fault

/-- An operation on the store, which changes nothing if it is refused. -/
def onStore (operation : Store → Except Fault (α × Store)) : Session α := do
  let (answer, store) ← operation (← get).store
  modify fun sketch => { sketch with store := store }
  return answer

/-- Drop all parameters. -/
def clearStore : Session Unit := do
  note .debug .store
    ("Clearing parameter store with " ++ decimalText (← get).store.size ++ " slots")
  modify fun sketch => { sketch with store := sketch.store.clear }

/-- Retire the slots allocated with a tag; their indices. -/
def retire (tag : Value) : Session (List Nat) := do
  let retired ← onStore (·.retire tag)
  unless retired.isEmpty do
    noteTag .debug .store ("Retired " ++ decimalText retired.length ++ " parameter(s) with") tag ""
  return retired

/-- Overwrite the value and the flag of a slot. -/
def setSlot (index value fixed : Value) : Session Unit := do
  let (answer, store) := (← get).store.set index value fixed
  modify fun sketch => { sketch with store := store }
  answer

/-- Define a named parameter; its slot. -/
def addParameter (name value fixed tag : Value) : Session Nat := do
  match name with
  | .text s =>
    if s.isEmpty then throw (.parameterNameInvalid name)
    if ((← get).named? s).isSome then throw (.parameterDefined s)
    let slot ← onStore (·.push value fixed tag)
    modify fun sketch => { sketch with names := sketch.names ++ [(s, slot)] }
    return slot
  | name => throw (.parameterNameInvalid name)

/-- The slot of the parameter that a value names. -/
def parameterSlot (name : Value) : Session Nat := do
  match name with
  | .text s =>
    match (← get).named? s with
    | some slot => return slot
    | none => throw (.unknownParameter name)
  | name => do
    name.checkKey
    throw (.unknownParameter name)

/-- The value of a named parameter. -/
def parameter (name : Value) : Session Float := do
  let slot ← parameterSlot name
  (← get).store.valueAt slot

/-- The geometry registered under an identifier. -/
def geometry (id : Value) : Session View := do (← get).table.get id

/-- The constraint registered under an identifier. -/
def constraint (id : Value) : Session Constraint := do
  match ← id.lookup (← get).constraint? with
  | some c => return c
  | none => throw (.missingConstraint id)

/-- Whether a constraint is registered under an identifier. -/
def containsConstraint (id : Value) : Session Bool := do
  return (← id.lookup (← get).constraint?).isSome

end Session

end Drafting
