import Drafting.Proofs.Registration
import Drafting.Proofs.AcceptedViews
import Drafting.Sketch.Request

/-!
# Changes

Whatever is asked of a sketch, what happens to it is a chain of a few sorts of change. `Change`
lists them with all that is known when each is made, failures included: a geometry that is refused
after its block was allocated leaves the block behind, and a constraint that its builder refuses
leaves the slots of its literals and a gap in the sequence of identifiers. An invariant of sketches
is shown for each change once, and then holds after every list of requests.
-/

namespace Drafting

/-- Which values may be given for points and operands, and which names of kinds, in the requests of
a session. Identifiers are always possible, and so are the kinds that rule a geometry. -/
structure Scope where
  operand : Value → Prop
  kind : Value → Prop
  int : ∀ id, operand (.int id)
  rules : ∀ name ∈ ["arc_rules", "arc_of_ellipse_rules", "arc_of_hyperbola_rules",
    "arc_of_parabola_rules", "bspline_end_rules"], kind (.text name)

/-- No restriction. -/
def Scope.all : Scope where
  operand _ := True
  kind _ := True
  int _ := trivial
  rules _ _ := trivial

/-- A part of a figure with some block of its own: a point that was found, or one in the block. -/
def Sketch.IsPart (scope : Scope) (sketch : Sketch) (block : List Int) (part : View) : Prop :=
  (∃ value, scope.operand value ∧ sketch.findPoint value = .ok part) ∨
    (part.kind = .point ∧ ∀ index ∈ part.indices, index ∈ block)

/-- A view that is drawn over a new block of slots: its own block is that block, all its slots
exist, and its parts are points that were not bound elsewhere. -/
structure Sketch.Draws (scope : Scope) (sketch : Sketch) (count : Nat) (view : View) : Prop where
  own : view.ownIndices = (List.range' sketch.store.size count).map Int.ofNat
  existing : ∀ index ∈ view.indices, InStore (sketch.store.size + count) index
  bound : view.binding = some sketch.store.binding
  parts : ∀ part ∈ view.figure.parts, sketch.IsPart scope view.ownIndices part
  belongs : ∀ part ∈ view.figure.parts, sketch.store.checkPart part = .ok ()

/-- One change of a sketch. -/
inductive Change (scope : Scope) (sketch : Sketch) : Sketch → Prop
  /-- Lines are written to the journal. -/
  | noted (journal : Journal) : Change scope sketch (sketch.withJournal journal)
  /-- Slots are allocated and belong to nothing. -/
  | grown (values : List Float) (fixed : Bool) (tag : Int) :
    Change scope sketch { sketch with store := (sketch.store.append values fixed tag).2 }
  /-- An identifier is taken and names nothing. -/
  | reserved : Change scope sketch { sketch with table := sketch.table.reserveId.2 }
  /-- A parameter is defined over a new slot. -/
  | named {name : String} (value : Float) (fixed : Bool) (tag : Int)
    (new : sketch.named? name = none) :
    Change scope sketch
      { sketch with
        store := (sketch.store.append [value] fixed tag).2
        names := sketch.names ++ [(name, sketch.store.size)] }
  /-- A geometry is registered over a new block of slots, which have its tag. -/
  | drawn {view : View} (values : List Float) (fixed : Bool) (slotTag tag : Int)
    (draws : sketch.Draws scope values.length view) (tagged : values ≠ [] → slotTag = tag) :
    Change scope sketch
      { sketch with
        store := (sketch.store.append values fixed slotTag).2
        table := sketch.table.reserveId.2.insert sketch.table.nextId view tag }
  /-- A constraint is registered with new slots for its literals. -/
  | constrained {kind : Value} {operands : List Value} {spec : ConstraintKind}
    {resolved : List Resolved} {block : Block} (modifiers : Modifiers) (tag : Int)
    (known : scope.kind kind) (offered : ∀ operand ∈ operands, scope.operand operand)
    (named : sketch.resolveRequest kind operands = .ok (spec, resolved))
    (built : spec.build (placedOperands sketch.store.size resolved) = .ok block) :
    Change scope sketch (sketch.withConstraint spec resolved modifiers tag block)
  /-- A kind of constraint is defined. -/
  | defined {name : Value} {slots : List Value} {size : Value} {pending : PendingKind}
    (build : List Operand → Except Fault Block)
    (registered : sketch.catalog.register name slots size = .ok pending) :
    Change scope sketch { sketch with catalog := sketch.catalog.complete pending build }
  /-- Some constraints are removed. -/
  | removed (kept : Constraint → Bool) :
    Change scope sketch { sketch with constraints := sketch.constraints.filter kept }
  /-- Slots are retired. -/
  | retired (tag : Int) :
    Change scope sketch { sketch with store := (sketch.store.retireTag tag).2 }
  /-- Some geometries are removed. -/
  | dropped (removed : List GeometryEntry)
    (registered : ∀ entry ∈ removed, entry ∈ sketch.table.entries) :
    Change scope sketch { sketch with table := (sketch.table.drop removed).2 }
  /-- Everything but the kinds and the options is dropped. -/
  | cleared :
    Change scope sketch
      { sketch with
        constraints := [], names := [], table := sketch.table.clear, store := sketch.store.clear
        attempt := none }
  /-- A solve is judged. -/
  | attempted {leastSquares : LeastSquares} {algorithm : Algorithm} {proposal : Proposal}
    {attempt : Attempt} (judged : sketch.judge leastSquares algorithm proposal = .ok attempt) :
    Change scope sketch { sketch with attempt := some attempt }
  /-- The values that the last solve found are put into those of its slots that are free. -/
  | applied {bestEffort : Value} {slots : List Nat} {values : List Float}
    (pending : sketch.applicable? bestEffort = .ok (some (slots, values))) :
    Change scope sketch
      { sketch with store := (sketch.store.writeFreeAll (slots.zip values)).2 }
  /-- A measured value is stored in the slot that a constraint measures. -/
  | measured {c : Constraint} {slot : Nat} (value : Float) (registered : c ∈ sketch.constraints)
    (measures : c.measuredSlot? = .ok (some slot)) :
    Change scope sketch
      { sketch with store := (sketch.store.write slot value).mark slot true }

/-- The changes that a list of requests makes, one after the other. -/
abbrev Changes (scope : Scope) : Sketch → Sketch → Prop :=
  Relation.ReflTransGen (Change scope)

/-- Whether a request stays within a scope. -/
def Request.Within (scope : Scope) : Request → Prop
  | addLine start finish _ => scope.operand start ∧ scope.operand finish
  | addCircle center .. => scope.operand center
  | addArc center start finish .. =>
    scope.operand center ∧ scope.operand start ∧ scope.operand finish
  | addEllipse center focus .. | addHyperbola center focus .. | addParabola center focus _ =>
    scope.operand center ∧ scope.operand focus
  | addArcOfEllipse center focus start finish .. | addArcOfHyperbola center focus start finish ..
  | addArcOfParabola center focus start finish .. =>
    scope.operand center ∧ scope.operand focus ∧ scope.operand start ∧ scope.operand finish
  | addConstraint kind operands .. =>
    scope.kind kind ∧ ∀ operand ∈ operands, scope.operand operand
  | _ => True

/-- A sketch is reached within a scope if some requests within it leave it of a new sketch. -/
def Sketch.Reached (scope : Scope) (sketch : Sketch) : Prop :=
  ∃ identity options journal requests, (∀ request ∈ requests, request.Within scope) ∧
    sketch = (start identity options journal).afterAll requests

/-- A new sketch is reached by no request at all. -/
theorem Sketch.reached_start (scope : Scope) (identity : Nat) (options : SolveOptions)
    (journal : Journal) : (start identity options journal).Reached scope :=
  ⟨identity, options, journal, [], List.forall_mem_nil _, rfl⟩

/-- Every request stays within no restriction. -/
theorem Request.within_all (request : Request) : request.Within .all := by
  cases request <;> simp [Within, Scope.all]

end Drafting
