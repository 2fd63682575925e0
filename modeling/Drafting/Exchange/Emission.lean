import Drafting.Exchange.Call
import Drafting.Sketch.Solving

/-!
# Handing a sketch to a second solver

The points, lines and circles of a sketch are emitted in order of registration, then the hard
constraints in order of construction. Geometry over the same slots shares one entity. A constraint
of a kind that the other solver has no counterpart for is left out and reported as unsupported.
-/

namespace Drafting

/-- What has been emitted. -/
structure Emission where
  calls : Array SolverCall
  /-- How many entities there are. -/
  entities : Nat
  /-- How many constraints the other solver has been told about, which it numbers in this order. -/
  constraints : Nat
  /-- The entities of points by their slots. -/
  points : List ((Int × Int) × Nat)
  /-- The entities of lines and circles by the identifier of their geometry. -/
  figures : List (Nat × Nat)

namespace Emission

/-- Nothing emitted. -/
def empty : Emission := ⟨#[], 0, 0, [], []⟩

end Emission

/-- Emitting the calls for a sketch. -/
abbrev Emitting := StateT Emission (Except Fault)

namespace Emitting

/-- Emit a call that creates no entity. -/
def emit (call : SolverCall) : Emitting Unit :=
  modify fun emission => { emission with calls := emission.calls.push call }

/-- Emit a call that creates an entity; the entity. -/
def create (call : Nat → SolverCall) : Emitting Nat := do
  let entity := (← get).entities + 1
  modify fun emission => { emission with entities := entity }
  emit (call entity)
  return entity

/-- Count a constraint that the other solver has been told about. -/
def countConstraint : Emitting Unit :=
  modify fun emission => { emission with constraints := emission.constraints + 1 }

/-- The entity of the point over two slots. It is created once, and held in place if both slots are
fixed. -/
def point (store : Store) (dragFixed : Bool) (x y : Int) : Emitting Nat := do
  match (← get).points.lookup (x, y) with
  | some entity => return entity
  | none =>
    let first ← store.valueAt x
    let second ← store.valueAt y
    let entity ← create (.point first second)
    if dragFixed && (← store.fixedAt x) && (← store.fixedAt y) then
      emit (.drag entity)
      countConstraint
    modify fun emission => { emission with points := ((x, y), entity) :: emission.points }
    return entity

/-- The entity of a point that other geometry refers to. -/
def endPoint (store : Store) (dragFixed : Bool) (view : View) : Emitting Nat :=
  match view.figure with
  | .point x y => point store dragFixed x y
  | _ => arithmeticFault (.notPoint view.kind)

/-- The entity of a geometry, created once. -/
def once (id : Nat) (creation : Emitting Nat) : Emitting Nat := do
  match (← get).figures.lookup id with
  | some entity => return entity
  | none =>
    let entity ← creation
    modify fun emission => { emission with figures := (id, entity) :: emission.figures }
    return entity

/-- A new line between two points. -/
def line (store : Store) (dragFixed : Bool) (start finish : View) : Emitting Nat := do
  let first ← endPoint store dragFixed start
  let second ← endPoint store dragFixed finish
  create (.line first second)

/-- A new circle; its diameter is given if its radius is fixed. -/
def circle (store : Store) (dragFixed : Bool) (center : View) (radius : Int) : Emitting Nat := do
  let value ← store.valueAt radius
  let normal ← create .normal
  let middle ← endPoint store dragFixed center
  let entity ← create (.circle normal middle value)
  if ← store.fixedAt radius then
    emit (.diameter entity (2.0 * value))
    countConstraint
  return entity

/-- Emit a registered geometry. Kinds other than points, lines and circles are passed over. -/
def geometry (store : Store) (dragFixed : Bool) (entry : GeometryEntry) : Emitting Unit :=
  match entry.view.figure with
  | .point x y => discard (point store dragFixed x y)
  | .line start finish => discard (once entry.id (line store dragFixed start finish))
  | .circle center radius => discard (once entry.id (circle store dragFixed center radius))
  | _ => return ()

end Emitting

/-- Degrees in a radian. -/
def degreesPerRadian : Float := 180.0 / 3.141592653589793

namespace Sketch

/-- The registered geometry that a view is alike. -/
def registered? (sketch : Sketch) (view : View) : Option GeometryEntry :=
  sketch.table.entries.find? fun entry => entry.view.alike view

/-- The entity of a point that is an operand. -/
def emitPoint (sketch : Sketch) (dragFixed : Bool) : Operand → Emitting Nat
  | .view ⟨.point x y, _⟩ => Emitting.point sketch.store dragFixed x y
  | _ => arithmeticFault .arguments

/-- The entity of a line that is an operand: the one of the registered line it is alike, or a new
one. -/
def emitLine (sketch : Sketch) (dragFixed : Bool) : Operand → Emitting Nat
  | .view ⟨.line start finish, binding⟩ =>
    let creation := Emitting.line sketch.store dragFixed start finish
    match sketch.registered? ⟨.line start finish, binding⟩ with
    | some entry => Emitting.once entry.id creation
    | none => creation
  | _ => arithmeticFault .arguments

/-- The entity of a circle that is an operand, if it is alike a registered circle. -/
def emitCircle? (sketch : Sketch) (dragFixed : Bool) : Operand → Emitting (Option Nat)
  | .view ⟨.circle center radius, binding⟩ =>
    match sketch.registered? ⟨.circle center radius, binding⟩ with
    | some entry => do
      return some
        (← Emitting.once entry.id (Emitting.circle sketch.store dragFixed center radius))
    | none => return none
  | _ => return none

/-- The value of a scalar that is an operand. -/
def scalarValue (sketch : Sketch) : Operand → Emitting Float
  | .scalar slot => sketch.store.valueAt slot
  | .view _ => arithmeticFault .arguments

/-- Emit a relation between two lines. -/
def emitLinePair (sketch : Sketch) (dragFixed : Bool) (first second : Operand)
    (call : Nat → Nat → Emitting SolverCall) : Emitting Unit := do
  let first ← sketch.emitLine dragFixed first
  let second ← sketch.emitLine dragFixed second
  Emitting.emit (← call first second)

/-- Emit a constraint; whether there is a call for its kind. -/
def emitConstraint (sketch : Sketch) (dragFixed : Bool) (c : Constraint) : Emitting Bool := do
  match BuiltinKind.ofName? c.kind, c.operands with
  | some .coincident, [p, q] =>
    let first ← sketch.emitPoint dragFixed p
    Emitting.emit (.coincident first (← sketch.emitPoint dragFixed q))
    return true
  | some .pointDistance, [p, q, d] =>
    let first ← sketch.emitPoint dragFixed p
    let second ← sketch.emitPoint dragFixed q
    Emitting.emit (.distance first second (← sketch.scalarValue d))
    return true
  | some .pointOnLine, [p, l] =>
    let first ← sketch.emitPoint dragFixed p
    Emitting.emit (.coincident first (← sketch.emitLine dragFixed l))
    return true
  | some .pointOnCircle, [p, c] =>
    match ← sketch.emitCircle? dragFixed c with
    | some circle =>
      Emitting.emit (.coincident (← sketch.emitPoint dragFixed p) circle)
      return true
    | none => return false
  | some .parallel, [l, m] =>
    sketch.emitLinePair dragFixed l m fun first second => return .parallel first second
    return true
  | some .perpendicular, [l, m] =>
    sketch.emitLinePair dragFixed l m fun first second => return .perpendicular first second
    return true
  | some .lineAngle, [l, m, a] =>
    sketch.emitLinePair dragFixed l m fun first second => do
      return .angle first second ((← sketch.scalarValue a) * degreesPerRadian)
    return true
  | some .equalLength, [l, m] =>
    sketch.emitLinePair dragFixed l m fun first second =>
      return .lengthDifference first second 0.0
    return true
  | _, _ => return false

/-- Emit the hard ones among constraints in order; each with the number that the other solver gives
it, or without one if there is no call for it. -/
def emitConstraints (sketch : Sketch) (dragFixed : Bool) :
    List Constraint → Emitting (List (Nat × Option Nat))
  | [] => return []
  | c :: rest => do
    unless ← c.isHard do return ← sketch.emitConstraints dragFixed rest
    if ← sketch.emitConstraint dragFixed c then
      Emitting.countConstraint
      let handle := (← get).constraints
      return (c.id, some handle) :: (← sketch.emitConstraints dragFixed rest)
    else return (c.id, none) :: (← sketch.emitConstraints dragFixed rest)

end Sketch

/-- Choices for a cross-check: whether fixed points are held in place, and whether constraints
without a call are passed over. -/
structure ExchangeOptions where
  dragFixed : Bool
  skipUnsupported : Bool

/-- The outcome of a cross-check: the solved coordinates of the registered points, or the
identifiers of the constraints that failed. -/
inductive Verdict where
  | solved (coordinates : List (Nat × Float × Float))
  | failed (constraints : List Int)

/-- What a cross-check found, and the calls it made. -/
structure Exchange where
  verdict : Verdict
  freedom : Int
  unsupported : List Nat
  calls : Array SolverCall

/-- Whether a cross-check succeeded. -/
def Exchange.succeeded (exchange : Exchange) : Bool :=
  match exchange.verdict with
  | .solved _ => true
  | .failed _ => false

/-- The constraint that a number was given to, minus one if there is none. -/
def ownerOf (handles : List (Nat × Option Nat)) (handle : Int) : Int :=
  match handles.find? fun (_, own) => own.any fun (number : Nat) => (number : Int) = handle with
  | some (id, _) => id
  | none => -1

/-- The constraints that failure numbers stand for, ascending: minus one for a number that no
constraint of the sketch has, or if there are no numbers at all. -/
def failedConstraints (handles : List (Nat × Option Nat)) (failures : List Int) : List Int :=
  if failures.isEmpty then [-1] else ascendingTags (failures.map (ownerOf handles))

namespace Sketch

/-- The coordinates of the registered points in a reply. -/
def solvedPoints (sketch : Sketch) (emission : Emission) (reply : SolverReply) :
    Except Fault (List (Nat × Float × Float)) :=
  sketch.table.entries.filterMap (fun entry =>
    match entry.view.figure with
    | .point x y => some (entry.id, x, y)
    | _ => none) |>.mapM fun (id, x, y) => do
      let entity := (emission.points.lookup (x, y)).getD 0
      match reply.coordinates.lookup entity with
      | some coordinates => .ok (id, coordinates)
      | none => .ok (id, ← sketch.store.valueAt x, ← sketch.store.valueAt y)

/-- Emit all geometry and then all hard constraints. -/
def emitAll (sketch : Sketch) (dragFixed : Bool) : Emitting (List (Nat × Option Nat)) := do
  sketch.table.entries.forM (Emitting.geometry sketch.store dragFixed)
  sketch.emitConstraints dragFixed sketch.constraints

end Sketch

namespace Session

/-- Record what the other solver replied. -/
def noteReply (reply : SolverReply) (constraints : Nat) : Session Unit :=
  note .debug .exchange
    ("SolveSpace result=" ++ integerText reply.result ++ " failures=" ++
      integersText reply.failures ++ " dof=" ++ integerText reply.freedom ++ " constraints=" ++
      decimalText constraints)

/-- Cross-check the sketch with a solver that gives a reply. -/
def exchange (options : ExchangeOptions) (reply : SolverReply) : Session Exchange := do
  let sketch ← get
  let (handles, emission) ← (sketch.emitAll options.dragFixed).run .empty
  let unsupported := (handles.filter (·.2.isNone)).map (·.1)
  unless unsupported.isEmpty do
    note .info .exchange
      ("SolveSpace adapter skipped unsupported constraint(s): " ++ naturalsText unsupported)
  if !unsupported.isEmpty && !options.skipUnsupported then
    return ⟨.failed [], reply.freedom, unsupported, emission.calls⟩
  noteReply reply emission.constraints
  let calls := emission.calls.push .solve
  if reply.failures.isEmpty && reply.result = 0 then
    return ⟨.solved (← sketch.solvedPoints emission reply), reply.freedom, unsupported, calls⟩
  return ⟨.failed (failedConstraints handles reply.failures), reply.freedom, unsupported, calls⟩

end Session

end Drafting
