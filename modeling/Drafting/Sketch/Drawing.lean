import Drafting.Sketch.Constraining

/-!
# Drawing geometry

Adding a geometry finds the points it refers to, allocates its own block of slots in canonical
order, binds a view and registers it. An arc of any curve and an open spline get the constraint
that keeps their ends on the curve, under the next identifier and the same tag.
-/

namespace Drafting

/-- The point that a value names as an identifier or by itself; a view of a point has to belong to
this store. -/
def Sketch.findPoint (sketch : Sketch) (value : Value) : Except Fault View := do
  match value with
  | .view view =>
    if view.kind = .point then sketch.store.checkView view else registered value
  | _ => registered value
where
  /-- The registered view of a point. -/
  registered (id : Value) : Except Fault View := do
    let view ← sketch.table.get id
    if view.kind = .point then .ok view else throw (.notAPoint id view.kind)

/-- The coordinates of a spline: its poles, then its start and its end. -/
structure SplineCoordinates where
  poles : List (Value × Value)
  start : Value × Value
  finish : Value × Value

/-- Exactly two items. -/
def checkPair : List Value → Except Fault (Value × Value)
  | [x, y] => .ok (x, y)
  | items => .error (.notAPair items)

/-- An item of a sequence at one of its ends. -/
def endItem (value : Value) (choose : List Value → Option Value) : Except Fault Value :=
  match value with
  | .record _ => arithmeticFault .missingKey
  | value => do
    match choose (← value.toItems) with
    | some item => .ok item
    | none => arithmeticFault .emptySequence

/-- The coordinates of a spline whose start and end are its outermost poles unless they are given.
Every item has to be a sequence before any is counted. -/
def splineCoordinates (poles start finish : Value) : Except Fault SplineCoordinates := do
  let start ← match start with
    | .none => endItem poles List.head?
    | start => .ok start
  let finish ← match finish with
    | .none => endItem poles List.getLast?
    | finish => .ok finish
  let poles ← (← poles.toItems).mapM Value.toItems
  let start ← start.toItems
  let finish ← finish.toItems
  .ok ⟨← poles.mapM checkPair, ← checkPair start, ← checkPair finish⟩

/-- The values of a spline's block, in order. -/
def SplineCoordinates.values (c : SplineCoordinates) (weights knots : List Value) : List Value :=
  c.poles.flatMap (fun (x, y) => [x, y]) ++ weights ++ knots ++
    [c.start.1, c.start.2, c.finish.1, c.finish.2]

namespace Session

/-- The point that a value names. -/
def point (value : Value) : Session View := do (← get).findPoint value

/-- A block of new slots. -/
def allocateBlock (values : List Value) (fixed tag : Value) : Session (List Nat) :=
  onStore (·.pushAll values fixed tag)

/-- Bind a figure in the store. -/
def bind (figure : Figure) : Session View := do (← get).store.bind figure

/-- Register a view; its identifier. -/
def addView (view : View) (tag : Value) : Session Nat := do
  let (answer, table) := (← get).table.add view tag
  modify fun sketch => { sketch with table := table }
  let id ← answer
  noteTag .debug .geometry
    ("Registered geometry #" ++ decimalText id ++ " " ++ view.kind.bracketed) tag ""
  return id

/-- Bind and register a figure; its identifier. -/
def addFigure (figure : Figure) (tag : Value) : Session Nat := do addView (← bind figure) tag

/-- Register a figure and the constraint that rules it; the identifier of the figure. -/
def addRuled (figure : Figure) (rules : String) (tag : Value) : Session Nat := do
  let id ← addFigure figure tag
  discard (constrain (.text rules) [.int id] .standard tag)
  return id

/-- A slot of a block. -/
def blockSlot (block : List Nat) (place : Nat) : Int := block.getD place 0

/-- Add a point. -/
def addPoint (x y fixed tag : Value) : Session Nat := do
  let block ← allocateBlock [x, y] fixed tag
  addFigure (.point (blockSlot block 0) (blockSlot block 1)) tag

/-- Add a line between two points. -/
def addLine (start finish tag : Value) : Session Nat := do
  let start ← point start
  let finish ← point finish
  addFigure (.line start finish) tag

/-- Add a circle. -/
def addCircle (center radius fixed tag : Value) : Session Nat := do
  let center ← point center
  let block ← allocateBlock [radius] fixed tag
  addFigure (.circle center (blockSlot block 0)) tag

/-- Add an arc of a circle. -/
def addArc (center start finish startAngle endAngle radius fixed tag : Value) : Session Nat := do
  let center ← point center
  let start ← point start
  let finish ← point finish
  let block ← allocateBlock [startAngle, endAngle, radius] fixed tag
  addRuled
    (.arc center start finish (blockSlot block 0) (blockSlot block 1) (blockSlot block 2))
    "arc_rules" tag

/-- Add an ellipse. -/
def addEllipse (center focus minorRadius fixed tag : Value) : Session Nat := do
  let center ← point center
  let focus ← point focus
  let block ← allocateBlock [minorRadius] fixed tag
  addFigure (.ellipse center focus (blockSlot block 0)) tag

/-- Add an arc of an ellipse. -/
def addArcOfEllipse (center focus start finish startAngle endAngle minorRadius fixed tag : Value) :
    Session Nat := do
  let center ← point center
  let focus ← point focus
  let start ← point start
  let finish ← point finish
  let block ← allocateBlock [startAngle, endAngle, minorRadius] fixed tag
  addRuled
    (.arcOfEllipse center focus start finish (blockSlot block 0) (blockSlot block 1)
      (blockSlot block 2))
    "arc_of_ellipse_rules" tag

/-- Add a hyperbola. -/
def addHyperbola (center focus minorRadius fixed tag : Value) : Session Nat := do
  let center ← point center
  let focus ← point focus
  let block ← allocateBlock [minorRadius] fixed tag
  addFigure (.hyperbola center focus (blockSlot block 0)) tag

/-- Add an arc of a hyperbola. -/
def addArcOfHyperbola
    (center focus start finish startAngle endAngle minorRadius fixed tag : Value) :
    Session Nat := do
  let center ← point center
  let focus ← point focus
  let start ← point start
  let finish ← point finish
  let block ← allocateBlock [startAngle, endAngle, minorRadius] fixed tag
  addRuled
    (.arcOfHyperbola center focus start finish (blockSlot block 0) (blockSlot block 1)
      (blockSlot block 2))
    "arc_of_hyperbola_rules" tag

/-- Add a parabola. -/
def addParabola (vertex focus tag : Value) : Session Nat := do
  let vertex ← point vertex
  let focus ← point focus
  addFigure (.parabola vertex focus) tag

/-- Add an arc of a parabola. -/
def addArcOfParabola (vertex focus start finish startAngle endAngle fixed tag : Value) :
    Session Nat := do
  let vertex ← point vertex
  let focus ← point focus
  let start ← point start
  let finish ← point finish
  let block ← allocateBlock [startAngle, endAngle] fixed tag
  addRuled (.arcOfParabola vertex focus start finish (blockSlot block 0) (blockSlot block 1))
    "arc_of_parabola_rules" tag

/-- A point over two slots of a block, bound in the store. -/
def blockPoint (block : List Nat) (place : Nat) : Session Point := do
  let (x, y) := (blockSlot block place, blockSlot block (place + 1))
  return { x, y, binding := (← bind (.point x y)).binding }

/-- The slots of a block from a place on. -/
def blockSlots (block : List Nat) (place count : Nat) : List Int :=
  ((block.drop place).take count).map Int.ofNat

/-- Add a spline. An open spline is ruled by its ends, a periodic one is not. -/
def addSpline (poles weights knots multiplicities degree periodic start finish fixed tag : Value) :
    Session Nat := do
  discard
    (checkSplineCounts (← poles.count) (← weights.count) (← knots.count) (← multiplicities.count)
      degree)
  let coordinates ← splineCoordinates poles start finish
  let weights ← weights.toItems
  let knots ← knots.toItems
  let block ← allocateBlock (coordinates.values weights knots) fixed tag
  let count := coordinates.poles.length
  let poles ← (List.range count).mapM fun i => blockPoint block (2 * i)
  let weightPlace := 2 * count
  let knotPlace := weightPlace + weights.length
  let startPlace := knotPlace + knots.length
  let start ← blockPoint block startPlace
  let finish ← blockPoint block (startPlace + 2)
  let multiplicities ← multiplicities.toIntegers
  let degree ← degree.toInteger
  let periodic ← periodic.truth
  let spline : Spline :=
    { start, finish, poles
      weights := blockSlots block weightPlace weights.length
      knots := blockSlots block knotPlace knots.length
      multiplicities, degree, periodic }
  if periodic then addFigure (.bspline spline) tag
  else addRuled (.bspline spline) "bspline_end_rules" tag

/-- The value of a property of a geometry. -/
def valueOf (id name : Value) : Session Float := do
  let slot ← propertyIndex (← geometry id) name .none
  (← get).store.valueAt slot

/-- The coordinates of a point. -/
def pointCoordinates (value : Value) : Session (Float × Float) := do
  let view ← point value
  let store := (← get).store
  match view.figure with
  | .point x y => return (← store.valueAt x, ← store.valueAt y)
  | _ => arithmeticFault (.notPoint view.kind)

/-- Remove all constraints and geometry with a tag and retire the slots allocated with it. The
constraints go before the tag is read as an integer, the geometry after; the identifiers of the
removed constraints. -/
def removeTag (tag : Value) : Session (List Nat) := do
  let removed ← (← get).constraints.filterM fun c => tag.equalsInteger c.tag
  let ids := removed.map (·.id)
  modify fun sketch =>
    { sketch with constraints := sketch.constraints.filter fun c => !ids.contains c.id }
  let retired ← retire tag
  noteTag .info .constraints
    ("Removed " ++ decimalText removed.length ++ " constraint(s) and retired " ++
      decimalText retired.length ++ " parameter(s) with") tag ""
  let (_, table) ← (← get).table.removeTag tag
  modify fun sketch => { sketch with table := table }
  return ids

/-- Drop everything but the kinds and the options. The sequence of identifiers goes on. -/
def clear : Session Unit := do
  let sketch ← get
  note .info .sketch
    ("Clearing sketch: " ++ decimalText sketch.store.size ++ " parameter(s), " ++
      decimalText sketch.table.entries.length ++ " geometry(ies), " ++
      decimalText sketch.constraints.length ++ " constraint(s)")
  modify fun sketch =>
    { sketch with constraints := [], names := [], table := sketch.table.clear }
  clearStore
  modify fun sketch => { sketch with attempt := none }

end Session

end Drafting
