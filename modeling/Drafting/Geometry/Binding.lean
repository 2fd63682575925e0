import Drafting.Store

/-!
# Binding views to a store

A view is accepted by a store if every slot it refers to exists there and no part of it was bound
elsewhere: in another store, or in this one before it was cleared. Binding checks a figure and
stamps the view with the store and its generation. Where the views of a figure are given as values,
a part that was bound elsewhere is found before one that is no view. Nothing here allocates a slot.
-/

namespace Drafting

namespace Store

/-- Refuse a part that was bound in another store or an earlier generation. -/
def checkPart (store : Store) (part : View) : Except Fault Unit :=
  match part.binding with
  | none => .ok ()
  | some binding =>
    if binding = store.binding then .ok ()
    else .error (.foreignView (part.indices.headD (-1)) store.size part.kind)

/-- Accept a view if all its parts belong here and all its slots exist. -/
def checkView (store : Store) (view : View) : Except Fault View := do
  view.parts.forM store.checkPart
  view.indices.forM fun index => discard (store.checkIndex index)
  .ok view

/-- The view of a figure, bound in this store. -/
def bind (store : Store) (figure : Figure) : Except Fault View := do
  let view ← store.checkView ⟨figure, none⟩
  .ok { view with binding := some store.binding }

end Store

/-- The counts of a spline have to fit together, and its degree has to be positive; the degree. -/
def checkSplineCounts (poles weights knots multiplicities : Nat) (degree : Value) :
    Except Fault Int := do
  if poles < 2 then throw (.tooFewPoles poles)
  if weights ≠ poles then throw (.weightCount weights poles)
  if multiplicities ≠ knots then throw (.multiplicityCount multiplicities knots)
  let degreeNumber ← degree.toInteger
  if degreeNumber < 1 then throw (.degreeTooLow degree)
  .ok degreeNumber

namespace Value

/-- The view that a value is. -/
def toView : Value → Except Fault View
  | view v => .ok v
  | value => arithmeticFault (.notView value)

/-- The point that a value is a view of. -/
def toPoint : Value → Except Fault Point
  | view v =>
    match v.asPoint? with
    | some p => .ok p
    | Option.none => arithmeticFault (.notView (view v))
  | value => arithmeticFault (.notView value)

/-- The views that a value offers as parts: itself, or the views in a tuple. -/
def offeredViews : Value → List View
  | view v => [v]
  | tuple items => items.filterMap fun
    | view v => some v
    | _ => Option.none
  | _ => []

end Value

namespace Store

/-- Refuse parts that were bound elsewhere. This comes before a part that is no view is refused. -/
def checkOffered (store : Store) (parts : List Value) : Except Fault Unit :=
  (parts.flatMap Value.offeredViews).forM store.checkPart

/-- Accept a value that is a view. -/
def checkValue (store : Store) : Value → Except Fault View
  | .view view => store.checkView view
  | value =>
    match value with
    | .literal part | .parameter part => refuse value [part]
    | .property geometry name => refuse value [geometry, name]
    | .shape _ => refuse value []
    | value => arithmeticFault (.notSequence value)
where
  /-- A value with fields is refused for a field that was bound elsewhere, or for being no view. -/
  refuse (value : Value) (fields : List Value) : Except Fault View := do
    store.checkOffered fields
    arithmeticFault (.notView value)

/-- Bind a point. -/
def makePoint (store : Store) (x y : Value) : Except Fault View := do
  store.bind (.point (← x.toInteger) (← y.toInteger))

/-- Bind a line between two points. -/
def makeLine (store : Store) (start finish : Value) : Except Fault View := do
  store.checkOffered [start, finish]
  store.bind (.line (← start.toView) (← finish.toView))

/-- Bind a circle. -/
def makeCircle (store : Store) (center radius : Value) : Except Fault View := do
  let radius ← radius.toInteger
  store.checkOffered [center]
  store.bind (.circle (← center.toView) radius)

/-- Bind an arc of a circle. -/
def makeArc (store : Store) (center start finish startAngle endAngle radius : Value) :
    Except Fault View := do
  let startAngle ← startAngle.toInteger
  let endAngle ← endAngle.toInteger
  let radius ← radius.toInteger
  store.checkOffered [center, start, finish]
  store.bind
    (.arc (← center.toView) (← start.toView) (← finish.toView) startAngle endAngle radius)

/-- Bind an ellipse. -/
def makeEllipse (store : Store) (center focus minorRadius : Value) : Except Fault View := do
  let minorRadius ← minorRadius.toInteger
  store.checkOffered [center, focus]
  store.bind (.ellipse (← center.toView) (← focus.toView) minorRadius)

/-- Bind a hyperbola. -/
def makeHyperbola (store : Store) (center focus minorRadius : Value) : Except Fault View := do
  let minorRadius ← minorRadius.toInteger
  store.checkOffered [center, focus]
  store.bind (.hyperbola (← center.toView) (← focus.toView) minorRadius)

/-- Bind an arc of an ellipse. -/
def makeArcOfEllipse (store : Store)
    (center focus start finish startAngle endAngle minorRadius : Value) : Except Fault View := do
  let startAngle ← startAngle.toInteger
  let endAngle ← endAngle.toInteger
  let minorRadius ← minorRadius.toInteger
  store.checkOffered [center, focus, start, finish]
  store.bind
    (.arcOfEllipse (← center.toView) (← focus.toView) (← start.toView) (← finish.toView)
      startAngle endAngle minorRadius)

/-- Bind an arc of a hyperbola. -/
def makeArcOfHyperbola (store : Store)
    (center focus start finish startAngle endAngle minorRadius : Value) : Except Fault View := do
  let startAngle ← startAngle.toInteger
  let endAngle ← endAngle.toInteger
  let minorRadius ← minorRadius.toInteger
  store.checkOffered [center, focus, start, finish]
  store.bind
    (.arcOfHyperbola (← center.toView) (← focus.toView) (← start.toView) (← finish.toView)
      startAngle endAngle minorRadius)

/-- Bind a parabola. -/
def makeParabola (store : Store) (vertex focus : Value) : Except Fault View := do
  store.checkOffered [vertex, focus]
  store.bind (.parabola (← vertex.toView) (← focus.toView))

/-- Bind an arc of a parabola. -/
def makeArcOfParabola (store : Store) (vertex focus start finish startAngle endAngle : Value) :
    Except Fault View := do
  let startAngle ← startAngle.toInteger
  let endAngle ← endAngle.toInteger
  store.checkOffered [vertex, focus, start, finish]
  store.bind
    (.arcOfParabola (← vertex.toView) (← focus.toView) (← start.toView) (← finish.toView)
      startAngle endAngle)

/-- Bind a spline once its counts fit together. -/
def makeSpline (store : Store)
    (start finish poles weights knots multiplicities degree periodic : Value) :
    Except Fault View := do
  let degree ←
    checkSplineCounts (← poles.count) (← weights.count) (← knots.count) (← multiplicities.count)
      degree
  let poles ← poles.toItems
  let weights ← weights.toIntegers
  let knots ← knots.toIntegers
  let multiplicities ← multiplicities.toIntegers
  let periodic ← periodic.truth
  store.checkOffered [start, finish, .tuple poles]
  store.bind
    (.bspline
      { start := ← start.toPoint, finish := ← finish.toPoint, poles := ← poles.mapM Value.toPoint
        weights, knots, multiplicities, degree, periodic })

end Store

end Drafting
