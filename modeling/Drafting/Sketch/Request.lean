import Drafting.Sketch.Drawing
import Drafting.Sketch.Solving

/-!
# Requests

All that can be asked of a sketch, as data: what a session is made of is a list of requests, each
carried out on the sketch that the requests before it left, whether they were answered or refused.
-/

namespace Drafting

/-- What can be asked of a sketch. -/
inductive Request where
  | addParameter (name value fixed tag : Value)
  | parameter (name : Value)
  | addPoint (x y fixed tag : Value)
  | addLine (start finish tag : Value)
  | addCircle (center radius fixed tag : Value)
  | addArc (center start finish startAngle endAngle radius fixed tag : Value)
  | addEllipse (center focus minorRadius fixed tag : Value)
  | addArcOfEllipse (center focus start finish startAngle endAngle minorRadius fixed tag : Value)
  | addHyperbola (center focus minorRadius fixed tag : Value)
  | addArcOfHyperbola (center focus start finish startAngle endAngle minorRadius fixed tag : Value)
  | addParabola (vertex focus tag : Value)
  | addArcOfParabola (vertex focus start finish startAngle endAngle fixed tag : Value)
  | addSpline
    (poles weights knots multiplicities degree periodic start finish fixed tag : Value)
  | geometry (id : Value)
  | valueOf (id name : Value)
  | pointCoordinates (value : Value)
  | addConstraint (kind : Value) (operands : List Value) (driving temporary scale tag : Value)
  /-- A kind of constraint with a builder that is made for its count of rows. -/
  | registerKind (name : Value) (slots : List Value) (size : Value)
    (build : Nat → List Operand → Except Fault Block)
  | removeTag (tag : Value)
  | solve (backend : Backend) (algorithm : Value)
  | apply (bestEffort : Value)
  /-- What the last solve found about the constraints. -/
  | diagnosis
  | clear

/-- What a sketch answers. -/
inductive Answer where
  | done
  | id (id : Nat)
  | ids (ids : List Nat)
  | number (x : Float)
  | coordinates (x y : Float)
  | view (view : View)
  | flag (b : Bool)
  | status (status : SolveStatus)
  | diagnosis (diagnosis : Diagnosis)

namespace Request

/-- Carry out a request. -/
def perform : Request → Session Answer
  | addParameter name value fixed tag => return .id (← Session.addParameter name value fixed tag)
  | parameter name => return .number (← Session.parameter name)
  | addPoint x y fixed tag => return .id (← Session.addPoint x y fixed tag)
  | addLine start finish tag => return .id (← Session.addLine start finish tag)
  | addCircle center radius fixed tag => return .id (← Session.addCircle center radius fixed tag)
  | addArc center start finish startAngle endAngle radius fixed tag =>
    return .id (← Session.addArc center start finish startAngle endAngle radius fixed tag)
  | addEllipse center focus minorRadius fixed tag =>
    return .id (← Session.addEllipse center focus minorRadius fixed tag)
  | addArcOfEllipse center focus start finish startAngle endAngle minorRadius fixed tag =>
    return .id
      (← Session.addArcOfEllipse center focus start finish startAngle endAngle minorRadius fixed
        tag)
  | addHyperbola center focus minorRadius fixed tag =>
    return .id (← Session.addHyperbola center focus minorRadius fixed tag)
  | addArcOfHyperbola center focus start finish startAngle endAngle minorRadius fixed tag =>
    return .id
      (← Session.addArcOfHyperbola center focus start finish startAngle endAngle minorRadius fixed
        tag)
  | addParabola vertex focus tag => return .id (← Session.addParabola vertex focus tag)
  | addArcOfParabola vertex focus start finish startAngle endAngle fixed tag =>
    return .id
      (← Session.addArcOfParabola vertex focus start finish startAngle endAngle fixed tag)
  | addSpline poles weights knots multiplicities degree periodic start finish fixed tag =>
    return .id
      (← Session.addSpline poles weights knots multiplicities degree periodic start finish fixed
        tag)
  | geometry id => return .view (← Session.geometry id)
  | valueOf id name => return .number (← Session.valueOf id name)
  | pointCoordinates value => do
    let (x, y) ← Session.pointCoordinates value
    return .coordinates x y
  | addConstraint kind operands driving temporary scale tag =>
    return .id (← Session.addConstraint kind operands driving temporary scale tag)
  | registerKind name slots size build => do
    Session.registerKind name slots size build
    return .done
  | removeTag tag => return .ids (← Session.removeTag tag)
  | solve backend algorithm => return .status (← Session.solve backend algorithm)
  | apply bestEffort => return .flag (← Session.apply bestEffort)
  | diagnosis => return .diagnosis (← get).diagnosis
  | clear => do
    Session.clear
    return .done

end Request

namespace Sketch

/-- A new sketch, with what is to be kept in its journal. -/
def start (identity : Nat) (options : SolveOptions) (journal : Journal) : Sketch :=
  { empty identity options with journal }

/-- The sketch that a request leaves, answered or refused. -/
def after (sketch : Sketch) (request : Request) : Sketch := (request.perform.outcome sketch).2

/-- The sketch that requests leave, carried out one after the other. -/
def afterAll (sketch : Sketch) (requests : List Request) : Sketch := requests.foldl after sketch

end Sketch

end Drafting
