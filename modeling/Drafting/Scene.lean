import Drafting.Sketch.Drawing

/-!
# Scenes

A few small sketches that show what the library does, each under a name and with a line about it.
-/

namespace Drafting

/-- A scene. -/
inductive Scene where
  | coincident
  | triangle
  | arc
  | tangent
  | conflicting
  | redundant
  | drag
deriving Repr, DecidableEq

namespace Scene

/-- Every scene, in the order in which they are listed. -/
def all : List Scene := [coincident, triangle, arc, tangent, conflicting, redundant, drag]

/-- The name of a scene. -/
def name : Scene → String
  | coincident => "coincident"
  | triangle => "triangle"
  | arc => "arc"
  | tangent => "tangent"
  | conflicting => "conflicting"
  | redundant => "redundant"
  | drag => "drag"

/-- The line about a scene. -/
def summary : Scene → String
  | coincident => "Two free points pulled together."
  | triangle => "3-4-5 right triangle anchored at the origin."
  | arc => "Quarter arc of radius 5 with its start on the x axis."
  | tangent => "Circle kept tangent to a horizontal line."
  | conflicting => "Same point pair asked to be 3 and 4 apart; tags 1 and 2."
  | redundant => "Horizontality stated twice; the second copy is tag 2."
  | drag => "Point on a fixed circle, dragged towards (10, 10)."

/-- The scene with a name. -/
def ofName? (text : String) : Option Scene := all.find? fun scene => scene.name == text

/-- The scene that a value names. -/
def parse (value : Value) : Except Fault Scene :=
  match value with
  | .text s =>
    match ofName? s with
    | some scene => .ok scene
    | none => .error (.unknownScene value (all.map name))
  | value => do
    value.checkKey
    throw (.unknownScene value (all.map name))

/-- A point at two coordinates; its identifier. -/
def pointAt (x y : Float) (fixed : Bool) : Session Value := do
  return .int (← Session.addPoint (.float x) (.float y) (.bool fixed) (.int 0))

/-- A line between two points; its identifier. -/
def lineFrom (start finish : Value) : Session Value := do
  return .int (← Session.addLine start finish (.int 0))

/-- Add a constraint that has to hold. -/
def require (kind : String) (operands : List Value) (tag : Int) : Session Unit :=
  discard (Session.constrain (.text kind) operands .standard (.int tag))

/-- Add a temporary constraint. -/
def wish (kind : String) (operands : List Value) (tag : Int) : Session Unit :=
  discard
    (Session.constrain (.text kind) operands
      { Modifiers.standard with temporary := .bool true } (.int tag))

/-- Draw the triangle. The hypotenuse is measured and does not drive. -/
def drawTriangle : Session Unit := do
  let a ← pointAt 0.0 0.0 true
  let b ← pointAt 2.5 0.3 false
  let c ← pointAt 0.4 3.5 false
  let ab ← lineFrom a b
  let ac ← lineFrom a c
  discard (lineFrom b c)
  require "horizontal_line" [ab] 0
  require "perpendicular" [ab, ac] 0
  require "p2p_distance" [a, b, .float 3.0] 0
  require "p2p_distance" [a, c, .float 4.0] 0
  discard
    (Session.constrain (.text "p2p_distance") [b, c, .float 0.0]
      { Modifiers.standard with driving := .bool false } (.int 0))

/-- Draw the quarter arc. -/
def drawArc : Session Unit := do
  let center ← pointAt 0.0 0.0 true
  let start ← pointAt 4.0 1.0 false
  let finish ← pointAt 0.5 4.5 false
  let arc ←
    Session.addArc center start finish (.float 0.1) (.float 1.4) (.float 4.0) (.bool false)
      (.int 0)
  require "circle_radius" [.int arc, .float 5.0] 0
  require "coordinate_y" [start, .float 0.0] 0
  require "arc_length" [.int arc, .float (5.0 * 3.141592653589793 / 2.0)] 0

/-- Draw a scene. -/
def draw : Scene → Session Unit
  | coincident => do
    let a ← pointAt 10.0 10.0 false
    let b ← pointAt 20.0 20.0 false
    require "p2p_coincident" [a, b] 0
  | triangle => drawTriangle
  | arc => drawArc
  | tangent => do
    let start ← pointAt (-5.0) 0.0 true
    let finish ← pointAt 5.0 0.0 true
    let line ← lineFrom start finish
    let center ← pointAt 1.0 3.0 false
    let circle ← Session.addCircle center (.float 2.0) (.bool false) (.int 0)
    require "coordinate_x" [center, .float 1.0] 0
    require "tangent_line_circle" [line, .int circle] 0
  | conflicting => do
    let a ← pointAt 0.0 0.0 true
    let b ← pointAt 3.0 0.0 false
    require "coordinate_y" [b, .float 0.0] 0
    require "p2p_distance" [a, b, .float 3.0] 1
    require "p2p_distance" [a, b, .float 4.0] 2
  | redundant => do
    let a ← pointAt 0.0 0.0 true
    let b ← pointAt 4.0 1.0 false
    let line ← lineFrom a b
    require "horizontal_line" [line] 1
    require "horizontal_points" [a, b] 2
  | drag => do
    let center ← pointAt 0.0 0.0 true
    let circle ← Session.addCircle center (.float 5.0) (.bool true) (.int 0)
    let p ← pointAt 5.0 0.0 false
    require "point_on_circle" [p, .int circle] 0
    wish "coordinate_x" [p, .float 10.0] 9
    wish "coordinate_y" [p, .float 10.0] 9

/-- The sketch of a scene. -/
def build (scene : Scene) (identity : Nat) (options : SolveOptions) :
    Except Fault Sketch :=
  match scene.draw.run (.empty identity options) with
  | (.ok (), sketch) => .ok sketch
  | (.error fault, _) => .error fault

end Scene

end Drafting
