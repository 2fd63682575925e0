import Drafting.Geometry.View
import Drafting.Number.ArrayText
import Drafting.Text.Quoted

/-!
# Values that callers hand in

The arguments of a request are not typed: a coordinate may arrive as an integer, a real or a text,
an operand as an identifier, a literal, a name, a property of a geometry or a view. `Value` holds
whatever arrived. Every value has a written form, which messages quote, and a shown form, which is
the text itself for a text and in most other cases the written form.
-/

namespace Drafting

/-- An argument of a request. -/
inductive Value where
  | none
  | bool (b : Bool)
  | int (n : Int)
  | float (x : Float)
  /-- A number that stood in an array. -/
  | entry (x : Float)
  | text (s : String)
  | list (items : List Value)
  | tuple (items : List Value)
  | array (shape : List Nat) (entries : List Float)
  | record (entries : List (String × Value))
  | literal (value : Value)
  | parameter (name : Value)
  | property (geometry name : Value)
  | view (v : View)
  | shape (s : SplineShape)

/-- Arrays inside messages: eight digits after the point, behind the word that opens them. -/
def ArrayStyle.message : ArrayStyle := ⟨8, 74, 6, ", "⟩

/-- Arrays that stand for themselves: eight digits after the point, nothing but space between. -/
def ArrayStyle.plain : ArrayStyle := ⟨8, 75, 0, " "⟩

/-- A truth value as a word. -/
def boolText (b : Bool) : String := if b then "True" else "False"

/-- Words in round brackets; a single word is followed by a comma. -/
def tupleText : List String → String
  | [word] => "(" ++ word ++ ",)"
  | words => "(" ++ ", ".intercalate words ++ ")"

/-- A name with its fields in round brackets. -/
def fieldsText (name : String) (fields : List (String × String)) : String :=
  name ++ "(" ++ ", ".intercalate (fields.map fun (key, text) => key ++ "=" ++ text) ++ ")"

/-- The written form of a point. -/
def Point.text (p : Point) : String :=
  fieldsText "Point" [("x", integerText p.x), ("y", integerText p.y)]

/-- The written form of layout counts. -/
def SplineShape.text (s : SplineShape) : String :=
  fieldsText "BSplineShape"
    [("num_control_points", integerText s.poles), ("num_weights", integerText s.weights),
      ("num_knots", integerText s.knots)]

/-- The written form of layout counts that may be absent. -/
def optionalShapeText : Option SplineShape → String
  | some s => s.text
  | Option.none => "None"

mutual

/-- The written form of a figure. -/
def Figure.text : Figure → String
  | .point x y => Point.text ⟨x, y, none⟩
  | .line start finish => fieldsText "Line" [("p1", start.text), ("p2", finish.text)]
  | .circle center radius =>
    fieldsText "Circle" [("center", center.text), ("radius", integerText radius)]
  | .arc center start finish startAngle endAngle radius =>
    fieldsText "Arc"
      [("center", center.text), ("start", start.text), ("end", finish.text),
        ("start_angle", integerText startAngle), ("end_angle", integerText endAngle),
        ("radius", integerText radius)]
  | .ellipse center focus minorRadius =>
    fieldsText "Ellipse"
      [("center", center.text), ("focus1", focus.text), ("radmin", integerText minorRadius)]
  | .arcOfEllipse center focus start finish startAngle endAngle minorRadius =>
    fieldsText "ArcOfEllipse"
      [("center", center.text), ("focus1", focus.text), ("start", start.text),
        ("end", finish.text), ("start_angle", integerText startAngle),
        ("end_angle", integerText endAngle), ("radmin", integerText minorRadius)]
  | .hyperbola center focus minorRadius =>
    fieldsText "Hyperbola"
      [("center", center.text), ("focus1", focus.text), ("radmin", integerText minorRadius)]
  | .arcOfHyperbola center focus start finish startAngle endAngle minorRadius =>
    fieldsText "ArcOfHyperbola"
      [("center", center.text), ("focus1", focus.text), ("start", start.text),
        ("end", finish.text), ("start_angle", integerText startAngle),
        ("end_angle", integerText endAngle), ("radmin", integerText minorRadius)]
  | .parabola vertex focus =>
    fieldsText "Parabola" [("vertex", vertex.text), ("focus1", focus.text)]
  | .arcOfParabola vertex focus start finish startAngle endAngle =>
    fieldsText "ArcOfParabola"
      [("vertex", vertex.text), ("focus1", focus.text), ("start", start.text),
        ("end", finish.text), ("start_angle", integerText startAngle),
        ("end_angle", integerText endAngle)]
  | .bspline s =>
    fieldsText "BSpline"
      [("start", s.start.text), ("end", s.finish.text),
        ("control_points", tupleText (s.poles.map Point.text)),
        ("weights", tupleText (s.weights.map integerText)),
        ("knots", tupleText (s.knots.map integerText)),
        ("multiplicities", tupleText (s.multiplicities.map integerText)),
        ("degree", integerText s.degree), ("periodic", boolText s.periodic)]

/-- The written form of a view. -/
def View.text : View → String
  | ⟨figure, _⟩ => figure.text

end

/-- The word for the type of a figure. -/
def Figure.typeName : Figure → String
  | .point .. => "Point"
  | .line .. => "Line"
  | .circle .. => "Circle"
  | .arc .. => "Arc"
  | .ellipse .. => "Ellipse"
  | .arcOfEllipse .. => "ArcOfEllipse"
  | .hyperbola .. => "Hyperbola"
  | .arcOfHyperbola .. => "ArcOfHyperbola"
  | .parabola .. => "Parabola"
  | .arcOfParabola .. => "ArcOfParabola"
  | .bspline .. => "BSpline"

namespace Value

/-- What is said about an array behind its entries: its shape where the entries do not show it, and
the type of its entries if it has none. -/
def arrayExtras (counts : List Nat) (entries : List Float) : List String :=
  (if entries.isEmpty && counts ≠ [0] || abridgedAbove < entries.length then
    ["shape=" ++ shapeText counts] else []) ++
  (if entries.isEmpty then ["dtype=float64"] else [])

/-- The written form of an array. What does not fit on the last line of the entries follows on a
line of its own. -/
def arrayText (counts : List Nat) (entries : List Float) : String :=
  let body := "array(" ++ ArrayStyle.message.text counts entries
  match arrayExtras counts entries with
  | [] => body ++ ")"
  | extras =>
    let extra := ", ".intercalate extras ++ ")"
    let lastLine := (body.toList.reverse.takeWhile (· ≠ '\n')).length + 1
    let gap := if 75 < lastLine + extra.length + 1 then "\n      " else " "
    body ++ "," ++ gap ++ extra

mutual

/-- The written form of a value. -/
def written : Value → String
  | none => "None"
  | bool b => boolText b
  | int n => integerText n
  | float x => NumberStyle.message.text x
  | entry x => "np.float64(" ++ NumberStyle.message.text x ++ ")"
  | text s => quoted s
  | list items => "[" ++ ", ".intercalate (writtenAll items) ++ "]"
  | tuple items => tupleText (writtenAll items)
  | array counts entries => arrayText counts entries
  | record entries => "\x7b" ++ ", ".intercalate (writtenEntries entries) ++ "\x7d"
  | literal value => fieldsText "Literal" [("value", value.written)]
  | parameter name => fieldsText "Param" [("name", name.written)]
  | property geometry name =>
    fieldsText "PropertyRef" [("geometry_id", geometry.written), ("property", name.written)]
  | view v => v.text
  | shape s => s.text

/-- The written forms of several values. -/
def writtenAll : List Value → List String
  | [] => []
  | value :: rest => value.written :: writtenAll rest

/-- The written forms of named values. -/
def writtenEntries : List (String × Value) → List String
  | [] => []
  | (key, value) :: rest => (quoted key ++ ": " ++ value.written) :: writtenEntries rest

end

/-- The text itself for a text, the bare entries of an array, and the written form of any other
value. -/
def shown : Value → String
  | text s => s
  | entry x | array [] [x] => NumberStyle.message.text x
  | array counts entries => ArrayStyle.plain.text counts entries
  | value => value.written

/-- The word for the type of a value. -/
def typeName : Value → String
  | none => "NoneType"
  | bool _ => "bool"
  | int _ => "int"
  | float _ => "float"
  | entry _ => "float64"
  | text _ => "str"
  | list _ => "list"
  | tuple _ => "tuple"
  | array .. => "ndarray"
  | record _ => "dict"
  | literal _ => "Literal"
  | parameter _ => "Param"
  | property .. => "PropertyRef"
  | view v => v.figure.typeName
  | shape _ => "BSplineShape"

end Value

end Drafting
