import Drafting.Number.Notation

/-!
# Written forms of arrays

The entries of an array are aligned at their points. One layout serves all entries: it is
positional, or has an exponent if the entries are large, small, or far apart. Each entry has the
fewest digits that read back, but never more than the precision asks for. Rows are broken at the
line width. Of a large array only the items at both ends of every axis are shown, and these alone
decide on the layout.
-/

namespace Drafting

/-- How an array is written. -/
structure ArrayStyle where
  /-- The greatest count of digits after the point. -/
  precision : Nat
  /-- The length at which a row is broken. -/
  lineWidth : Nat
  /-- The width of what stands in front of the array on its first line. -/
  indent : Nat
  /-- What stands between two entries. -/
  separator : String

/-- The parts of one finite entry: sign and whole digits, fraction, exponent. -/
structure EntryParts where
  whole : String
  fraction : String
  exponent : Int

/-- The digits of a nonzero entry, cut to `limit` digits after the point; with an exponent, the
point stands after the first digit. -/
def cutDigits (x : BinaryFloat) (limit : Nat) (exponential : Bool) : Decimal :=
  let shortest := x.shortest
  let places : Int :=
    if exponential then decimalLength shortest.digits - 1 else -shortest.exponent
  if places ≤ limit then shortest
  else
    let (num, den) := x.ratio
    let cut := if exponential then Decimal.significant num den limit
      else Decimal.atPlaces num den limit
    cut.trimmed (decimalLength cut.digits)

/-- The parts of one finite entry. -/
def entryParts (x : BinaryFloat) (limit : Nat) (exponential : Bool) : EntryParts :=
  let sign := if x.negative then "-" else ""
  let decimal : Decimal := if x.significand = 0 then ⟨0, 0⟩ else cutDigits x limit exponential
  if exponential then
    match Nat.toDigits 10 decimal.digits with
    | [] => ⟨sign, "", 0⟩
    | first :: rest =>
      ⟨sign ++ String.ofList [first], String.ofList rest,
        if decimal.digits = 0 then 0 else decimal.leading⟩
  else
    let places := (-decimal.exponent).toNat
    let scaled := decimal.digits * tenTo decimal.exponent.toNat
    ⟨sign ++ decimalText (scaled / tenTo places),
      if places = 0 ∨ decimal.digits = 0 then ""
      else zeroPadded places (decimalText (scaled % tenTo places)), 0⟩

/-- The layout that all entries of one array share. -/
structure ArrayLayout where
  exponential : Bool
  limit : Nat
  left : Nat
  right : Nat
  exponentWidth : Nat

/-- The greatest of some naturals, at least zero. -/
def greatest (values : List Nat) : Nat := values.foldl max 0

/-- `text` with spaces in front up to `width` characters. -/
def padLeft (width : Nat) (text : String) : String :=
  String.ofList (List.replicate (width - text.length) ' ') ++ text

/-- `text` with spaces behind up to `width` characters. -/
def padRight (width : Nat) (text : String) : String :=
  text ++ String.ofList (List.replicate (width - text.length) ' ')

/-- `text` with zeros behind up to `width` characters. -/
def zeroFilled (width : Nat) (text : String) : String :=
  text ++ String.ofList (List.replicate (width - text.length) '0')

/-- Whether an exponent is written: a magnitude reaches 1e8 or lies below 1e-4, or two magnitudes
differ by a factor above 1000. -/
def needsExponent (finite : List Float) : Bool :=
  match (finite.filter (· != 0)).map Float.abs with
  | [] => false
  | first :: rest =>
    let high := rest.foldl (fun a b => if a < b then b else a) first
    let low := rest.foldl (fun a b => if b < a then b else a) first
    high ≥ 1e8 || low < 0.0001 || high / low > 1000.0

/-- The layout for some entries. -/
def ArrayLayout.of (precision : Nat) (entries : List Float) : ArrayLayout :=
  let finite := entries.filter Float.isFinite
  let exponential := needsExponent finite
  let parts := (finite.filterMap BinaryFloat.ofFloat?).map (entryParts · precision exponential)
  let fraction := greatest (parts.map (·.fraction.length))
  let whole := greatest (parts.map (·.whole.length))
  let exponentWidth := greatest (parts.map fun p => (exponentText 2 p.exponent).length - 2)
  let right := if exponential then exponentWidth + 2 + fraction else fraction
  let negativeInfinity := entries.any fun x => x.isInf && x < 0
  let left :=
    if finite.length = entries.length then whole
    else max whole ((if negativeInfinity then 4 else 3) - (right + 1))
  { exponential, limit := if exponential then fraction else precision, left, right, exponentWidth }

/-- One entry in the layout of its array. -/
def ArrayLayout.entryText (layout : ArrayLayout) (x : Float) : String :=
  match BinaryFloat.ofFloat? x with
  | none =>
    padLeft (layout.left + layout.right + 1)
      (if x.isNaN then "nan" else if x < 0 then "-inf" else "inf")
  | some parts =>
    let entry := entryParts parts layout.limit layout.exponential
    if layout.exponential then
      padLeft layout.left entry.whole ++ "." ++ zeroFilled layout.limit entry.fraction ++
        exponentText layout.exponentWidth entry.exponent
    else padLeft layout.left entry.whole ++ "." ++ padRight layout.right entry.fraction

/-- Words of one row put on lines. `done` are finished lines, `line` is the open one. -/
def breakRow (separator : String) (width : Nat) (indent : String) :
    List String → (done line : String) → String
  | [], done, line => done ++ line
  | word :: rest, done, line =>
    let breaks := width < line.length + word.length && indent.length < line.length
    let (done, line) :=
      if breaks then (done ++ line.trimAsciiEnd.toString ++ "\n", indent) else (done, line)
    breakRow separator width indent rest done
      (line ++ word ++ if rest.isEmpty then "" else separator)

/-- A list cut into pieces of one length. -/
def pieces (size : Nat) : Nat → List α → List (List α)
  | 0, _ => []
  | count + 1, values => values.take size :: pieces size count (values.drop size)

/-- Arrays of more entries are abridged. -/
def abridgedAbove : Nat := 1000

/-- How many items an abridged axis shows at each end. -/
def edgeItems : Nat := 3

/-- The first and the last items of a long list, or all of a short one. -/
def edges (items : List α) : List α :=
  if items.length ≤ 2 * edgeItems then items
  else items.take edgeItems ++ items.drop (items.length - edgeItems)

/-- Words, or those at both ends with an ellipsis between them. -/
def abridgedWords (abridge : Bool) (words : List String) : List String :=
  if abridge && 2 * edgeItems < words.length then
    words.take edgeItems ++ "..." :: words.drop (words.length - edgeItems)
  else words

/-- The entries at both ends of every axis. -/
def edgeEntries : List Nat → List Float → List Float
  | [], entries => entries
  | count :: inner, entries =>
    ((edges (pieces (inner.foldl (· * ·) 1) count entries)).map (edgeEntries inner)).flatten

/-- How the entries of one array are put together. -/
structure ArrayFrame where
  layout : ArrayLayout
  separator : String
  abridge : Bool

/-- The nested brackets of an array, each level indented by one more space. -/
def ArrayFrame.nestedText (frame : ArrayFrame) (width : Nat) (indent : String) :
    List Nat → List Float → String
  | [], entries => (entries.map frame.layout.entryText).foldl (· ++ ·) ""
  | [_], entries =>
    let words := abridgedWords frame.abridge (entries.map frame.layout.entryText)
    let row := breakRow frame.separator (width - 1) indent words "" indent
    "[" ++ String.ofList (row.toList.drop indent.length) ++ "]"
  | count :: inner, entries =>
    let size := inner.foldl (· * ·) 1
    let separator :=
      frame.separator.trimAsciiEnd.toString ++ String.ofList (List.replicate inner.length '\n')
    let rows := (pieces size count entries).map
      (frame.nestedText (width - 1) (indent ++ " ") inner)
    "[" ++ (separator ++ indent).intercalate (abridgedWords frame.abridge rows) ++ "]"

/-- An array of the given shape, its entries listed row by row. -/
def ArrayStyle.text (style : ArrayStyle) (shape : List Nat) (entries : List Float) : String :=
  if entries.isEmpty then "[]"
  else
    let abridge := abridgedAbove < entries.length
    let seen := if abridge then edgeEntries shape entries else entries
    let frame : ArrayFrame := ⟨ArrayLayout.of style.precision seen, style.separator, abridge⟩
    frame.nestedText style.lineWidth
      (String.ofList (List.replicate (style.indent + 1) ' ')) shape entries

/-- A shape in round brackets; a single count is followed by a comma. -/
def shapeText (shape : List Nat) : String :=
  match shape with
  | [count] => "(" ++ decimalText count ++ ",)"
  | counts => "(" ++ ", ".intercalate (counts.map decimalText) ++ ")"

end Drafting
