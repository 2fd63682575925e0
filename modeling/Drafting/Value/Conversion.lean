import Drafting.Fault
import Drafting.Number.Reading

/-!
# Conversions of values

A real is expected of a coordinate, an integer of a tag, a truth value of a flag, a key of an
identifier, a sequence of a list of poles. Each conversion says which values it takes and what it
refuses the others for.
-/

namespace Drafting

/-- Refuse for a cause below the rules of this library. -/
def arithmeticFault (cause : ArithmeticFault) : Except Fault α := .error (.arithmetic cause)

/-- The number nearest to an integer, if it is not beyond the largest number. -/
def realOfInteger (n : Int) : Except Fault Float :=
  let x := floatOfInteger n
  if x.isFinite then .ok x else arithmeticFault .integerTooLarge

/-- The integer part of a number. -/
def integerPart (x : Float) : Except Fault Int :=
  match BinaryFloat.ofFloat? x with
  | some parts =>
    let magnitude : Int := parts.ratio.1 / parts.ratio.2
    .ok (if parts.negative then -magnitude else magnitude)
  | none => arithmeticFault (if x.isNaN then .noIntegerPart else .infiniteIntegerPart)

namespace Value

/-- A number, a truth value or a text as a real. -/
def toReal : Value → Except Fault Float
  | float x | entry x | array [] [x] => .ok x
  | int n => realOfInteger n
  | bool b => .ok (if b then 1.0 else 0.0)
  | text s =>
    match readFloat? s with
    | some x => .ok x
    | Option.none => arithmeticFault (.unreadableReal s)
  | value => arithmeticFault (.notReal value)

/-- The refusal of a text that is not read as an integer. -/
def refuseInteger (text : String) : Except Fault α :=
  match integerDigits? text with
  | some (_, digits) => arithmeticFault (.integerTooLong digits.length)
  | Option.none => arithmeticFault (.unreadableInteger text)

/-- A number, a truth value or a text as an integer; reals lose their fraction. -/
def toInteger : Value → Except Fault Int
  | int n => .ok n
  | bool b => .ok (if b then 1 else 0)
  | float x | entry x | array [] [x] => integerPart x
  | text s =>
    match readInteger? s with
    | some n => .ok n
    | Option.none => refuseInteger s
  | value => arithmeticFault (.notInteger value)

/-- An integer as a record shows it. A text is none, even where it reads as one. -/
def toNumeral : Value → Except Fault String
  | text _ => arithmeticFault .textInRecord
  | value => value.toInteger.map integerText

/-- Whether a value counts as true: nothing, zero and whatever is empty do not. An array tells only
if it has a single entry. -/
def truth : Value → Except Fault Bool
  | none => .ok false
  | bool b => .ok b
  | int n => .ok (n != 0)
  | float x | entry x => .ok (x != 0)
  | text s => .ok !s.isEmpty
  | list items => .ok !items.isEmpty
  | tuple items => .ok !items.isEmpty
  | array _ [x] => .ok (x != 0)
  | array _ entries => arithmeticFault (.ambiguousTruth entries.length)
  | record entries => .ok !entries.isEmpty
  | _ => .ok true

mutual

/-- The first part of a value for which it cannot be looked up: a list, an array or a record. -/
def keyObstacle? : Value → Option Value
  | list items => some (list items)
  | array counts entries => some (array counts entries)
  | record entries => some (record entries)
  | tuple items => firstObstacle? items
  | literal value => value.keyObstacle?
  | parameter name => name.keyObstacle?
  | property geometry name => geometry.keyObstacle? <|> name.keyObstacle?
  | _ => Option.none

/-- The first obstacle among several values. -/
def firstObstacle? : List Value → Option Value
  | [] => Option.none
  | item :: rest => item.keyObstacle? <|> firstObstacle? rest

end

/-- A value can be looked up unless it is or holds a list, an array or a record. -/
def checkKey (value : Value) : Except Fault Unit :=
  match value.keyObstacle? with
  | some obstacle => arithmeticFault (.notKey obstacle)
  | Option.none => .ok ()

/-- The integer that a number equals, if it equals one. -/
def integerOfReal? (x : Float) : Option Int :=
  match BinaryFloat.ofFloat? x with
  | some parts =>
    if parts.ratio.1 % parts.ratio.2 = 0 then
      let magnitude : Int := parts.ratio.1 / parts.ratio.2
      some (if parts.negative then -magnitude else magnitude)
    else Option.none
  | Option.none => Option.none

/-- The integer that a key equals, if it equals one. -/
def integerKey? : Value → Option Int
  | int n => some n
  | bool b => some (if b then 1 else 0)
  | float x | entry x => integerOfReal? x
  | _ => Option.none

/-- Look a key up among integers: a value that can be no key is refused, and a key that equals no
integer is not found. -/
def lookup (value : Value) (find? : Int → Option α) : Except Fault (Option α) := do
  value.checkKey
  .ok (value.integerKey?.bind find?)

/-- An array is compared entry by entry, which says whether it differs as a whole only if it has a
single entry. -/
def checkComparable : Value → Except Fault Unit
  | array _ [_] => .ok ()
  | array _ entries => arithmeticFault (.ambiguousTruth entries.length)
  | _ => .ok ()

/-- Whether a value equals an integer. An array tells only if it has a single entry. -/
def equalsInteger (value : Value) (n : Int) : Except Fault Bool :=
  match value with
  | array _ [x] => .ok (integerOfReal? x = some n)
  | value => do
    value.checkComparable
    .ok (value.integerKey? = some n)

/-- The characters of a text as texts of their own. -/
def characters (s : String) : List Value := s.toList.map fun c => .text (String.ofList [c])

/-- The rows of an array: its entries if it has one dimension. -/
def arrayRows : List Nat → List Float → Option (List Value)
  | [], _ => Option.none
  | [_], entries => some (entries.map .entry)
  | count :: inner, entries =>
    some ((pieces (inner.foldl (· * ·) 1) count entries).map (.array inner))

/-- The items of a sequence. -/
def items? : Value → Option (List Value)
  | list items => some items
  | tuple items => some items
  | text s => some (characters s)
  | array counts entries => arrayRows counts entries
  | record entries => some (entries.map fun (key, _) => .text key)
  | _ => Option.none

/-- The items of a sequence, or the refusal of what is none. -/
def toItems (value : Value) : Except Fault (List Value) :=
  match value.items? with
  | some items => .ok items
  | Option.none => arithmeticFault (.notSequence value)

/-- The items of a sequence as integers. -/
def toIntegers (value : Value) : Except Fault (List Int) := do
  (← value.toItems).mapM toInteger

/-- The count of items of a sequence, or the refusal of what has none. -/
def count (value : Value) : Except Fault Nat :=
  match value.items? with
  | some items => .ok items.length
  | Option.none => arithmeticFault (.noLength value)

/-- The counts of nested rows, given those of each row: all have to agree. -/
def rowCounts? : List (List Nat) → Option (List Nat)
  | [] => some [0]
  | first :: rest => if rest.all (· = first) then some ((rest.length + 1) :: first) else Option.none

mutual

/-- The counts of nested lists as an array, if rows at one level have the same length. -/
def counts? : Value → Option (List Nat)
  | list items => (countsAll? items).bind rowCounts?
  | tuple items => (countsAll? items).bind rowCounts?
  | array counts _ => some counts
  | _ => some []

/-- The counts of several values. -/
def countsAll? : List Value → Option (List (List Nat))
  | [] => some []
  | item :: rest => do some ((← item.counts?) :: (← countsAll? rest))

end

mutual

/-- The numbers in nested lists, from the first to the last. Nothing counts as what is no number. -/
def entries : Value → Except Fault (List Float)
  | none => .ok [0.0 / 0.0]
  | list items => entriesAll items
  | tuple items => entriesAll items
  | array _ entries => .ok entries
  | value => do .ok [← value.toReal]

/-- The numbers in several values. -/
def entriesAll : List Value → Except Fault (List Float)
  | [] => .ok []
  | item :: rest => do
    let first ← item.entries
    .ok (first ++ (← entriesAll rest))

end

/-- Nested lists as an array: its counts and its entries. Uneven rows are refused before any number
is read. -/
def toArray (value : Value) : Except Fault (List Nat × List Float) :=
  match value.counts? with
  | some counts => do .ok (counts, ← value.entries)
  | Option.none => arithmeticFault .unevenRows

end Value

end Drafting
