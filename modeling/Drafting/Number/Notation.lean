import Drafting.Number.Decimal

/-!
# Written forms of numbers

Four forms are written: a fixed count of significant digits with an exponent, a fixed count of
decimal places, the general form that drops trailing zeros, and the shortest form that reads back.
One record, `NumberStyle`, states where the shortest form turns to an exponent.
-/

namespace Drafting

/-- `n` in decimal. -/
def decimalText (n : Nat) : String := String.ofList (Nat.toDigits 10 n)

/-- `text` with zeros in front up to `width` characters. -/
def zeroPadded (width : Nat) (text : String) : String :=
  String.ofList (List.replicate (width - text.length) '0') ++ text

/-- An exponent with its sign and at least `width` digits. -/
def exponentText (width : Nat) (exponent : Int) : String :=
  "e" ++ (if exponent < 0 then "-" else "+") ++
    zeroPadded width (decimalText exponent.natAbs)

/-- An integer in decimal. -/
def integerText (n : Int) : String :=
  (if n < 0 then "-" else "") ++ decimalText n.natAbs

namespace Decimal

/-- The digits with a point after the first one; no point if there is only one. -/
def mantissaText (d : Decimal) : String :=
  match Nat.toDigits 10 d.digits with
  | [] => ""
  | first :: [] => String.ofList [first]
  | first :: rest => String.ofList (first :: '.' :: rest)

/-- Mantissa and exponent. -/
def scientificText (d : Decimal) : String :=
  d.mantissaText ++ exponentText 2 d.leading

/-- The decimal with `places` digits after the point; its exponent is at least `-places`. -/
def positionalText (d : Decimal) (places : Nat) : String :=
  let scaled := d.digits * tenTo (d.exponent + places).toNat
  if places = 0 then decimalText scaled
  else
    decimalText (scaled / tenTo places) ++ "." ++
      zeroPadded places (decimalText (scaled % tenTo places))

end Decimal

/-- How the shortest form is laid out. -/
structure NumberStyle where
  /-- From this leading position on, an exponent is written. -/
  exponentFrom : Int
  /-- Below this leading position, an exponent is written. -/
  exponentBelow : Int
  /-- Whether an integer written without exponent ends in `.0`. -/
  pointZero : Bool

/-- Values in messages: positional from 1e-4 up to below 1e16, and always with a point. -/
def NumberStyle.message : NumberStyle := ⟨16, -4, true⟩

/-- The sign of a number, its magnitude written by `finite`, and the words for the numbers that
have no digits. -/
def signedText (x : Float) (finite : BinaryFloat → String) : String :=
  match BinaryFloat.ofFloat? x with
  | some parts => (if parts.negative then "-" else "") ++ finite parts
  | none => if x.isNaN then "nan" else if x < 0 then "-inf" else "inf"

/-- The shortest form that reads back. -/
def NumberStyle.text (style : NumberStyle) (x : Float) : String :=
  signedText x fun parts =>
    if parts.significand = 0 then if style.pointZero then "0.0" else "0"
    else
      let decimal := parts.shortest
      if style.exponentFrom ≤ decimal.leading ∨ decimal.leading < style.exponentBelow then
        decimal.scientificText
      else if 0 ≤ decimal.exponent then
        decimal.positionalText 0 ++ if style.pointZero then ".0" else ""
      else decimal.positionalText (-decimal.exponent).toNat

/-- One digit before the point and `places` after it, with an exponent. -/
def scientificText (places : Nat) (x : Float) : String :=
  signedText x fun parts =>
    let decimal : Decimal :=
      if parts.significand = 0 then ⟨0, 0⟩
      else Decimal.significant parts.ratio.1 parts.ratio.2 places
    if parts.significand = 0 then
      zeroPadded 1 "0" ++ (if places = 0 then "" else "." ++ zeroPadded places "") ++
        exponentText 2 0
    else decimal.scientificText

/-- `places` digits after the point. -/
def fixedText (places : Nat) (x : Float) : String :=
  signedText x fun parts =>
    (Decimal.atPlaces parts.ratio.1 parts.ratio.2 places).positionalText places

/-- `precision` significant digits without trailing zeros; an exponent is written below 1e-4 and
from `10 ^ precision` on. -/
def generalText (precision : Nat) (x : Float) : String :=
  signedText x fun parts =>
    if parts.significand = 0 then "0"
    else
      let rounded := Decimal.significant parts.ratio.1 parts.ratio.2 (precision - 1)
      let decimal := rounded.trimmed precision
      if decimal.leading < -4 ∨ (precision : Int) ≤ decimal.leading then decimal.scientificText
      else if 0 ≤ decimal.exponent then decimal.positionalText 0
      else decimal.positionalText (-decimal.exponent).toNat

end Drafting
