import Drafting.Number.Decimal
import Drafting.Text.Blank
import Drafting.Text.Digit

/-!
# Reading numbers from text

A number may stand between blanks, its digits may come from any script, and single underscores may
group them. Integers have a sign and digits; reals also have a point, an exponent, or one of the
words for infinity and for what is no number. Reading is exact: the decimal is rounded once.
-/

namespace Drafting

/-- Whether a character may surround a number. The information separators are blank elsewhere but
not here. -/
def isNumberBlank (c : Char) : Bool :=
  isBlank c && !(0x1c ≤ c.toNat && c.toNat ≤ 0x1f)

/-- A digit of any script as the digit of the same value in ASCII; other characters unchanged. -/
def asciiDigit (c : Char) : Char :=
  match digitValue? c with
  | some value => Char.ofNat ('0'.toNat + value)
  | none => c

/-- The text without grouping underscores; each has to stand between two digits. -/
def ungrouped (afterDigit : Bool) : List Char → Option (List Char)
  | [] => some []
  | '_' :: rest =>
    if afterDigit && (rest.head?.any Char.isDigit) then ungrouped false rest else none
  | c :: rest => (ungrouped c.isDigit rest).map (c :: ·)

/-- The characters of a number without surrounding blanks, foreign digits and underscores. -/
def numberCharacters (text : String) : Option (List Char) :=
  let inner := (text.toList.dropWhile isNumberBlank).reverse.dropWhile isNumberBlank
  ungrouped false (inner.reverse.map asciiDigit)

/-- Whether a number is negative, and what follows its sign. -/
def splitSign : List Char → Bool × List Char
  | '-' :: rest => (true, rest)
  | '+' :: rest => (false, rest)
  | rest => (false, rest)

/-- The natural number that a row of digits denotes. -/
def naturalOfDigits (digits : List Char) : Nat :=
  digits.foldl (fun value c => 10 * value + (c.toNat - '0'.toNat)) 0

/-- The most digits that the text of an integer may have. -/
def integerDigitLimit : Nat := 4300

/-- The sign and the digits of an integer, of which there is at least one. -/
def integerDigits? (text : String) : Option (Bool × List Char) :=
  match (numberCharacters text).map splitSign with
  | some (negative, digits) =>
    if digits.isEmpty || !digits.all Char.isDigit then none else some (negative, digits)
  | none => none

/-- An integer: a sign and at least one digit, but not too many. -/
def readInteger? (text : String) : Option Int :=
  match integerDigits? text with
  | some (negative, digits) =>
    if integerDigitLimit < digits.length then none
    else
      let magnitude : Int := naturalOfDigits digits
      some (if negative then -magnitude else magnitude)
  | none => none

/-- The number nearest to `± digits · 10 ^ exponent`. Beyond the range of numbers the power of ten
is not computed. -/
def floatOfDecimal (negative : Bool) (digits : Nat) (exponent : Int) : Float :=
  let position := (decimalLength digits : Int) + exponent
  if digits = 0 ∨ position < -330 then floatOfRatio negative 0 1
  else if 310 < position then floatOfRatio negative (twoTo 1024) 1
  else floatOfRatio negative (digits * tenTo exponent.toNat) (tenTo (-exponent).toNat)

/-- The exponent after the mantissa: nothing, or a mark, a sign and at least one digit. -/
def readExponent? : List Char → Option Int
  | [] => some 0
  | mark :: rest =>
    let (negative, digits) := splitSign rest
    if (mark = 'e' ∨ mark = 'E') ∧ !digits.isEmpty ∧ digits.all Char.isDigit then
      let magnitude : Int := naturalOfDigits digits
      some (if negative then -magnitude else magnitude)
    else none

/-- A mantissa with at least one digit, on either side of its point, and an exponent. -/
def readUnsigned? (negative : Bool) (cs : List Char) : Option Float :=
  let whole := cs.takeWhile Char.isDigit
  let afterWhole := cs.dropWhile Char.isDigit
  let (fraction, afterFraction) :=
    match afterWhole with
    | '.' :: rest => (rest.takeWhile Char.isDigit, rest.dropWhile Char.isDigit)
    | rest => ([], rest)
  if whole.isEmpty && fraction.isEmpty then none
  else
    (readExponent? afterFraction).map fun exponent =>
      floatOfDecimal negative (naturalOfDigits (whole ++ fraction)) (exponent - fraction.length)

/-- A real number, infinity or the word for what is no number. -/
def readFloat? (text : String) : Option Float :=
  match (numberCharacters text).map splitSign with
  | some (negative, cs) =>
    let word := String.ofList (cs.map Char.toLower)
    if word = "inf" ∨ word = "infinity" then
      some (if negative then -(1.0 / 0.0) else 1.0 / 0.0)
    else if word = "nan" then some (0.0 / 0.0)
    else readUnsigned? negative cs
  | none => none

end Drafting
