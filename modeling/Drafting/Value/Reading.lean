import Drafting.Number.Reading
import Drafting.Value

/-!
# Reading values

A value can be written as text: words for nothing and the truth values, numbers, texts between
quotes, items between square and named entries between curly brackets. A number with a point or an
exponent is a real, any other an integer. The text is split into tokens first, and the tokens are
put together to a value.
-/

namespace Drafting

/-- A piece of written values. -/
inductive Token where
  /-- A bracket, a comma or a colon. -/
  | mark (c : Char)
  /-- What stands between quotes. -/
  | text (s : String)
  /-- A number or a word. -/
  | word (s : String)

/-- The value of a hexadecimal digit. -/
def hexadecimalValue (c : Char) : Nat :=
  if c.isDigit then c.toNat - '0'.toNat else c.toLower.toNat - 'a'.toNat + 10

/-- The number that four hexadecimal digits denote. -/
def unitOf (a b c d : Char) : Nat :=
  [a, b, c, d].foldl (fun value digit => 16 * value + hexadecimalValue digit) 0

/-- The character that a letter stands for behind a backslash. -/
def unescaped : Char → Char
  | 'n' => '\n'
  | 't' => '\t'
  | 'r' => '\r'
  | 'b' => '\x08'
  | 'f' => '\x0c'
  | c => c

/-- The code units and code points up to the closing quote, and what follows it. -/
def quotedUnits : List Char → Option (List Nat × List Char)
  | '\x22' :: rest => some ([], rest)
  | '\\' :: 'u' :: a :: b :: c :: d :: rest =>
    (quotedUnits rest).map fun (units, rest) => (unitOf a b c d :: units, rest)
  | '\\' :: c :: rest =>
    (quotedUnits rest).map fun (units, rest) => ((unescaped c).toNat :: units, rest)
  | c :: rest => (quotedUnits rest).map fun (units, rest) => (c.toNat :: units, rest)
  | [] => none

/-- Code units as characters; a character beyond the basic plane is written as two of them. -/
def charactersOfUnits : List Nat → List Char
  | high :: low :: rest =>
    if 0xd800 ≤ high && high < 0xdc00 && 0xdc00 ≤ low && low < 0xe000 then
      Char.ofNat (0x10000 + (high - 0xd800) * 0x400 + (low - 0xdc00)) :: charactersOfUnits rest
    else Char.ofNat high :: charactersOfUnits (low :: rest)
  | [unit] => [Char.ofNat unit]
  | [] => []

/-- Whether a character stands between tokens. -/
def isGap (c : Char) : Bool := c = ' ' || c = '\n' || c = '\t' || c = '\r'

/-- Whether a character is a token of its own. -/
def isMark (c : Char) : Bool := "[]\x7b\x7d,:".toList.contains c

/-- Whether a character belongs to a number or a word. -/
def isWordCharacter (c : Char) : Bool := c.isAlphanum || c = '+' || c = '-' || c = '.'

/-- The tokens of a text. Every token takes at least one character, so the fuel lasts if it is the
count of characters. -/
def tokens? : (fuel : Nat) → List Char → Option (List Token)
  | _, [] => some []
  | 0, _ => none
  | fuel + 1, c :: rest =>
    if isGap c then tokens? fuel rest
    else if isMark c then (tokens? fuel rest).map (.mark c :: ·)
    else if c = '\x22' then do
      let (units, rest) ← quotedUnits rest
      some (.text (String.ofList (charactersOfUnits units)) :: (← tokens? fuel rest))
    else if isWordCharacter c then do
      let word := String.ofList (c :: rest.takeWhile isWordCharacter)
      some (.word word :: (← tokens? fuel (rest.dropWhile isWordCharacter)))
    else none

/-- The value that a word denotes. -/
def valueOfWord? (word : String) : Option Value :=
  match word with
  | "null" => some .none
  | "true" => some (.bool true)
  | "false" => some (.bool false)
  | word =>
    if word.toList.any fun c => c = '.' || c = 'e' || c = 'E' then
      (readFloat? word).map Value.float
    else (readInteger? word).map Value.int

mutual

/-- A value and the tokens behind it. -/
def valueOfTokens? : (fuel : Nat) → List Token → Option (Value × List Token)
  | 0, _ | _, [] => none
  | _, .word word :: rest => (valueOfWord? word).map (·, rest)
  | _, .text s :: rest => some (.text s, rest)
  | _, .mark '[' :: .mark ']' :: rest => some (.list [], rest)
  | fuel + 1, .mark '[' :: rest =>
    (itemsOfTokens? fuel rest).map fun (items, rest) => (.list items, rest)
  | _, .mark '\x7b' :: .mark '\x7d' :: rest => some (.record [], rest)
  | fuel + 1, .mark '\x7b' :: rest =>
    (entriesOfTokens? fuel rest).map fun (entries, rest) => (.record entries, rest)
  | _, .mark _ :: _ => none

/-- Items up to the closing bracket, and the tokens behind it. -/
def itemsOfTokens? : (fuel : Nat) → List Token → Option (List Value × List Token)
  | 0, _ => none
  | fuel + 1, tokens => do
    let (item, rest) ← valueOfTokens? fuel tokens
    match rest with
    | .mark ']' :: rest => some ([item], rest)
    | .mark ',' :: rest =>
      let (items, rest) ← itemsOfTokens? fuel rest
      some (item :: items, rest)
    | _ => none

/-- Named entries up to the closing bracket, and the tokens behind it. -/
def entriesOfTokens? : (fuel : Nat) → List Token → Option (List (String × Value) × List Token)
  | fuel + 1, .text key :: .mark ':' :: tokens => do
    let (value, rest) ← valueOfTokens? fuel tokens
    match rest with
    | .mark '\x7d' :: rest => some ([(key, value)], rest)
    | .mark ',' :: rest =>
      let (entries, rest) ← entriesOfTokens? fuel rest
      some ((key, value) :: entries, rest)
    | _ => none
  | _, _ => none

end

/-- The value that a text writes. -/
def Value.read? (text : String) : Option Value := do
  let cs := text.toList
  let tokens ← tokens? cs.length cs
  let (value, rest) ← valueOfTokens? (2 * tokens.length + 1) tokens
  if rest.isEmpty then some value else none

end Drafting
