import Drafting.Text.Printable

/-!
# Quoted text

A message shows a text between quotes: single quotes, or double ones if the text holds a single
quote and no double one. The quote in use, the backslash and every character that is not printable
are escaped.
-/

namespace Drafting

/-- The single quote. -/
def singleQuote : Char := '\x27'

/-- The double quote. -/
def doubleQuote : Char := '\x22'

/-- The quote that is put around a text. -/
def quoteFor (cs : List Char) : Char :=
  if cs.contains singleQuote && !cs.contains doubleQuote then doubleQuote else singleQuote

/-- `n` in hexadecimal with at least `width` digits. -/
def hexadecimalDigits (width n : Nat) : List Char :=
  let digits := Nat.toDigits 16 n
  List.replicate (width - digits.length) '0' ++ digits

/-- One character as it stands between `quote`s. -/
def escapedCharacter (quote c : Char) : List Char :=
  if c = quote ∨ c = '\\' then ['\\', c]
  else if c = '\n' then ['\\', 'n']
  else if c = '\r' then ['\\', 'r']
  else if c = '\t' then ['\\', 't']
  else if isPrintable c then [c]
  else if c.toNat ≤ 0xff then '\\' :: 'x' :: hexadecimalDigits 2 c.toNat
  else if c.toNat ≤ 0xffff then '\\' :: 'u' :: hexadecimalDigits 4 c.toNat
  else '\\' :: 'U' :: hexadecimalDigits 8 c.toNat

/-- A text between quotes. -/
def quoted (text : String) : String :=
  let cs := text.toList
  let quote := quoteFor cs
  String.ofList (quote :: cs.flatMap (escapedCharacter quote) ++ [quote])

end Drafting
