/-!
# Blank characters

Blanks are what is ignored around a number or a name: the characters of bidirectional class WS, B
or S and those of category Zs, as of Unicode 14.
-/

namespace Drafting

/-- The ranges of blank characters, in ascending order. -/
def blankRanges : List (Nat × Nat) :=
  [
    (0x9, 0xd), (0x1c, 0x20), (0x85, 0x85), (0xa0, 0xa0), (0x1680, 0x1680), (0x2000, 0x200a),
    (0x2028, 0x2029), (0x202f, 0x202f), (0x205f, 0x205f), (0x3000, 0x3000)]

/-- Whether a character is blank. -/
def isBlank (c : Char) : Bool :=
  blankRanges.any fun (low, high) => low ≤ c.toNat && c.toNat ≤ high

/-- The characters between the blanks at both ends. -/
def stripBlanks (cs : List Char) : List Char :=
  ((cs.dropWhile isBlank).reverse.dropWhile isBlank).reverse

end Drafting
