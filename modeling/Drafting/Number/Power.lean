/-!
# Powers of two and ten

The two bases in which numbers are held and written. Both powers are natural numbers, so a sum, a
product or a comparison of them is exact.
-/

namespace Drafting

/-- Two to the power `n`. -/
def twoTo (n : Nat) : Nat := Nat.pow 2 n

/-- Ten to the power `n`. -/
def tenTo (n : Nat) : Nat := Nat.pow 10 n

end Drafting
