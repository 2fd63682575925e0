/-!
# Rounding a quotient to the nearest integer

Every number that is printed or read passes through one quotient of naturals that has to become
an integer. `roundHalfEven` is that step: the nearest integer, and of two equally near ones the
even one.
-/

namespace Drafting

/-- The integer nearest to `num / den`; of two equally near ones, the even one. -/
def roundHalfEven (num den : Nat) : Nat :=
  let quotient := num / den
  let twice := 2 * (num % den)
  if twice < den then quotient
  else if den < twice then quotient + 1
  else if quotient % 2 = 0 then quotient else quotient + 1

/-- The rounded quotient lies within half a unit of the exact one. -/
theorem roundHalfEven_within_half (num den : Nat) (positive : 0 < den) :
    2 * (roundHalfEven num den * den) ≤ 2 * num + den ∧
      2 * num ≤ 2 * (roundHalfEven num den * den) + den := by
  have whole : num / den * den + num % den = num := Nat.div_add_mod' num den
  have small : num % den < den := Nat.mod_lt _ positive
  have step : (num / den + 1) * den = num / den * den + den := by
    rw [Nat.add_mul, Nat.one_mul]
  unfold roundHalfEven
  dsimp only
  split
  · omega
  · split
    · omega
    · split <;> omega

/-- A quotient that is an integer is kept. -/
theorem roundHalfEven_mul_self (n den : Nat) (positive : 0 < den) :
    roundHalfEven (n * den) den = n := by
  unfold roundHalfEven
  simp [Nat.mul_div_cancel _ positive, positive]

end Drafting
