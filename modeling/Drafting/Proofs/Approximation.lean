import Drafting.Proofs.Precision

/-!
# Operations on numbers and on what they stand for

Every operation on finite numbers stands for the operation on what they stand for, up to the errors
of one rounding, as long as the result is not too great to be finite. Numbers are ordered as what
they stand for.
-/

namespace Drafting

open Float.Model
open UnpackedFloat (Sign Accuracy decreaseExponent divCore sqrtCore accuracyOfFraction)

section Unpacked

variable {a b : UnpackedFloat}

/-- The sign of a product. -/
theorem signFactor_mul (s t : Sign) : signFactor (s * t) = signFactor s * signFactor t := by
  cases s <;> cases t <;> decide +kernel

/-- The sign of a quotient is the sign of the product. -/
theorem sign_div (s t : Sign) : s / t = s * t := by
  cases s <;> cases t <;> rfl

/-- The opposite sign. -/
theorem signFactor_neg (s : Sign) : signFactor (-s) = -signFactor s := by
  cases s <;> decide +kernel

/-- What is approximated may be written differently. -/
theorem Approximates.congr {x y : ℝ} (near : Approximates a x) (same : x = y) :
    Approximates a y := same ▸ near

/-- A number in canonical form approximates itself. -/
theorem Approximates.refl (canonical : Canonical a) : Approximates a (unpackedValue a) := by
  refine ⟨canonical, ?_⟩
  rw [sub_self, abs_zero, unitError, leastError]
  positivity

/-- Zero approximates itself. -/
theorem approximates_zero (s : Sign) : Approximates (.zero s) 0 :=
  (Approximates.refl (a := .zero s) trivial).congr Rat.cast_zero

/-- A signed mantissa brought to a smaller exponent. -/
theorem apply_decreaseExponent (s : Sign) (m : Nat) {e f : Int} (smaller : f ≤ e) :
    ((s.apply (decreaseExponent m e f).1 : Int) : ℝ) * 2 ^ f = signFactor s * m * 2 ^ e := by
  have value := shiftLeft_value m (e - f).toNat e
  rw [Int.toNat_of_nonneg (by omega), sub_sub_cancel] at value
  rw [mul_assoc, ← value]
  show ((s.apply ((m <<< (e - f).toNat : Nat) : Int) : Int) : ℝ) * 2 ^ f = _
  generalize m <<< (e - f).toNat = shifted
  cases s <;> simp [Sign.apply, signFactor]

/-- Addition approximates the sum. -/
theorem add_approximates (left : Canonical a) (right : Canonical b) :
    Approximates (.add .binary64 a b) (unpackedValue a + unpackedValue b) := by
  rcases a with _ | _ | s | ⟨s, m, e, positive⟩
  · exact left.elim
  · exact left.elim
  · rcases b with _ | _ | t | ⟨t, n, f, positive⟩
    · exact right.elim
    · exact right.elim
    · have sum : (0 : ℝ) = unpackedValue (.zero s) + unpackedValue (.zero t) := by
        simp [unpackedValue]
      cases s <;> cases t <;> exact (approximates_zero _).congr sum
    · exact (Approximates.refl right).congr (by simp [unpackedValue])
  · rcases b with _ | _ | t | ⟨t, n, f, positive⟩
    · exact right.elim
    · exact right.elim
    · exact (Approximates.refl left).congr (by simp [unpackedValue])
    · have near := normalize_near (s.apply (decreaseExponent m e (min e f)).1 +
        t.apply (decreaseExponent n f (min e f)).1) (min e f)
      refine near.congr ?_
      rw [Int.cast_add, add_mul, apply_decreaseExponent s m (min_le_left e f),
        apply_decreaseExponent t n (min_le_right e f)]
      simp [unpackedValue]

/-- The opposite of a number in canonical form. -/
theorem Canonical.neg (canonical : Canonical a) :
    Canonical a.neg ∧ unpackedValue a.neg = -unpackedValue a := by
  cases a with
  | infinity => exact canonical.elim
  | notANumber => exact canonical.elim
  | zero => exact ⟨trivial, neg_zero.symm⟩
  | finite sign m e positive =>
    refine ⟨canonical, ?_⟩
    show signFactor (-sign) * m * 2 ^ e = -(signFactor sign * m * 2 ^ e)
    rw [signFactor_neg, neg_mul, neg_mul]

/-- The opposite sign makes the opposite integer. -/
theorem apply_neg (s : Sign) (m : Nat) : (-s).apply (m : Int) = -s.apply (m : Int) := by
  cases s
  · exact (Int.neg_neg _).symm
  · rfl

/-- Subtraction adds the opposite. -/
theorem sub_eq_add_opposite (a b : UnpackedFloat) :
    UnpackedFloat.sub .binary64 a b = .add .binary64 a b.neg := by
  rcases a with _ | _ | s | ⟨s, m, e, mPositive⟩ <;>
    rcases b with _ | _ | t | ⟨t, n, f, nPositive⟩
  case finite.finite =>
    simp only [UnpackedFloat.sub, UnpackedFloat.add, UnpackedFloat.neg, apply_neg,
      Int.sub_eq_add_neg]
  all_goals rfl

/-- Subtraction approximates the difference. -/
theorem sub_approximates (left : Canonical a) (right : Canonical b) :
    Approximates (.sub .binary64 a b) (unpackedValue a - unpackedValue b) := by
  obtain ⟨opposite, value⟩ := right.neg
  rw [sub_eq_add_opposite]
  exact (add_approximates left opposite).congr (by rw [value, Rat.cast_neg, ← sub_eq_add_neg])

/-- The product of mantissas locates the product of canonical numbers. -/
theorem mul_locates {m n : Nat} {e f : Int} (mPositive : 0 < m) (nPositive : 0 < n)
    (mFull : e = -1074 ∨ 2 ^ 52 ≤ m) (nFull : f = -1074 ∨ 2 ^ 52 ≤ n) :
    Locates (m * n, e + f, .exact) ((m * 2 ^ e) * (n * 2 ^ f)) := by
  have product : ((m * n : Nat) : ℝ) * 2 ^ (e + f) = (m * 2 ^ e) * (n * 2 ^ f) := by
    rw [zpow_add₀ two_ne_zero]
    push_cast
    ring
  have next : (0 : ℝ) < 2 ^ (e + f) := zpow_pos two_pos _
  refine ⟨product.le, ?_, ?_⟩
  · rw [← product]
    exact mul_le_mul_of_nonneg_right (lt_add_one _).le next.le
  -- One mantissa has all its bits, unless both exponents are the least one.
  have long (full : 2 ^ 52 ≤ m * n) : 52 ≤ (m * n).log2 :=
    (Nat.le_log2 (Nat.mul_pos mPositive nPositive).ne').mpr full
  rcases mFull with least | full
  · rcases nFull with least | full
    · exact .inl (by dsimp only; omega)
    · exact .inr (long (full.trans (Nat.le_mul_of_pos_left n mPositive)))
  · exact .inr (long (full.trans (Nat.le_mul_of_pos_right m nPositive)))

/-- A mantissa that is moved far enough has a quotient with all bits. -/
theorem log2_quotient {m n count : Nat} (mPositive : 0 < m) (nPositive : 0 < n)
    (far : n.log2 + 53 ≤ m.log2 + count) : 52 ≤ ((m <<< count) / n).log2 := by
  have long : 2 ^ 52 ≤ (m <<< count) / n := by
    rw [Nat.le_div_iff_mul_le nPositive]
    calc 2 ^ 52 * n ≤ 2 ^ 52 * 2 ^ (n.log2 + 1) := by
          gcongr
          exact Nat.lt_log2_self.le
      _ = 2 ^ (n.log2 + 53) := by rw [← pow_add, Nat.add_comm, Nat.add_assoc]
      _ ≤ 2 ^ (m <<< count).log2 := by
          refine Nat.pow_le_pow_right two_pos ?_
          rwa [log2_shiftLeft mPositive]
      _ ≤ m <<< count := Nat.log2_self_le (by rw [Nat.shiftLeft_eq]; positivity)
  exact (Nat.le_log2 (by omega)).mpr long

/-- The division of mantissas locates the quotient. -/
theorem divCore_locates {m n : Nat} (e f : Int) (mPositive : 0 < m) (nPositive : 0 < n) :
    Locates (divCore .binary64 m e n f) (m * 2 ^ (e - f) / n) := by
  obtain ⟨target, targeted⟩ : ∃ target, target = min (e - f) (Format.binary64.targetExponent
    (totalExponent m e - totalExponent n f)) := ⟨_, rfl⟩
  obtain ⟨count, counted⟩ : ∃ count, count = (e - f - target).toNat := ⟨_, rfl⟩
  have core : divCore .binary64 m e n f =
      ((m <<< count) / n, target, accuracyOfFraction ((m <<< count) % n) n) := by
    rw [counted, targeted]
    rfl
  have moved : (count : Int) = e - f - target := by
    rw [counted, Int.toNat_of_nonneg (by omega)]
  have value := shiftLeft_value m count (e - f)
  rw [moved, sub_sub_cancel] at value
  rw [core, ← value, mul_div_right_comm]
  refine ⟨?_, ?_, ?_⟩
  · dsimp only
    gcongr
    exact Nat.cast_div_le
  · dsimp only
    gcongr
    rw [div_le_iff₀ (Nat.cast_pos.mpr nPositive)]
    exact_mod_cast (Nat.lt_mul_of_div_lt (Nat.lt_succ_self _) nPositive).le
  · by_cases least : target ≤ -1074
    · exact .inl least
    refine .inr (log2_quotient mPositive nPositive ?_)
    have bound := targeted.trans_le (min_le_right ..)
    rw [targetExponent_eq, totalExponent, totalExponent] at bound
    omega

/-- The root of a mantissa locates the square root. -/
theorem sqrtCore_locates {m : Nat} (e : Int) (positive : 0 < m) :
    Locates (sqrtCore .binary64 m e) (Real.sqrt (m * 2 ^ e)) := by
  obtain ⟨target, targeted⟩ : ∃ target, target = min (e / 2) (Format.binary64.targetExponent
    ((totalExponent m e + 1) / 2)) := ⟨_, rfl⟩
  obtain ⟨count, counted⟩ : ∃ count, count = (e - 2 * target).toNat := ⟨_, rfl⟩
  obtain ⟨accuracy, core⟩ : ∃ accuracy, sqrtCore .binary64 m e =
      (Nat.sqrt (m <<< count), target, accuracy) := by
    rw [counted, targeted]
    exact ⟨_, rfl⟩
  have moved : (count : Int) = e - 2 * target := by
    rw [counted, Int.toNat_of_nonneg (by omega)]
  have value := shiftLeft_value m count e
  rw [moved, sub_sub_cancel] at value
  have square : (m : ℝ) * 2 ^ e = (m <<< count : Nat) * (2 ^ target) ^ 2 := by
    rw [← value, ← zpow_natCast, ← zpow_mul, mul_comm 2 target]
    rfl
  have next : (0 : ℝ) < 2 ^ target := zpow_pos two_pos _
  rw [core, square, Real.sqrt_mul (Nat.cast_nonneg _), Real.sqrt_sq next.le]
  refine ⟨?_, ?_, ?_⟩
  · dsimp only
    gcongr
    exact Real.nat_sqrt_le_real_sqrt
  · dsimp only
    gcongr
    exact Real.real_sqrt_le_nat_sqrt_succ
  · by_cases least : target ≤ -1074
    · exact .inl least
    have difference : 2 * target ≤ m.log2 + e - 104 := by
      have bound := targeted.trans_le (min_le_right ..)
      rw [targetExponent_eq, totalExponent] at bound
      omega
    have long : 2 ^ 52 ≤ Nat.sqrt (m <<< count) := by
      rw [Nat.le_sqrt, ← pow_add]
      refine le_trans ?_ (Nat.log2_self_le (by rw [Nat.shiftLeft_eq]; positivity))
      refine Nat.pow_le_pow_right two_pos ?_
      rw [log2_shiftLeft positive]
      omega
    exact .inr ((Nat.le_log2 (by dsimp only; omega)).mpr long)

/-- Multiplication approximates the product. -/
theorem mul_approximates (left : Canonical a) (right : Canonical b) :
    Approximates (.mul .binary64 a b) (unpackedValue a * unpackedValue b) := by
  rcases a with _ | _ | s | ⟨s, m, e, mPositive⟩
  · exact left.elim
  · exact left.elim
  · rcases b with _ | _ | t | ⟨t, n, f, positive⟩
    · exact right.elim
    · exact right.elim
    · exact (approximates_zero (s * t)).congr (by simp [unpackedValue])
    · exact (approximates_zero (s * t)).congr (by simp [unpackedValue])
  · rcases b with _ | _ | t | ⟨t, n, f, nPositive⟩
    · exact right.elim
    · exact right.elim
    · exact (approximates_zero (s * t)).congr (by simp [unpackedValue])
    · refine ((mul_locates mPositive nPositive left.2.2 right.2.2).round (s * t)).congr ?_
      rw [signFactor_mul]
      simp only [unpackedValue]
      push_cast
      ring

/-- Division by what is not zero approximates the quotient. -/
theorem div_approximates (left : Canonical a) (right : Canonical b)
    (nonzero : unpackedValue b ≠ 0) :
    Approximates (.div .binary64 a b) (unpackedValue a / unpackedValue b) := by
  rcases b with _ | _ | t | ⟨t, n, f, nPositive⟩
  · exact right.elim
  · exact right.elim
  · exact absurd rfl nonzero
  rcases a with _ | _ | s | ⟨s, m, e, mPositive⟩
  · exact left.elim
  · exact left.elim
  · exact (approximates_zero (s / t)).congr (by simp [unpackedValue])
  · refine ((divCore_locates e f mPositive nPositive).round (s / t)).congr ?_
    have signs : (signFactor (s / t) : ℝ) = signFactor s / signFactor t := by
      rw [sign_div, signFactor_mul]
      cases s <;> cases t <;> norm_num [signFactor]
    rw [signs, zpow_sub₀ two_ne_zero]
    simp only [unpackedValue]
    push_cast
    field_simp

/-- The square root of what is not below zero approximates the exact one. -/
theorem sqrt_approximates (canonical : Canonical a) (nonneg : 0 ≤ unpackedValue a) :
    Approximates (.sqrt .binary64 a) (Real.sqrt (unpackedValue a)) := by
  rcases a with _ | _ | s | ⟨s, m, e, positive⟩
  · exact canonical.elim
  · exact canonical.elim
  · exact (approximates_zero s).congr (by simp [unpackedValue])
  cases s with
  | negative =>
    have below : unpackedValue (.finite .negative m e positive) < 0 := by
      have magnitude : (0 : ℚ) < m * 2 ^ e := by positivity
      simp only [unpackedValue, signFactor]
      linarith
    exact absurd nonneg below.not_ge
  | positive =>
    exact ((sqrtCore_locates e positive).round .positive).congr (by
      simp [unpackedValue, signFactor])

end Unpacked

/-- The real number that a number stands for. -/
noncomputable def realValue (x : Float) : ℝ := exactValue x

/-- A finite number stands for an exact one up to the errors of an operation. -/
def Near (x : Float) (exact : ℝ) : Prop :=
  x.isFinite ∧ |realValue x - exact| ≤ unitError * |exact| + leastError

section Packed

variable {x y : Float} {number : UnpackedFloat}

/-- A number in canonical form is packed as it is, or as an infinite one with its sign if its
magnitude is not small enough. -/
theorem unpack_pack (canonical : Canonical number) :
    (pack number).unpack = number ∨
      ∃ sign, (pack number).unpack = .infinity sign ∧
        (2 : ℝ) ^ (1024 : ℤ) ≤ signFactor sign * unpackedValue number := by
  rcases number with _ | _ | s | ⟨s, m, e, positive⟩
  · exact canonical.elim
  · exact canonical.elim
  · refine .inl ?_
    cases s <;> with_unfolding_all rfl
  rw [unpack_pack_finite canonical]
  by_cases great : 971 < e
  · rw [if_pos great]
    refine .inr ⟨s, rfl, ?_⟩
    obtain ⟨-, -, least | full⟩ := canonical
    · omega
    have magnitude : (signFactor s : ℝ) * unpackedValue (.finite s m e positive) = m * 2 ^ e := by
      cases s <;> simp [unpackedValue, signFactor]
    rw [magnitude]
    calc (2 : ℝ) ^ (1024 : ℤ) = 2 ^ (52 : ℤ) * 2 ^ (972 : ℤ) := by
          rw [← zpow_add₀ two_ne_zero]
          norm_num
      _ ≤ m * 2 ^ e := by
          gcongr
          · exact_mod_cast full
          · norm_num
          · omega
  · exact .inl (if_neg great)

/-- What is packed from a number in canonical form and is finite stands for what that stands for. -/
theorem realValue_of_pack (packed : x.toModel = pack number) (canonical : Canonical number)
    (finite : x.isFinite) : realValue x = unpackedValue number := by
  have given : (pack number).unpack.isFinite := packed ▸ finite
  unfold realValue exactValue
  rw [packed]
  rcases unpack_pack canonical with same | ⟨sign, infinite, -⟩
  · rw [same]
  · rw [infinite] at given
    exact absurd given Bool.false_ne_true

/-- What stands for a number other than zero is finite. -/
theorem isFinite_of_realValue_ne_zero (nonzero : realValue x ≠ 0) : x.isFinite := by
  show x.toModel.unpack.isFinite = true
  change ((unpackedValue x.toModel.unpack : ℚ) : ℝ) ≠ 0 at nonzero
  generalize x.toModel.unpack = number at nonzero
  cases number with
  | infinity => exact absurd Rat.cast_zero nonzero
  | notANumber => exact absurd Rat.cast_zero nonzero
  | zero => rfl
  | finite => rfl

/-- What is packed is finite unless its magnitude is too great. -/
theorem isFinite_of_pack (packed : x.toModel = pack number) (canonical : Canonical number)
    (bounded : |(unpackedValue number : ℝ)| < 2 ^ (1024 : ℤ)) : x.isFinite := by
  show x.toModel.unpack.isFinite = true
  rw [packed]
  rcases unpack_pack canonical with same | ⟨sign, -, great⟩
  · rw [same]
    cases number with
    | finite => rfl
    | zero => rfl
    | infinity => exact canonical.elim
    | notANumber => exact canonical.elim
  · have magnitude := le_abs_self ((signFactor sign : ℝ) * unpackedValue number)
    rw [abs_mul, abs_signFactor, one_mul] at magnitude
    linarith

/-- What is packed from an approximation of a number that is not too great is near that number. -/
theorem near_of_pack {exact : ℝ} (packed : x.toModel = pack number)
    (near : Approximates number exact) (bounded : |exact| ≤ rangeBound) : Near x exact := by
  obtain ⟨canonical, error⟩ := near
  have magnitude : |(unpackedValue number : ℝ)| < 2 ^ (1024 : ℤ) := by
    have triangle := abs_sub_abs_le_abs_sub (unpackedValue number : ℝ) exact
    have small : unitError * |exact| ≤ 1 * rangeBound := by
      gcongr
      linarith [unitError_le]
    have least : leastError ≤ rangeBound := by
      unfold leastError rangeBound
      gcongr <;> norm_num
    have positive : 0 < rangeBound := zpow_pos two_pos _
    rw [← rangeBound_wide]
    linarith
  have finite := isFinite_of_pack packed canonical magnitude
  exact ⟨finite, realValue_of_pack packed canonical finite ▸ error⟩

variable (left : x.isFinite) (right : y.isFinite)
include left right

/-- The sum of two numbers. -/
theorem add_near (bounded : |realValue x + realValue y| ≤ rangeBound) :
    Near (x + y) (realValue x + realValue y) :=
  near_of_pack rfl (add_approximates (canonical_unpack left) (canonical_unpack right)) bounded

/-- The difference of two numbers. -/
theorem sub_near (bounded : |realValue x - realValue y| ≤ rangeBound) :
    Near (x - y) (realValue x - realValue y) :=
  near_of_pack rfl (sub_approximates (canonical_unpack left) (canonical_unpack right)) bounded

/-- The product of two numbers. -/
theorem mul_near (bounded : |realValue x * realValue y| ≤ rangeBound) :
    Near (x * y) (realValue x * realValue y) :=
  near_of_pack rfl (mul_approximates (canonical_unpack left) (canonical_unpack right)) bounded

/-- The quotient of two numbers. -/
theorem div_near (nonzero : realValue y ≠ 0) (bounded : |realValue x / realValue y| ≤ rangeBound) :
    Near (x / y) (realValue x / realValue y) :=
  near_of_pack rfl (div_approximates (canonical_unpack left) (canonical_unpack right)
    fun zero => nonzero (Rat.cast_eq_zero.mpr zero)) bounded

omit right

/-- The square root of a number. -/
theorem sqrt_near (nonneg : 0 ≤ realValue x) (bounded : realValue x ≤ rangeBound) :
    Near x.sqrt (Real.sqrt (realValue x)) := by
  refine near_of_pack rfl (sqrt_approximates (canonical_unpack left) (Rat.cast_nonneg.mp nonneg)) ?_
  rw [abs_of_nonneg (Real.sqrt_nonneg _)]
  refine Real.sqrt_le_iff.mpr ⟨(zpow_pos two_pos _).le, bounded.trans ?_⟩
  exact le_self_pow₀ (one_le_zpow₀ one_le_two (by norm_num)) two_ne_zero

end Packed

section Order

/-- What canonical mantissas and exponents in order stand for is in order. -/
theorem magnitude_le {m n : Nat} {e f : Int} (fits : m < 2 ^ 53)
    (floor : -1074 ≤ e) (full : f = -1074 ∨ 2 ^ 52 ≤ n) (ordered : e < f ∨ e = f ∧ m ≤ n) :
    (m : ℚ) * 2 ^ e ≤ n * 2 ^ f := by
  rcases ordered with below | ⟨rfl, mantissas⟩
  · obtain least | many := full
    · omega
    calc (m : ℚ) * 2 ^ e ≤ 2 ^ (53 : ℤ) * 2 ^ e := by
          gcongr
          exact_mod_cast fits.le
      _ = 2 ^ (52 : ℤ) * 2 ^ (e + 1) := by
          rw [← zpow_add₀ two_ne_zero, ← zpow_add₀ two_ne_zero]
          congr 1
          omega
      _ ≤ n * 2 ^ f := by
          gcongr
          · exact_mod_cast many
          · norm_num
          · omega
  · gcongr

/-- Numbers in canonical form are ordered as what they stand for. -/
theorem unpackedValue_le {a b : UnpackedFloat} (left : Canonical a) (right : Canonical b)
    (ordered : orderPlace a ≤ orderPlace b) : unpackedValue a ≤ unpackedValue b := by
  have magnitude (m : Nat) (e : Int) : (0 : ℚ) ≤ m * 2 ^ e := by positivity
  rcases a with _ | _ | s | ⟨⟨⟩, m, e, mPositive⟩ <;>
    rcases b with _ | _ | t | ⟨⟨⟩, n, f, nPositive⟩
  all_goals first | exact left.elim | exact right.elim | skip
  all_goals
    simp only [orderPlace, Prod.Lex.toLex_le_toLex] at ordered
    simp only [unpackedValue, signFactor, one_mul, neg_mul]
  all_goals first | omega | skip
  case zero.zero => exact le_rfl
  case zero.finite.positive => exact magnitude n f
  case finite.negative.zero => exact neg_nonpos.mpr (magnitude m e)
  case finite.negative.finite.positive =>
    exact (neg_nonpos.mpr (magnitude m e)).trans (magnitude n f)
  case finite.negative.finite.negative =>
    exact neg_le_neg (magnitude_le right.1 right.2.1 left.2.2 (by omega))
  case finite.positive.finite.positive =>
    exact magnitude_le left.1 left.2.1 right.2.2 (by omega)

variable {x y z : Float}

/-- Finite numbers are ordered as what they stand for. -/
theorem realValue_le (left : x.isFinite) (right : y.isFinite) (ordered : x ≤ y) :
    realValue x ≤ realValue y :=
  Rat.cast_le.mpr (unpackedValue_le (canonical_unpack left) (canonical_unpack right)
    (le_iff_orderPlace.mp ordered).2)

/-- A finite number is a number. -/
theorem isNaN_of_isFinite (finite : x.isFinite) : x.isNaN = false := by
  have given : x.toModel.unpack.isFinite = true := finite
  show x.toModel.unpack.isNaN = false
  generalize x.toModel.unpack = number at given
  cases number with
  | notANumber => cases given
  | _ => rfl

/-- Numbers in canonical form are finite. -/
theorem Canonical.isFinite {a : UnpackedFloat} (canonical : Canonical a) : a.isFinite = true := by
  cases a with
  | infinity => exact canonical.elim
  | notANumber => exact canonical.elim
  | zero => rfl
  | finite => rfl

/-- The magnitude of a number in canonical form is in canonical form. -/
theorem Canonical.abs {a : UnpackedFloat} (canonical : Canonical a) :
    Canonical a.abs ∧ unpackedValue a.abs = |unpackedValue a| := by
  cases a with
  | infinity => exact canonical.elim
  | notANumber => exact canonical.elim
  | zero => exact ⟨trivial, abs_zero.symm⟩
  | finite sign m e positive =>
    refine ⟨canonical, ?_⟩
    have magnitude : (0 : ℚ) ≤ m * 2 ^ e := by positivity
    cases sign with
    | negative =>
      simp only [unpackedValue, UnpackedFloat.abs, signFactor, one_mul, neg_mul, abs_neg]
      exact (abs_of_nonneg magnitude).symm
    | positive =>
      simp only [unpackedValue, UnpackedFloat.abs, signFactor, one_mul]
      exact (abs_of_nonneg magnitude).symm

/-- What is packed as an infinite number has the positive sign unless it is far below zero. -/
theorem unpack_pack_above {a : UnpackedFloat} (canonical : Canonical a)
    (above : -(2 : ℝ) ^ (1024 : ℤ) < unpackedValue a) :
    (pack a).unpack = a ∨ (pack a).unpack = .infinity .positive := by
  rcases unpack_pack canonical with same | ⟨sign, infinite, great⟩
  · exact .inl same
  · cases sign with
    | positive => exact .inr infinite
    | negative =>
      have sign : (signFactor .negative : ℝ) = -1 := by simp [signFactor]
      rw [sign, neg_one_mul] at great
      exact absurd above (le_neg_of_le_neg great).not_gt

/-- Plus infinity has the greatest place, which no finite number has. -/
theorem orderPlace_infinity {a : UnpackedFloat} (canonical : Canonical a) :
    orderPlace a < orderPlace (.infinity .positive) := by
  rcases a with _ | _ | s | ⟨⟨⟩, m, e, positive⟩
  · exact canonical.elim
  · exact canonical.elim
  all_goals
    simp [orderPlace, Prod.Lex.toLex_lt_toLex]

/-- What is not greater in magnitude than a finite number is finite, and what it stands for is not
greater either. -/
theorem realValue_of_abs_le (finite : y.isFinite) (ordered : x.abs ≤ y) :
    x.isFinite ∧ |realValue x| ≤ realValue y := by
  have bound := canonical_unpack finite
  have below : orderPlace (pack x.toModel.unpack.abs).unpack ≤ orderPlace y.toModel.unpack :=
    (le_iff_orderPlace.mp ordered).2
  have number : x.toModel.unpack.isNaN = false :=
    (isNaN_abs x).symm.trans (isNaN_of_le ordered).1
  have never : ¬orderPlace (.infinity .positive) ≤ orderPlace y.toModel.unpack :=
    (orderPlace_infinity bound).not_ge
  have canonical : Canonical x.toModel.unpack := by
    cases unpacked : x.toModel.unpack with
    | notANumber => rw [unpacked] at number; cases number
    | infinity sign =>
      have packed : (pack (.infinity .positive)).unpack = .infinity .positive := by
        with_unfolding_all rfl
      rw [unpacked, UnpackedFloat.abs, packed] at below
      exact absurd below never
    | zero sign => trivial
    | finite sign m e positive =>
      have finite : x.isFinite := congrArg UnpackedFloat.isFinite unpacked
      exact unpacked ▸ canonical_unpack finite
  obtain ⟨canonicalAbs, value⟩ := canonical.abs
  refine ⟨canonical.isFinite, ?_⟩
  unfold realValue exactValue
  rw [← Rat.cast_abs, Rat.cast_le, ← value]
  refine unpackedValue_le canonicalAbs bound ?_
  have above : -(2 : ℝ) ^ (1024 : ℤ) < unpackedValue x.toModel.unpack.abs := by
    rw [value, Rat.cast_abs]
    exact (neg_neg_of_pos (zpow_pos two_pos _)).trans_le (abs_nonneg _)
  rcases unpack_pack_above canonicalAbs above with same | infinite
  · rwa [same] at below
  · rw [infinite] at below
    exact absurd below never

/-- The magnitude of a finite number that is not too great is finite. -/
theorem isFinite_abs (finite : x.isFinite) (bounded : |realValue x| ≤ rangeBound) :
    x.abs.isFinite := by
  obtain ⟨canonical, value⟩ := (canonical_unpack finite).abs
  refine isFinite_of_pack rfl canonical ?_
  rw [value, Rat.cast_abs, abs_abs, ← rangeBound_wide]
  have positive : 0 < rangeBound := zpow_pos two_pos _
  exact bounded.trans_lt (by linarith)

/-- A finite product is near the exact one. -/
theorem mul_near_of_finite (left : x.isFinite) (right : y.isFinite) (finite : (x * y).isFinite) :
    Near (x * y) (realValue x * realValue y) := by
  obtain ⟨canonical, error⟩ :=
    mul_approximates (canonical_unpack left) (canonical_unpack right)
  have value : realValue (x * y) =
      unpackedValue (.mul .binary64 x.toModel.unpack y.toModel.unpack) :=
    realValue_of_pack rfl canonical finite
  exact ⟨finite, value ▸ error⟩

/-- A product of finite numbers that is not finite is above every number if it is positive. -/
theorem le_mul_of_infinite (left : x.isFinite) (right : y.isFinite)
    (positive : 0 < realValue x * realValue y) (infinite : ¬(x * y).isFinite)
    (finite : z.isFinite) : z ≤ x * y := by
  obtain ⟨canonical, error⟩ :=
    mul_approximates (canonical_unpack left) (canonical_unpack right)
  change 0 < (unpackedValue x.toModel.unpack : ℝ) * unpackedValue y.toModel.unpack at positive
  have above : -(2 : ℝ) ^ (1024 : ℤ) <
      unpackedValue (.mul .binary64 x.toModel.unpack y.toModel.unpack) := by
    have relative : unitError ≤ 1 := by linarith [unitError_le]
    have absolute : leastError < 2 ^ (1024 : ℤ) := by
      unfold leastError
      gcongr <;> norm_num
    have lower := (abs_le.mp error).1
    rw [abs_of_pos positive] at lower
    have part := mul_le_of_le_one_left positive.le relative
    generalize (2 : ℝ) ^ (1024 : ℤ) = great at absolute ⊢
    linarith
  have unpacked : (x * y).toModel.unpack = .infinity .positive := by
    rcases unpack_pack_above canonical above with same | largest
    · exact absurd ((congrArg UnpackedFloat.isFinite same).trans canonical.isFinite) infinite
    · exact largest
  have number : (x * y).isNaN = false := congrArg UnpackedFloat.isNaN unpacked
  have places := orderPlace_infinity (canonical_unpack finite)
  rw [← unpacked] at places
  exact le_iff_orderPlace.mpr
    ⟨Bool.or_eq_false_iff.mpr ⟨isNaN_of_isFinite finite, number⟩, places.le⟩

/-- Zero stands for zero. -/
theorem realValue_zero : realValue 0.0 = 0 := by
  have value : exactValue 0.0 = 0 := by decide +kernel
  rw [realValue, value, Rat.cast_zero]

/-- One stands for one. -/
theorem realValue_one : realValue 1.0 = 1 := by
  have value : exactValue 1.0 = 1 := by decide +kernel
  rw [realValue, value, Rat.cast_one]

end Order

end Drafting
