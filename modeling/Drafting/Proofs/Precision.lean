import Drafting.Proofs.Ordering
import Mathlib

/-!
# Precision of floating-point arithmetic

A finite number stands for a rational one. Rounding leads to a number in canonical form that stands
for what is rounded, up to a relative error of one unit in the last place and an absolute error of
the least positive number; packing keeps it, unless it is too great to be finite. To keep the
analysis short, what is rounded is only located between two neighbours here, so the bounds are twice
those of rounding to the nearest.
-/

namespace Drafting

open Float.Model
open UnpackedFloat (Sign Accuracy ExtendedMantissa shiftToExponent shiftToTargetExponent
  roundWithAccuracy decreaseExponent packComponents packedInfinity unpackExponent unpackMantissa
  unpackExponent_packComponents unpackMantissa_packComponents)

/-- The factor of a sign. -/
def signFactor : Sign → ℚ
  | .negative => -1
  | .positive => 1

/-- The rational number that an unpacked number stands for, zero if it is not finite. -/
def unpackedValue : UnpackedFloat → ℚ
  | .finite sign mantissa exponent _ => signFactor sign * mantissa * 2 ^ exponent
  | _ => 0

/-- The rational number that a number stands for, zero if it is not finite. -/
def exactValue (x : Float) : ℚ := unpackedValue x.toModel.unpack

/-- Finite unpacked numbers in the form in which they are packed: the mantissa has all its bits,
unless the exponent is the least one. -/
def Canonical : UnpackedFloat → Prop
  | .finite _ mantissa exponent _ =>
    mantissa < 2 ^ 53 ∧ -1074 ≤ exponent ∧ (exponent = -1074 ∨ 2 ^ 52 ≤ mantissa)
  | .zero _ => True
  | _ => False

/-- The relative error of an operation: one unit in the last place. -/
noncomputable def unitError : ℝ := 2 ^ (-52 : ℤ)

/-- The absolute error of an operation: the least positive number. -/
noncomputable def leastError : ℝ := 2 ^ (-1074 : ℤ)

/-- Results up to this magnitude are finite. -/
noncomputable def rangeBound : ℝ := 2 ^ (1000 : ℤ)

/-- There is room for errors above that magnitude. -/
theorem rangeBound_wide : 16777216 * rangeBound = 2 ^ (1024 : ℤ) := by
  have factor : (16777216 : ℝ) = 2 ^ (24 : ℤ) := by norm_num
  rw [rangeBound, factor, ← zpow_add₀ two_ne_zero]
  rfl

/-- The relative error of an operation is positive. -/
theorem unitError_pos : 0 < unitError := zpow_pos two_pos _

/-- So is the absolute error. -/
theorem leastError_pos : 0 < leastError := zpow_pos two_pos _

/-- The relative error is small. -/
theorem unitError_le : unitError ≤ 1 / 1024 := by norm_num [unitError]

/-- The absolute error is far below the relative one, and even below high powers of it. -/
theorem leastError_le_pow {k : ℕ} (low : k ≤ 20) : leastError ≤ unitError ^ k := by
  unfold leastError unitError
  rw [← zpow_natCast, ← zpow_mul]
  exact zpow_le_zpow_right₀ one_le_two (by omega)

/-- The absolute error is a small part of the relative one. -/
theorem leastError_le : leastError ≤ 1 / 1024 * unitError := by
  calc leastError ≤ unitError ^ 2 := leastError_le_pow (by norm_num)
    _ = unitError * unitError := sq unitError
    _ ≤ 1 / 1024 * unitError := mul_le_mul_of_nonneg_right unitError_le unitError_pos.le

/-- There is room for small numbers. -/
theorem four_le_rangeBound : 4 ≤ rangeBound := by
  calc (4 : ℝ) = 2 ^ (2 : ℤ) := by norm_num
    _ ≤ rangeBound := zpow_le_zpow_right₀ one_le_two (by norm_num)

/-- A number in canonical form stands for an exact one up to the errors of an operation. -/
def Approximates (number : UnpackedFloat) (exact : ℝ) : Prop :=
  Canonical number ∧ |(unpackedValue number : ℝ) - exact| ≤ unitError * |exact| + leastError

section Rounding

/-- A sign keeps magnitudes. -/
theorem abs_signFactor (sign : Sign) : |(signFactor sign : ℝ)| = 1 := by
  cases sign <;> simp [signFactor]

/-- Of all digits, 53 have room, unless the exponent is the least one. -/
theorem targetExponent_eq (digits : Int) :
    Format.binary64.targetExponent digits = max (digits - 53) (-1074) := rfl

/-- The exponent that a number has in canonical form. -/
theorem targetExponent_binary64 (mantissa : Nat) (exponent : Int) :
    Format.binary64.targetExponent (totalExponent mantissa exponent) =
      max (mantissa.log2 + exponent - 52) (-1074) := by
  rw [targetExponent_eq, totalExponent]
  congr 1
  omega

/-- Shifting drops bits of the mantissa. -/
theorem mantissa_shiftRight (extended : ExtendedMantissa) (count : Nat) :
    (extended >>> count).mantissa = extended.mantissa / 2 ^ count := by
  induction count with
  | zero => rw [pow_zero, Nat.div_one]; rfl
  | succ count ih =>
    show (extended >>> count).mantissa / 2 = _
    rw [ih, Nat.div_div_eq_div_mul, pow_succ]

/-- Rounding leads to the mantissa or to the next one. -/
theorem roundedMantissa_between (extended : ExtendedMantissa) :
    extended.mantissa ≤ extended.roundedMantissa ∧
      extended.roundedMantissa ≤ extended.mantissa + 1 := by
  obtain ⟨mantissa, roundBit, stickyBit⟩ := extended
  cases roundBit <;> cases stickyBit <;>
    simp only [ExtendedMantissa.roundedMantissa, ExtendedMantissa.accuracy,
      Accuracy.roundToNearestEven] <;> omega

/-- The mantissa that is shifted is the one that is given. -/
theorem mantissa_ofMantissaAndAccuracy (mantissa : Nat) (accuracy : Accuracy) :
    (ExtendedMantissa.ofMantissaAndAccuracy mantissa accuracy).mantissa = mantissa := by
  rcases accuracy with _ | ⟨_ | _ | _⟩ <;> rfl

/-- A mantissa with no more bits than there is room for stays as it is. -/
theorem shiftToTargetExponent_of_lt {mantissa : Nat} {exponent : Int} (fits : mantissa < 2 ^ 53)
    (floor : -1074 ≤ exponent) :
    shiftToTargetExponent .binary64 mantissa exponent .exact =
      (⟨mantissa, false, false⟩, exponent) := by
  have bits : mantissa.log2 ≤ 52 := by
    by_cases zero : mantissa = 0
    · rw [zero, Nat.log2_zero]
      omega
    · exact Nat.le_of_lt_succ ((Nat.log2_lt zero).mpr fits)
  have stays : (Format.binary64.targetExponent (totalExponent mantissa exponent) -
      exponent).toNat = 0 := by
    rw [targetExponent_binary64]
    omega
  unfold shiftToTargetExponent shiftToExponent
  dsimp only
  rw [stays, Int.natCast_zero, Int.add_zero]
  rfl

/-- A mantissa that was rounded up to one bit more loses a zero. -/
theorem shiftToTargetExponent_carry {exponent : Int} (floor : -1074 ≤ exponent) :
    shiftToTargetExponent .binary64 (2 ^ 53) exponent .exact =
      (⟨2 ^ 52, false, false⟩, exponent + 1) := by
  have moves : (Format.binary64.targetExponent (totalExponent (2 ^ 53) exponent) -
      exponent).toNat = 1 := by
    rw [targetExponent_binary64, Nat.log2_two_pow]
    omega
  unfold shiftToTargetExponent shiftToExponent
  dsimp only
  rw [moves]
  rfl

/-- What a rounded mantissa stands for is not changed by bringing it back to its number of bits. -/
theorem roundWithAccuracy_value {sign : Sign} {mantissa : Nat} {exponent : Int}
    {accuracy : Accuracy} {first : ExtendedMantissa} {place : Int}
    (shifted : shiftToTargetExponent .binary64 mantissa exponent accuracy = (first, place))
    (fits : first.mantissa < 2 ^ 53) (floor : -1074 ≤ place)
    (full : place = -1074 ∨ 2 ^ 52 ≤ first.mantissa) :
    Canonical (roundWithAccuracy .binary64 sign mantissa exponent accuracy) ∧
      unpackedValue (roundWithAccuracy .binary64 sign mantissa exponent accuracy) =
        signFactor sign * first.roundedMantissa * 2 ^ place := by
  obtain ⟨least, most⟩ := roundedMantissa_between first
  unfold roundWithAccuracy
  rw [shifted]
  dsimp only
  by_cases small : first.roundedMantissa < 2 ^ 53
  · rw [shiftToTargetExponent_of_lt small floor]
    by_cases zero : first.roundedMantissa = 0
    · rw [dif_pos zero]
      simp [Canonical, unpackedValue, zero]
    · rw [dif_neg zero]
      exact ⟨⟨small, floor, full.imp_right fun many => many.trans least⟩, rfl⟩
  · have carry : first.roundedMantissa = 2 ^ 53 := by omega
    rw [carry, shiftToTargetExponent_carry floor, dif_neg (by simp)]
    refine ⟨⟨by norm_num, by omega, .inr le_rfl⟩, ?_⟩
    show signFactor sign * ((2 ^ 52 : Nat) : ℚ) * 2 ^ (place + 1) = _
    rw [zpow_add_one₀ two_ne_zero]
    push_cast
    ring

/-- The result of rounding lies next to what is rounded: a number between a mantissa and the next
one, at an exponent that leaves enough bits. -/
theorem roundWithAccuracy_near (sign : Sign) {mantissa : Nat} {exponent : Int}
    (accuracy : Accuracy) {x : ℝ} (above : mantissa * (2 : ℝ) ^ exponent ≤ x)
    (below : x ≤ (mantissa + 1) * (2 : ℝ) ^ exponent)
    (enough : exponent ≤ max ((mantissa.log2 : Int) + exponent - 52) (-1074)) :
    Approximates (roundWithAccuracy .binary64 sign mantissa exponent accuracy)
      (signFactor sign * x) := by
  obtain ⟨place, placed⟩ : ∃ place, place = max ((mantissa.log2 : Int) + exponent - 52) (-1074) :=
    ⟨_, rfl⟩
  obtain ⟨count, counted⟩ := Int.le.dest (placed ▸ enough)
  let first : ExtendedMantissa :=
    ExtendedMantissa.ofMantissaAndAccuracy mantissa accuracy >>> count
  have shifted : shiftToTargetExponent .binary64 mantissa exponent accuracy = (first, place) := by
    unfold shiftToTargetExponent shiftToExponent
    dsimp only
    rw [targetExponent_binary64, ← placed, ← counted, add_sub_cancel_left, Int.toNat_natCast]
  have quotient : first.mantissa = mantissa / 2 ^ count := by
    rw [mantissa_shiftRight, mantissa_ofMantissaAndAccuracy]
  have fits : first.mantissa < 2 ^ 53 := by
    rw [quotient, Nat.div_lt_iff_lt_mul (Nat.two_pow_pos _), ← pow_add]
    exact Nat.lt_log2_self.trans_le (Nat.pow_le_pow_right two_pos (by omega))
  have full : place = -1074 ∨ 2 ^ 52 ≤ first.mantissa := by
    by_cases least : place = -1074
    · exact .inl least
    · refine .inr ?_
      by_cases zero : mantissa = 0
      · rw [zero, Nat.log2_zero] at placed
        omega
      · rw [quotient, Nat.le_div_iff_mul_le (Nat.two_pow_pos _), ← pow_add]
        exact (Nat.pow_le_pow_right two_pos (by omega)).trans (Nat.log2_self_le zero)
  obtain ⟨canonical, stands⟩ :=
    @roundWithAccuracy_value sign _ _ _ _ _ shifted fits (by omega) full
  refine ⟨canonical, ?_⟩
  -- Both numbers lie between the shifted mantissa and the next one.
  have width : (2 : ℝ) ^ place = 2 ^ count * 2 ^ exponent := by
    rw [← counted, zpow_add₀ two_ne_zero, zpow_natCast, mul_comm]
  have positive : (0 : ℝ) < 2 ^ place := zpow_pos two_pos _
  have lower : first.mantissa * (2 : ℝ) ^ place ≤ x := by
    refine le_trans ?_ above
    rw [width, ← mul_assoc, quotient]
    gcongr
    exact_mod_cast Nat.div_mul_le_self mantissa (2 ^ count)
  have upper : x ≤ (first.mantissa + 1) * (2 : ℝ) ^ place := by
    refine below.trans ?_
    rw [width, ← mul_assoc, quotient]
    gcongr
    exact_mod_cast Nat.lt_mul_of_div_lt (Nat.lt_succ_self _) (Nat.two_pow_pos _)
  obtain ⟨least, most⟩ := roundedMantissa_between first
  have lowerRounded : first.mantissa * (2 : ℝ) ^ place ≤ first.roundedMantissa * 2 ^ place := by
    gcongr
  have upperRounded :
      first.roundedMantissa * (2 : ℝ) ^ place ≤ (first.mantissa + 1) * 2 ^ place := by
    gcongr
    exact_mod_cast most
  have nonneg : 0 ≤ x := le_trans (by positivity) lower
  have step : (2 : ℝ) ^ place ≤ unitError * x + leastError := by
    rcases full with last | many
    · rw [last]
      exact le_add_of_nonneg_left (mul_nonneg unitError_pos.le nonneg)
    · have scaled : (2 : ℝ) ^ (52 : ℤ) * 2 ^ place ≤ x := by
        refine le_trans ?_ lower
        gcongr
        exact_mod_cast many
      calc (2 : ℝ) ^ place = unitError * (2 ^ (52 : ℤ) * 2 ^ place) := by
            rw [unitError, ← mul_assoc, ← zpow_add₀ two_ne_zero]
            norm_num
        _ ≤ unitError * x := by unfold unitError; gcongr
        _ ≤ _ := le_add_of_nonneg_right leastError_pos.le
  rw [stands]
  push_cast
  rw [mul_assoc, ← mul_sub, abs_mul, abs_mul, abs_signFactor, one_mul, one_mul,
    abs_of_nonneg nonneg, abs_le]
  constructor <;> linarith

/-- A mantissa and an exponent locate a number between two neighbours, and leave enough bits. -/
def Locates (core : Nat × Int × Accuracy) (x : ℝ) : Prop :=
  core.1 * (2 : ℝ) ^ core.2.1 ≤ x ∧ x ≤ (core.1 + 1) * (2 : ℝ) ^ core.2.1 ∧
    (core.2.1 ≤ -1074 ∨ 52 ≤ core.1.log2)

/-- What is located is approximated by rounding. -/
theorem Locates.round {core : Nat × Int × Accuracy} {x : ℝ} (located : Locates core x)
    (sign : Sign) :
    Approximates (.roundWithAccuracy .binary64 sign core.1 core.2.1 core.2.2)
      (signFactor sign * x) := by
  obtain ⟨lower, upper, bits⟩ := located
  exact roundWithAccuracy_near sign core.2.2 lower upper (by omega)

/-- Moving a mantissa to a smaller exponent does not change what it stands for. -/
theorem shiftLeft_value (mantissa count : Nat) (exponent : Int) :
    ((mantissa <<< count : Nat) : ℝ) * 2 ^ (exponent - count) = mantissa * 2 ^ exponent := by
  rw [Nat.shiftLeft_eq, Nat.cast_mul, Nat.cast_pow, Nat.cast_ofNat, mul_assoc, ← zpow_natCast,
    ← zpow_add₀ two_ne_zero, add_sub_cancel]

/-- Moving a mantissa adds to its bits. -/
theorem log2_shiftLeft {mantissa : Nat} (positive : 0 < mantissa) (count : Nat) :
    (mantissa <<< count).log2 = mantissa.log2 + count := by
  have least := Nat.log2_self_le positive.ne'
  have most := @Nat.lt_log2_self mantissa
  rw [Nat.shiftLeft_eq]
  refine (Nat.log2_eq_iff (by positivity)).mpr ⟨?_, ?_⟩
  · rw [pow_add]
    gcongr
  · rw [add_right_comm, pow_add]
    gcongr

/-- A positive mantissa at any exponent is rounded to a number next to it. -/
theorem round_near (sign : Sign) {mantissa : Nat} (exponent : Int) (positive : 0 < mantissa) :
    Approximates (UnpackedFloat.round .binary64 sign mantissa exponent)
      (signFactor sign * (mantissa * 2 ^ exponent)) := by
  unfold UnpackedFloat.round
  dsimp only [decreaseExponent]
  rw [targetExponent_binary64]
  generalize counted : (exponent - max ((mantissa.log2 : Int) + exponent - 52) (-1074)).toNat =
    count
  have same := shiftLeft_value mantissa count exponent
  have next : (0 : ℝ) < 2 ^ (exponent - count) := zpow_pos two_pos _
  have log := log2_shiftLeft positive count
  refine roundWithAccuracy_near sign .exact same.le ?_ ?_
  · rw [add_mul, same]
    linarith
  · omega

/-- So is an integer mantissa. -/
theorem normalize_near (mantissa : Int) (exponent : Int) :
    Approximates (UnpackedFloat.normalize .binary64 mantissa exponent .positive)
      (mantissa * 2 ^ exponent) := by
  unfold UnpackedFloat.normalize
  rcases lt_trichotomy mantissa 0 with below | zero | above
  · rw [compare_lt_iff_lt.mpr below]
    have near := round_near .negative exponent (by omega : 0 < (-mantissa).toNat)
    have cast : (((-mantissa).toNat : Nat) : ℝ) = -mantissa := by
      exact_mod_cast Int.toNat_of_nonneg (by omega)
    rw [cast] at near
    simpa [signFactor] using near
  · rw [zero, compare_eq_iff_eq.mpr rfl]
    simp [Approximates, Canonical, unpackedValue, leastError]
  · rw [compare_gt_iff_gt.mpr above]
    have near := round_near .positive exponent (by omega : 0 < mantissa.toNat)
    have cast : ((mantissa.toNat : Nat) : ℝ) = mantissa := by
      exact_mod_cast Int.toNat_of_nonneg above.le
    rw [cast] at near
    simpa [signFactor] using near

end Rounding

section Packing

/-- Equal parts make equal numbers. -/
theorem finite_congr {sign other : Sign} {m n : Nat} {e f : Int} {positive : 0 < m}
    (signs : sign = other) (mantissas : m = n) (exponents : e = f) :
    UnpackedFloat.finite sign m e positive = .finite other n f (mantissas ▸ positive) := by
  subst signs mantissas exponents
  rfl

/-- A leading bit counts for the power of two above the other bits. -/
theorem toNat_leading (mantissa : BitVec Format.binary64.mantissaBitsWithoutImplicit) :
    (1#1 ++ mantissa).toNat = 2 ^ 52 + mantissa.toNat := by
  have below : mantissa.toNat < 2 ^ 52 := mantissa.isLt
  rw [BitVec.toNat_append, ← Nat.shiftLeft_add_eq_or_of_lt below]
  rfl

/-- Components with an exponent between the least and the greatest one are those of a number with
a leading bit. -/
theorem unpack_components_normal (sign : Sign) {exponent : BitVec Format.binary64.exponentBits}
    (finite : exponent ≠ -1#_) (normal : exponent ≠ 0#_)
    (mantissa : BitVec Format.binary64.mantissaBitsWithoutImplicit) :
    UnpackedFloat.unpack .binary64 (packComponents .binary64 sign exponent mantissa) =
      .finite sign (2 ^ 52 + mantissa.toNat) (exponent.toNat - 1075)
        (Nat.add_pos_left (Nat.two_pow_pos 52) _) := by
  unfold UnpackedFloat.unpack
  dsimp only
  simp only [unpackExponent_packComponents, unpackMantissa_packComponents,
    unpackSign_packComponents, Sign.ofBitVec_toBitVec]
  rw [if_neg finite, if_neg normal]
  exact finite_congr rfl (toNat_leading mantissa) rfl

/-- Components with the least exponent are those of a number without a leading bit. -/
theorem unpack_components_subnormal (sign : Sign)
    {mantissa : BitVec Format.binary64.mantissaBitsWithoutImplicit}
    (positive : 0 < mantissa.toNat) :
    UnpackedFloat.unpack .binary64 (packComponents .binary64 sign 0#_ mantissa) =
      .finite sign mantissa.toNat (-1074) positive := by
  have nonzero : mantissa ≠ 0#_ := by
    rintro rfl
    exact absurd positive (by decide)
  have finite : (0#_ : BitVec Format.binary64.exponentBits) ≠ -1#_ := by decide
  unfold UnpackedFloat.unpack
  dsimp only
  simp only [unpackExponent_packComponents, unpackMantissa_packComponents,
    unpackSign_packComponents, Sign.ofBitVec_toBitVec]
  rw [if_neg finite, if_pos trivial, dif_neg nonzero]
  rfl

/-- An infinite number is read back with its sign. -/
theorem unpack_infinity (sign : Sign) :
    UnpackedFloat.unpack .binary64 (packedInfinity .binary64 sign) = .infinity sign := by
  cases sign <;> with_unfolding_all rfl

/-- A finite number in canonical form is packed as it is, or as an infinite one if its exponent is
too great. -/
theorem unpack_pack_finite {sign : Sign} {mantissa : Nat} {exponent : Int}
    {positive : 0 < mantissa} (canonical : Canonical (.finite sign mantissa exponent positive)) :
    (pack (.finite sign mantissa exponent positive)).unpack =
      if 971 < exponent then .infinity sign else .finite sign mantissa exponent positive := by
  obtain ⟨fits, floor, full⟩ := canonical
  obtain ⟨place, biased⟩ : ∃ place : Nat, (place : Int) = exponent + 1075 :=
    ⟨(exponent + 1075).toNat, by omega⟩
  have shape : (pack (.finite sign mantissa exponent positive)).unpack =
      UnpackedFloat.unpack .binary64
        (if 2048 ≤ place + 1 then packedInfinity .binary64 sign
        else if mantissa.log2 + 1 = 53 then
          packComponents .binary64 sign (BitVec.ofNat _ place) (BitVec.ofNat _ mantissa)
        else packComponents .binary64 sign 0#_ (BitVec.ofNat _ mantissa)) := by
    have count : place = (exponent + (1023 : Nat) + (52 : Nat)).toNat := by omega
    rw [count]
    rfl
  have exponentBits (below : place < 2047) :
      (BitVec.ofNat Format.binary64.exponentBits place).toNat = place := by
    rw [BitVec.toNat_ofNat]
    exact Nat.mod_eq_of_lt (below.trans (by decide))
  have mantissaBits : (BitVec.ofNat Format.binary64.mantissaBitsWithoutImplicit mantissa).toNat =
      mantissa % 2 ^ 52 := BitVec.toNat_ofNat ..
  rw [shape]
  by_cases great : 971 < exponent
  · rw [if_pos great, if_pos (by omega), unpack_infinity]
  rw [if_neg great, if_neg (by omega)]
  by_cases leading : 2 ^ 52 ≤ mantissa
  · have log : mantissa.log2 = 52 := (Nat.log2_eq_iff (by omega)).mpr ⟨leading, fits⟩
    rw [if_pos (by omega)]
    have number := exponentBits (by omega)
    rw [unpack_components_normal]
    · exact finite_congr rfl (by omega) (by omega)
    · intro same
      have greatest : (-1#_ : BitVec Format.binary64.exponentBits).toNat = 2047 := rfl
      rw [← same, number] at greatest
      omega
    · intro same
      have least : (0#_ : BitVec Format.binary64.exponentBits).toNat = 0 := rfl
      rw [← same, number] at least
      omega
  · have log : mantissa.log2 < 52 := (Nat.log2_lt (by omega)).mpr (by omega)
    have same : (BitVec.ofNat Format.binary64.mantissaBitsWithoutImplicit mantissa).toNat =
      mantissa := by omega
    rw [if_neg (by omega), unpack_components_subnormal sign (by omega)]
    exact finite_congr rfl same (by omega)

/-- Unpacking leads to canonical form. -/
theorem canonical_unpack_bits {bits : BitVec Format.binary64.numBits}
    (finite : (UnpackedFloat.unpack .binary64 bits).isFinite) :
    Canonical (UnpackedFloat.unpack .binary64 bits) := by
  revert finite
  unfold UnpackedFloat.unpack
  dsimp only
  by_cases infinite : unpackExponent bits = -1#_
  · rw [if_pos infinite]
    split <;> exact fun given => absurd given Bool.false_ne_true
  rw [if_neg infinite]
  intro _
  by_cases least : unpackExponent bits = 0#_
  · rw [if_pos least]
    split
    · trivial
    · refine ⟨(unpackMantissa bits).isLt.trans (by decide), ?_⟩
      rw [least]
      exact ⟨le_of_eq rfl, .inl rfl⟩
  · rw [if_neg least]
    have below : (unpackMantissa bits).toNat < 2 ^ 52 := (unpackMantissa bits).isLt
    have positive : (unpackExponent bits).toNat ≠ 0 := fun zero =>
      least (BitVec.eq_of_toNat_eq zero)
    refine ⟨?_, ?_, .inr ?_⟩
    · rw [toNat_leading]
      omega
    · show (-1074 : Int) ≤ (unpackExponent bits).toNat - 1075
      omega
    · rw [toNat_leading]
      omega

/-- What a finite number unpacks to is in canonical form. -/
theorem canonical_unpack {x : Float} (finite : x.isFinite) : Canonical x.toModel.unpack :=
  canonical_unpack_bits finite

end Packing

end Drafting
