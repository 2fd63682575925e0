import Drafting.Relation.Plane
import Mathlib.Algebra.Ring.Nat

/-!
# Lengths are never refused

A root is refused if it has no value although its argument has one, which happens below zero only.
The square of a length is rounded, but it is compared with zero before its root is taken. So a
length always has a value, and so has every distance. Rounding and packing keep the sign, so a sum
of two squares has a root as well.
-/

namespace Drafting

open Float.Model
open UnpackedFloat (Sign packComponents packedInfinity unpackExponent unpackSign
  unpackExponent_packComponents)

/-- What is unpacked is a number unless its exponent is the greatest one. -/
theorem isNaN_unpack {bits : BitVec Format.binary64.numBits}
    (below : unpackExponent bits ≠ -1#_) : (UnpackedFloat.unpack .binary64 bits).isNaN = false := by
  show UnpackedFloat.isNaN (if unpackExponent bits = -1#_ then _ else _) = false
  rw [if_neg below]
  by_cases least : unpackExponent bits = 0#_
  · rw [if_pos least]
    by_cases zero : UnpackedFloat.unpackMantissa bits = 0#_
    · rw [dif_pos zero]
      rfl
    · rw [dif_neg zero]
      rfl
  · rw [if_neg least]
    rfl

/-- Components below the greatest exponent are those of a number. -/
theorem isNaN_unpack_components (sign : Sign) {exponent : BitVec Format.binary64.exponentBits}
    (below : exponent ≠ -1#_) (mantissa : BitVec Format.binary64.mantissaBitsWithoutImplicit) :
    (UnpackedFloat.unpack .binary64
      (packComponents .binary64 sign exponent mantissa)).isNaN = false :=
  isNaN_unpack (by rw [unpackExponent_packComponents]; exact below)

/-- The components of a finite number are those of a number: where its exponent is too great, they
are those of an infinite one. -/
theorem isNaN_unpack_finite (sign : Sign) (place : Nat) (normal : Prop) [Decidable normal]
    (mantissa : BitVec Format.binary64.mantissaBitsWithoutImplicit) :
    (UnpackedFloat.unpack .binary64
      (if 2 ^ Format.binary64.exponentBits ≤ place + 1 then packedInfinity .binary64 sign
        else if normal then packComponents .binary64 sign (BitVec.ofNat _ place) mantissa
        else packComponents .binary64 sign 0#_ mantissa)).isNaN = false := by
  by_cases great : 2 ^ Format.binary64.exponentBits ≤ place + 1
  · rw [if_pos great]
    cases sign <;> decide +kernel
  · rw [if_neg great]
    by_cases shaped : normal
    · rw [if_pos shaped]
      refine isNaN_unpack_components sign (fun same => ?_) mantissa
      have exponent := congrArg BitVec.toNat same
      rw [BitVec.toNat_ofNat, Nat.mod_eq_of_lt (by omega)] at exponent
      have greatest : (-1#_ : BitVec Format.binary64.exponentBits).toNat = 2047 := rfl
      have width : 2 ^ Format.binary64.exponentBits = 2048 := rfl
      omega
    · rw [if_neg shaped]
      exact isNaN_unpack_components sign (by decide) mantissa

/-- Packing makes no number undefined. -/
theorem isNaN_pack {number : UnpackedFloat} (defined : number.isNaN = false) :
    (pack number).isNaN = false := by
  cases number with
  | infinity sign => cases sign <;> decide +kernel
  | notANumber => cases defined
  | zero sign => cases sign <;> decide +kernel
  | finite sign mantissa exponent positive => exact isNaN_unpack_finite sign _ _ _

/-- Rounding makes no number undefined. -/
theorem isNaN_roundWithAccuracy (format : Format) (sign : Sign) (mantissa : Nat) (exponent : Int)
    (accuracy : UnpackedFloat.Accuracy) :
    (UnpackedFloat.roundWithAccuracy format sign mantissa exponent accuracy).isNaN = false := by
  have rounded (m : Nat) (e : Int) : (if zero : m = 0 then UnpackedFloat.zero sign
      else .finite sign m e (Nat.pos_of_ne_zero zero)).isNaN = false := by
    by_cases zero : m = 0
    · rw [dif_pos zero]
      rfl
    · rw [dif_neg zero]
      rfl
  exact rounded _ _

/-- A number is not below zero. Neither is what is not a number. -/
def NotBelow (number : UnpackedFloat) : Prop := number.lt (.zero .positive) = false

/-- The square root of what is not below zero is a number. -/
theorem isNaN_sqrt {number : UnpackedFloat} (defined : number.isNaN = false)
    (above : NotBelow number) :
    (UnpackedFloat.sqrt .binary64 number).isNaN = false := by
  cases number with
  | infinity sign =>
    cases sign with
    | positive => rfl
    | negative => cases above
  | notANumber => cases defined
  | zero sign => rfl
  | finite sign mantissa exponent positive =>
    cases sign with
    | positive => exact isNaN_roundWithAccuracy ..
    | negative => cases above

/-- The number zero, unpacked. -/
theorem unpack_zero : (0.0 : Float).toModel.unpack = .zero .positive := by
  with_unfolding_all rfl

/-- A root of what is not below zero is never refused. -/
theorem root_ok {x : Float} (above : NotBelow x.toModel.unpack) : ∃ y, root x = .ok y := by
  refine ⟨x.sqrt, if_neg fun refused => ?_⟩
  obtain ⟨undefined, number⟩ := (Bool.and_eq_true ..).mp refused
  rw [Bool.not_eq_true'] at number
  have defined := isNaN_pack (isNaN_sqrt number above)
  exact absurd undefined (Bool.eq_false_iff.mp defined)

/-- The greater of a number and zero is not below zero. -/
theorem larger_zero_not_below (x : Float) : NotBelow (larger x 0.0).toModel.unpack := by
  unfold NotBelow larger
  cases below : less x 0.0 with
  | true =>
    rw [if_pos rfl, unpack_zero]
    rfl
  | false =>
    have compared : less x 0.0 = x.toModel.unpack.lt (0.0 : Float).toModel.unpack :=
      Bool.eq_iff_iff.mpr (decide_eq_true_iff.trans decide_eq_true_iff)
    rw [if_neg Bool.false_ne_true, ← unpack_zero, ← compared, below]

/-- A vector has a length. -/
theorem PlaneVector.length_ok (v : PlaneVector Float) : ∃ x, v.length = .ok x :=
  root_ok (larger_zero_not_below _)

/-- A vector has a length that can divide. -/
theorem PlaneVector.safeLength_ok (v : PlaneVector Float) : ∃ x, v.safeLength = .ok x := by
  obtain ⟨x, measured⟩ := v.length_ok
  unfold safeLength
  rw [measured]
  exact ⟨_, rfl⟩

/-- Two points have a distance. -/
theorem distance_ok (a b : PlaneVector Float) : ∃ x, distance a b = .ok x :=
  (b.minus a).length_ok

/-- The sign that is packed is the one that is unpacked. -/
theorem unpackSign_packComponents {spec : Format} (sign : Sign)
    (exponent : BitVec spec.exponentBits) (mantissa : BitVec spec.mantissaBitsWithoutImplicit) :
    unpackSign (packComponents spec sign exponent mantissa) = sign.toBitVec := by
  ext i first
  obtain rfl : i = 0 := by omega
  unfold unpackSign packComponents
  simp [BitVec.getLsbD_append, BitVec.getElem_append]

/-- What has a positive sign is not below zero. -/
theorem unpack_not_below {bits : BitVec Format.binary64.numBits} (sign : unpackSign bits = 0#1) :
    NotBelow (UnpackedFloat.unpack .binary64 bits) := by
  unfold UnpackedFloat.unpack
  rw [sign]
  dsimp only
  by_cases infinite : unpackExponent bits = -1#_
  · rw [if_pos infinite]
    by_cases bare : UnpackedFloat.unpackMantissa bits = 0#_
    · rw [if_pos bare]
      rfl
    · rw [if_neg bare]
      rfl
  · rw [if_neg infinite]
    by_cases least : unpackExponent bits = 0#_
    · rw [if_pos least]
      by_cases zero : UnpackedFloat.unpackMantissa bits = 0#_
      · rw [dif_pos zero]
        rfl
      · rw [dif_neg zero]
        rfl
    · rw [if_neg least]
      rfl

/-- Components with a positive sign are not those of a number below zero. -/
theorem unpack_components_not_below (exponent : BitVec Format.binary64.exponentBits)
    (mantissa : BitVec Format.binary64.mantissaBitsWithoutImplicit) :
    NotBelow (UnpackedFloat.unpack .binary64
      (packComponents .binary64 .positive exponent mantissa)) :=
  unpack_not_below (unpackSign_packComponents .positive exponent mantissa)

/-- Nor are those of a finite number with a positive sign, however great its exponent. -/
theorem unpack_finite_not_below (place : Nat) (normal : Prop) [Decidable normal]
    (mantissa : BitVec Format.binary64.mantissaBitsWithoutImplicit) :
    NotBelow (UnpackedFloat.unpack .binary64
      (if 2 ^ Format.binary64.exponentBits ≤ place + 1 then packedInfinity .binary64 .positive
        else if normal then packComponents .binary64 .positive (BitVec.ofNat _ place) mantissa
        else packComponents .binary64 .positive 0#_ mantissa)) := by
  by_cases great : 2 ^ Format.binary64.exponentBits ≤ place + 1
  · rw [if_pos great]
    exact unpack_components_not_below ..
  · rw [if_neg great]
    by_cases shaped : normal
    · rw [if_pos shaped]
      exact unpack_components_not_below ..
    · rw [if_neg shaped]
      exact unpack_components_not_below ..

/-- Packing takes no number below zero. -/
theorem pack_not_below {number : UnpackedFloat} (above : NotBelow number) :
    NotBelow (pack number).unpack := by
  cases number with
  | infinity sign =>
    cases sign with
    | positive => exact unpack_components_not_below ..
    | negative => cases above
  | notANumber => exact unpack_components_not_below ..
  | zero sign =>
    cases sign with
    | positive => exact unpack_components_not_below ..
    | negative =>
      show (pack (.zero .negative)).unpack.lt (.zero .positive) = false
      decide +kernel
  | finite sign mantissa exponent _ =>
    cases sign with
    | negative => cases above
    | positive => exact unpack_finite_not_below _ _ _

/-- Rounding what is positive does not lead below zero. -/
theorem roundWithAccuracy_not_below (mantissa : Nat) (exponent : Int)
    (accuracy : UnpackedFloat.Accuracy) :
    NotBelow (UnpackedFloat.roundWithAccuracy .binary64 .positive mantissa exponent accuracy) := by
  have rounded (m : Nat) (e : Int) : NotBelow (if zero : m = 0 then .zero .positive
      else .finite .positive m e (Nat.pos_of_ne_zero zero)) := by
    by_cases zero : m = 0
    · rw [dif_pos zero]
      rfl
    · rw [dif_neg zero]
      rfl
  exact rounded _ _

/-- A square is not below zero. -/
theorem mul_self_not_below (number : UnpackedFloat) : NotBelow (.mul .binary64 number number) := by
  cases number with
  | infinity sign => cases sign <;> rfl
  | notANumber => rfl
  | zero sign => cases sign <;> rfl
  | finite sign mantissa exponent _ =>
    cases sign <;> exact roundWithAccuracy_not_below ..

/-- A sum of what is not below zero is not below zero. -/
theorem add_not_below {a b : UnpackedFloat} (left : NotBelow a) (right : NotBelow b) :
   NotBelow (.add .binary64 a b) := by
  rcases a with ⟨⟨⟩⟩ | _ | ⟨⟨⟩⟩ | ⟨⟨⟩, m, e, hm⟩ <;> rcases b with ⟨⟨⟩⟩ | _ | ⟨⟨⟩⟩ | ⟨⟨⟩, n, f, hn⟩
  all_goals first | cases left; done | cases right; done | rfl | skip
  unfold UnpackedFloat.add UnpackedFloat.normalize
  dsimp only
  split
  next below =>
    rw [Int.compare_eq_lt] at below
    simp only [Sign.apply] at below
    omega
  · rfl
  · exact roundWithAccuracy_not_below ..
/-- A sum of two squares has a root. -/
theorem root_squares_ok (x y : Float) : ∃ z, root (x * x + y * y) = .ok z := by
  have squared (x : Float) : NotBelow (x * x).toModel.unpack :=
    pack_not_below (mul_self_not_below x.toModel.unpack)
  exact root_ok (pack_not_below (add_not_below (squared x) (squared y)))

end Drafting
