import Mathlib
import ScriptValue.Proofs.Binary64.Special

/-!
# Operations that do not depend on the order of their operands

Sums and products are the same in either order, and so is the magnitude of a difference. The
arithmetic of numbers in floating point unpacks its operands, calculates, and packs the result, so
each law is one on unpacked numbers, by cases on what they are.

* `add_comm`, `mul_comm`: sums and products.
* `abs_sub_comm`: the distance of two numbers.
-/

namespace ScriptValue.Binary64

open Float.Model (UnpackedFloat Format)
open Float.Model.UnpackedFloat (Sign pack unpack packedInfinity packedZero unpackExponent
  unpackMantissa)

/-! ## Sums and products -/

theorem sign_mul_comm (s t : Sign) : s * t = t * s := by
  cases s <;> cases t <;> rfl

theorem unpacked_add_comm (spec : Format) (u v : UnpackedFloat) :
    u.add spec v = v.add spec u := by
  cases u with
  | notANumber => cases v <;> rfl
  | infinity s =>
    cases v with
    | infinity t => cases s <;> cases t <;> rfl
    | _ => rfl
  | zero s =>
    cases v with
    | zero t => cases s <;> cases t <;> rfl
    | _ => rfl
  | finite s m e hm =>
    cases v with
    | finite t n k hn =>
      simp only [UnpackedFloat.add, Int.min_comm e k, Int.add_comm (s.apply _)]
    | _ => rfl

theorem unpacked_mul_comm (spec : Format) (u v : UnpackedFloat) :
    u.mul spec v = v.mul spec u := by
  cases u <;> cases v <;>
    simp only [UnpackedFloat.mul, sign_mul_comm, Nat.mul_comm, Int.add_comm]

theorem add_comm (x y : Float) : x + y = y + x := by
  change Float.ofModel (.pack (UnpackedFloat.add .binary64 x.toModel.unpack y.toModel.unpack)) = _
  rw [unpacked_add_comm]
  rfl

theorem mul_comm (x y : Float) : x * y = y * x := by
  change Float.ofModel (.pack (UnpackedFloat.mul .binary64 x.toModel.unpack y.toModel.unpack)) = _
  rw [unpacked_mul_comm]
  rfl

/-! ## Distances -/

/-- Rounding gives the same magnitude with either sign. -/
theorem abs_round (spec : Format) (s t : Sign) (mantissa : Nat) (exponent : Int) :
    (UnpackedFloat.round spec s mantissa exponent).abs =
      (UnpackedFloat.round spec t mantissa exponent).abs := by
  simp only [UnpackedFloat.round, UnpackedFloat.roundWithAccuracy]
  split <;> rfl

theorem abs_normalize_neg (spec : Format) (mantissa exponent : Int) (s : Sign) :
    (UnpackedFloat.normalize spec (-mantissa) exponent s).abs =
      (UnpackedFloat.normalize spec mantissa exponent s).abs := by
  unfold UnpackedFloat.normalize
  rcases Int.lt_trichotomy mantissa 0 with hNegative | rfl | hPositive
  · have hOther : compare (-mantissa) 0 = .gt := Int.compare_eq_gt.mpr (by omega)
    rw [hOther, Int.compare_eq_lt.mpr hNegative]
    exact abs_round spec _ _ _ _
  · rfl
  · have hOther : compare (-mantissa) 0 = .lt := Int.compare_eq_lt.mpr (by omega)
    rw [hOther, Int.compare_eq_gt.mpr hPositive, Int.neg_neg]
    exact abs_round spec _ _ _ _

theorem abs_unpacked_sub_comm (spec : Format) (u v : UnpackedFloat) :
    (u.sub spec v).abs = (v.sub spec u).abs := by
  cases u with
  | notANumber => cases v <;> rfl
  | infinity s =>
    cases v with
    | infinity t => cases s <;> cases t <;> rfl
    | _ => rfl
  | zero s =>
    cases v with
    | zero t => cases s <;> cases t <;> rfl
    | _ => rfl
  | finite s m e hm =>
    cases v with
    | finite t n k hn =>
      simp only [UnpackedFloat.sub, Int.min_comm k e]
      rw [← abs_normalize_neg, Int.neg_sub]
    | _ => rfl

/-- The bits of a packed number but for its sign are those of its magnitude. -/
theorem components_pack_abs (spec : Format) (u : UnpackedFloat) :
    unpackExponent (pack spec u.abs) = unpackExponent (pack spec u) ∧
      unpackMantissa (pack spec u.abs) = unpackMantissa (pack spec u) := by
  cases u with
  | notANumber => exact ⟨rfl, rfl⟩
  | infinity s => simp [UnpackedFloat.abs, pack, packedInfinity]
  | zero s => simp [UnpackedFloat.abs, pack, packedZero]
  | finite s m e hm =>
    simp only [UnpackedFloat.abs, pack]
    split
    · simp [packedInfinity]
    · split <;> simp

theorem abs_unpack_congr {spec : Format} {b c : BitVec spec.numBits}
    (hExponent : unpackExponent b = unpackExponent c)
    (hMantissa : unpackMantissa b = unpackMantissa c) :
    (unpack spec b).abs = (unpack spec c).abs := by
  simp only [unpack, hExponent, hMantissa]
  split
  · split <;> rfl
  · split
    · split <;> rfl
    · rfl

/-- The sign of a number is lost in its magnitude, also before it is packed. -/
theorem abs_pack (u : UnpackedFloat) :
    (Float.Model.pack u).abs = (Float.Model.pack u.abs).abs := by
  obtain ⟨hExponent, hMantissa⟩ := components_pack_abs .binary64 u
  exact congrArg Float.Model.pack (abs_unpack_congr hExponent.symm hMantissa.symm)

theorem abs_sub_comm (x y : Float) : (x - y).abs = (y - x).abs := by
  have hMagnitude := abs_unpacked_sub_comm .binary64 x.toModel.unpack y.toModel.unpack
  apply congrArg Float.ofModel
  calc (x - y).toModel.abs
      = (Float.Model.pack (x.toModel.unpack.sub .binary64 y.toModel.unpack).abs).abs := abs_pack _
    _ = (Float.Model.pack (y.toModel.unpack.sub .binary64 x.toModel.unpack).abs).abs := by
      rw [hMagnitude]
    _ = (y - x).toModel.abs := (abs_pack _).symm

end ScriptValue.Binary64
