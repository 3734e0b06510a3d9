import Mathlib.Logic.Basic
import ScriptValue.Binary64.Basic

/-!
# Zeros, infinities and NaN

A number in floating point is its bits, and all NaNs have the same bits. So the special numbers
are pinned down by what they denote.

* `eq_nan_of_shape`, `eq_infinity_of_shape`: a shape that is not finite belongs to one number.
* `eq_nan_or_infinity_of_not_isFinite`: the numbers that are not finite.
* `beq_zero_iff`: the numbers that compare equal to zero are the two zeros.
-/

namespace ScriptValue.Binary64

open Float.Model (UnpackedFloat)

/-! ## Bits -/

theorem toBits_inj {f g : Float} (h : f.toBits = g.toBits) : f = g := by
  rcases f with ⟨⟨f, hf⟩⟩
  rcases g with ⟨⟨g, hg⟩⟩
  cases h
  rfl

theorem toNat_toBits_inj {f g : Float} (h : f.toBits.toNat = g.toBits.toNat) : f = g :=
  toBits_inj (UInt64.toNat_inj.mp h)

theorem toNat_unpackExponent (bits : UInt64) :
    (@UnpackedFloat.unpackExponent .binary64 bits.toBitVec).toNat =
      bits.toNat / Nat.pow 2 52 % Nat.pow 2 11 := by
  simp [UnpackedFloat.unpackExponent, Nat.shiftRight_eq_div_pow]

theorem toNat_unpackMantissa (bits : UInt64) :
    (@UnpackedFloat.unpackMantissa .binary64 bits.toBitVec).toNat =
      bits.toNat % Nat.pow 2 52 := by
  simp [UnpackedFloat.unpackMantissa]

/-! ## Shapes that are not finite -/

theorem eq_nan_of_shape {f : Float} (h : shape f = .nan) : f = nan := by
  unfold shape at h
  dsimp only at h
  split at h
  · rename_i hExponent
    split at h
    · cases h
    · rename_i hFraction
      -- the type of numbers admits one NaN only
      have hValid := f.toModel.valid.eq_packedNaN
      rw [← BitVec.toNat_inj, toNat_unpackExponent, ne_eq, ← BitVec.toNat_inj,
        toNat_unpackMantissa] at hValid
      exact toBits_inj (UInt64.toBitVec_inj.mp (hValid hExponent hFraction))
  · split at h <;> cases h

theorem eq_infinity_of_shape {f : Float} {negative : Bool} (h : shape f = .infinite negative) :
    f = infinity negative := by
  unfold shape at h
  dsimp only at h
  split at h
  · rename_i hExponent
    split at h
    · rename_i hFraction
      simp only [Shape.infinite.injEq] at h
      apply toNat_toBits_inj
      have hlt := f.toBits.toNat_lt
      cases negative with
      | false =>
        have hInfinity : (infinity false).toBits.toNat = 2047 * Nat.pow 2 52 := rfl
        simp only [decide_eq_false_iff_not] at h
        simp only [Nat.pow_eq] at *
        omega
      | true =>
        have hInfinity : (infinity true).toBits.toNat = Nat.pow 2 63 + 2047 * Nat.pow 2 52 := rfl
        simp only [decide_eq_true_eq] at h
        simp only [Nat.pow_eq] at *
        omega
    · cases h
  · split at h <;> cases h

/-- A number that is not finite has all exponent bits set. -/
theorem exponent_of_not_isFinite {f : Float} (h : f.isFinite = false) :
    f.toBits.toNat / Nat.pow 2 52 % Nat.pow 2 11 = 2047 := by
  obtain ⟨u, hUnpack⟩ : ∃ u, f.toModel.unpack = u := ⟨_, rfl⟩
  have hStatus : u.isFinite = false := by
    rw [← hUnpack]
    exact h
  unfold Float.Model.unpack UnpackedFloat.unpack at hUnpack
  dsimp only at hUnpack
  rcases ite_eq_iff.mp hUnpack with ⟨hExponent, -⟩ | ⟨-, hUnpack⟩
  · rw [← BitVec.toNat_inj, toNat_unpackExponent] at hExponent
    exact hExponent
  · rcases ite_eq_iff.mp hUnpack with ⟨-, hUnpack⟩ | ⟨-, rfl⟩
    · rcases dite_eq_iff.mp hUnpack with ⟨_, rfl⟩ | ⟨_, rfl⟩ <;> cases hStatus
    · cases hStatus

theorem shape_of_not_isFinite {f : Float} (h : f.isFinite = false) :
    shape f = .nan ∨ ∃ negative, shape f = .infinite negative := by
  unfold shape
  simp only [exponent_of_not_isFinite h, if_true]
  split
  · exact Or.inr ⟨_, rfl⟩
  · exact Or.inl rfl

theorem eq_nan_or_infinity_of_not_isFinite {f : Float} (h : f.isFinite = false) :
    f = nan ∨ ∃ negative, f = infinity negative := by
  rcases shape_of_not_isFinite h with hNaN | ⟨negative, hInfinite⟩
  · exact Or.inl (eq_nan_of_shape hNaN)
  · exact Or.inr ⟨negative, eq_infinity_of_shape hInfinite⟩

/-! ## Zeros -/

theorem eq_zero_of_unpack {f : Float} {s : UnpackedFloat.Sign} (h : f.toModel.unpack = .zero s) :
    f = zero false ∨ f = zero true := by
  unfold Float.Model.unpack UnpackedFloat.unpack at h
  dsimp only at h
  rcases ite_eq_iff.mp h with ⟨-, h⟩ | ⟨-, h⟩
  · rcases ite_eq_iff.mp h with ⟨-, h⟩ | ⟨-, h⟩ <;> cases h
  rcases ite_eq_iff.mp h with ⟨hExponent, h⟩ | ⟨-, h⟩
  · rcases dite_eq_iff.mp h with ⟨hFraction, _⟩ | ⟨_, h⟩
    · rw [← BitVec.toNat_inj, toNat_unpackExponent] at hExponent
      rw [← BitVec.toNat_inj, toNat_unpackMantissa] at hFraction
      simp only [BitVec.toNat_ofNat] at hExponent hFraction
      have hlt := f.toModel.toBits.toNat_lt
      have hBits : f.toBits.toNat = 0 ∨ f.toBits.toNat = Nat.pow 2 63 := by
        change f.toModel.toBits.toNat = 0 ∨ f.toModel.toBits.toNat = Nat.pow 2 63
        simp only [Nat.pow_eq] at hExponent hFraction ⊢
        omega
      exact hBits.imp toNat_toBits_inj toNat_toBits_inj
    · cases h
  · cases h

theorem beq_zero_iff {f : Float} : (f == 0) = true ↔ f = zero false ∨ f = zero true := by
  constructor
  · intro h
    have hCompare : (f.toModel.unpack.compare (.zero .positive) == some .eq) = true := h
    cases hUnpack : f.toModel.unpack with
    | zero s => exact eq_zero_of_unpack hUnpack
    | notANumber =>
      rw [hUnpack] at hCompare
      exact absurd hCompare Bool.false_ne_true
    | infinity s =>
      rw [hUnpack] at hCompare
      cases s <;> exact absurd hCompare Bool.false_ne_true
    | finite s =>
      rw [hUnpack] at hCompare
      cases s <;> exact absurd hCompare Bool.false_ne_true
  · rintro (rfl | rfl) <;> rfl

end ScriptValue.Binary64
