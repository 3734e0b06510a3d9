import Mathlib
import ScriptValue.Binary64.Decimal
import ScriptValue.Proofs.Binary64.Arithmetic
import ScriptValue.Proofs.Numeral.Decimal

/-!
# Decimals are read correctly rounded

The number that a decimal is read as is the one nearest to it, whatever its exponent: the decimals
that are told to overflow or to vanish by the number of their digits do so when they are rounded.

* `ofDecimal_eq_nearest`: all decimals.
* `ofDecimal_natCast`, `ofDecimal_neg`: by the sign of the exponent.
-/

namespace ScriptValue.Binary64

open Numeral (Decimal lt_pow_length_toDigits pow_le_of_lt_length_toDigits)

/-! ## Both ends of the range -/

theorem nearestBits_eq_zero {n d : Nat} (h : 2 * n < d) : nearestBits n d = 0 := by
  have hd : 0 < d := by omega
  have hRound : roundHalfEven n (d * 2 ^ 0) = 0 := by
    apply roundHalfEven_eq <;> omega
  rw [nearestBits_eq (s := 0) hd (Or.inl rfl) (by omega), hRound]
  rfl

theorem two_pow_mul {a b c : Nat} (h : a + b = c) : 2 ^ a * 2 ^ b = 2 ^ c := by
  rw [← Nat.pow_add, h]

/-- The numbers from 2^1024 on are nearest to infinity. -/
theorem nearestBits_overflow {n d : Nat} (hd : 0 < d) (h : 2 ^ 1024 * d ≤ n) :
    nearestBits (n * unitsPerOne) d = infinityBits := by
  have hLeast : nearestBits (2 ^ 52 * 2 ^ 2046 * d) d = infinityBits := by
    rw [nearestBits_mantissa (by omega) (Or.inr le_rfl) hd]
    rfl
  have hExponent : 2 ^ 52 * 2 ^ 2046 = 2 ^ 1024 * unitsPerOne := by
    rw [unitsPerOne_eq]
    exact (two_pow_mul (c := 2098) (by decide)).trans (two_pow_mul (by decide)).symm
  refine le_antisymm (nearestBits_le _ _) ?_
  rw [← hLeast]
  apply nearestBits_mono hd hd
  apply Nat.mul_le_mul_right
  calc 2 ^ 52 * 2 ^ 2046 * d = 2 ^ 1024 * d * unitsPerOne := by rw [hExponent, Nat.mul_right_comm]
    _ ≤ n * unitsPerOne := Nat.mul_le_mul_right _ h

/-- The numbers up to the greatest finite one do not overflow. -/
theorem nearestBits_lt_infinityBits {n d : Nat} (hd : 0 < d) (h : n ≤ (2 ^ 53 - 1) * 2 ^ 971 * d) :
    nearestBits (n * unitsPerOne) d < infinityBits := by
  have hCanonical : Canonical (2 ^ 53 - 1) 2045 := ⟨by omega, le_rfl, Or.inr (by omega)⟩
  have hExponent : 2 ^ 971 * unitsPerOne = 2 ^ 2045 := by
    rw [unitsPerOne_eq]
    exact two_pow_mul (by decide)
  refine lt_of_le_of_lt ?_ hCanonical.lt_infinityBits
  rw [← nearestBits_exact hCanonical hd]
  apply nearestBits_mono hd hd
  apply Nat.mul_le_mul_right
  calc n * unitsPerOne ≤ (2 ^ 53 - 1) * 2 ^ 971 * d * unitsPerOne := Nat.mul_le_mul_right _ h
    _ = (2 ^ 53 - 1) * (2 ^ 971 * unitsPerOne) * d := by
        rw [Nat.mul_right_comm, Nat.mul_assoc _ _ unitsPerOne]
    _ = (2 ^ 53 - 1) * 2 ^ 2045 * d := by rw [hExponent]

theorem two_units_le : 2 * unitsPerOne ≤ 10 ^ 331 := by
  decide +kernel

theorem two_pow_le : 2 ^ 1024 ≤ 10 ^ 310 := by
  decide +kernel

/-! ## Decimals -/

/-- Below 10^-330 there is less than half a unit. -/
theorem two_mul_numerator_lt {d : Decimal}
    (h : (Nat.toDigits 10 d.digits).length + d.exponent < -330) :
    2 * (d.numerator * unitsPerOne) < d.denominator := by
  have hNumerator : d.numerator = d.digits := by
    unfold Decimal.numerator
    rw [Int.toNat_of_nonpos (by omega), Nat.pow_zero, Nat.mul_one]
  calc 2 * (d.numerator * unitsPerOne) = d.digits * (2 * unitsPerOne) := by
        rw [hNumerator]
        ring
    _ < 10 ^ (Nat.toDigits 10 d.digits).length * (2 * unitsPerOne) :=
        Nat.mul_lt_mul_of_pos_right (lt_pow_length_toDigits d.digits)
          (Nat.mul_pos (by decide) unitsPerOne_pos)
    _ ≤ 10 ^ (Nat.toDigits 10 d.digits).length * 10 ^ 331 := Nat.mul_le_mul_left _ two_units_le
    _ = 10 ^ ((Nat.toDigits 10 d.digits).length + 331) := by rw [Nat.pow_add]
    _ ≤ d.denominator := Nat.pow_le_pow_right (by decide) (by omega)

/-- From 10^310 on there is more than the greatest number. -/
theorem two_pow_mul_denominator_le {d : Decimal} (hDigits : d.digits ≠ 0)
    (h : 310 < (Nat.toDigits 10 d.digits).length + d.exponent) :
    2 ^ 1024 * d.denominator ≤ d.numerator := by
  have hLength := @Nat.length_toDigits_pos 10 d.digits
  have hLeast : 10 ^ ((Nat.toDigits 10 d.digits).length - 1) ≤ d.digits :=
    pow_le_of_lt_length_toDigits hDigits (by omega)
  calc 2 ^ 1024 * d.denominator ≤ 10 ^ 310 * 10 ^ (-d.exponent).toNat :=
        Nat.mul_le_mul_right _ two_pow_le
    _ = 10 ^ (310 + (-d.exponent).toNat) := by rw [Nat.pow_add]
    _ ≤ 10 ^ ((Nat.toDigits 10 d.digits).length - 1 + d.exponent.toNat) :=
        Nat.pow_le_pow_right (by decide) (by omega)
    _ = 10 ^ ((Nat.toDigits 10 d.digits).length - 1) * 10 ^ d.exponent.toNat := Nat.pow_add _ _ _
    _ ≤ d.numerator := Nat.mul_le_mul_right _ hLeast

/-- A decimal is read as the number nearest to it. -/
theorem ofDecimal_eq_nearest (negative : Bool) (d : Decimal) :
    ofDecimal negative d = nearest negative (d.numerator * unitsPerOne) d.denominator := by
  unfold ofDecimal
  simp only [Nat.pow_eq]
  by_cases hZero : d.digits = 0
  · rw [if_pos (Or.inl hZero), nearest, Decimal.numerator, hZero, Nat.zero_mul, Nat.zero_mul,
      nearestBits_zero]
    rfl
  by_cases hVanish : (Nat.toDigits 10 d.digits).length + d.exponent < -330
  · rw [if_pos (Or.inr hVanish), nearest, nearestBits_eq_zero (two_mul_numerator_lt hVanish)]
    rfl
  rw [if_neg (by omega)]
  by_cases hOverflow : 310 < (Nat.toDigits 10 d.digits).length + d.exponent
  · rw [if_pos hOverflow, nearest,
      nearestBits_overflow d.denominator_pos (two_pow_mul_denominator_le hZero hOverflow)]
    rfl
  rw [if_neg hOverflow]
  unfold Decimal.numerator Decimal.denominator
  split
  · have hExponent : (-d.exponent).toNat = 0 := by omega
    rw [hExponent, Nat.pow_zero]
  · have hExponent : d.exponent.toNat = 0 := by omega
    have hMagnitude : d.exponent.natAbs = (-d.exponent).toNat := by omega
    rw [hExponent, hMagnitude, Nat.pow_zero, Nat.mul_one]

theorem ofDecimal_natCast (negative : Bool) (digits n : Nat) :
    ofDecimal negative ⟨digits, n⟩ = nearest negative (digits * 10 ^ n * unitsPerOne) 1 := by
  have hNone : (-(n : Int)).toNat = 0 := by omega
  rw [ofDecimal_eq_nearest, Decimal.numerator, Decimal.denominator, Int.toNat_natCast, hNone,
    Nat.pow_zero]

theorem ofDecimal_neg (negative : Bool) (digits n : Nat) :
    ofDecimal negative ⟨digits, -n⟩ = nearest negative (digits * unitsPerOne) (10 ^ n) := by
  have hNone : (-(n : Int)).toNat = 0 := by omega
  rw [ofDecimal_eq_nearest, Decimal.numerator, Decimal.denominator, Int.neg_neg, Int.toNat_natCast,
    hNone, Nat.pow_zero, Nat.mul_one]

end ScriptValue.Binary64
