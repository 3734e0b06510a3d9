import Mathlib
import ScriptValue.Proofs.Binary64.Decimal

/-!
# How far roundings lead

A rounding to 53 bits changes a number by the factor `roundoff` at the most, and below the normal
numbers by half a unit. Such factors multiply along a computation (`Apart`). At the end they are
told in bits: the numbers of the format stand in the order of their magnitude bits, and a factor
`roundoff` is less than one step of them.

* `exists_shape_nearest`: one rounding.
* `Apart.mul`, `Apart.div`, `Apart.trans`: computations.
* `Close.nearestBits_le_add`: the steps between two results.
-/

namespace ScriptValue.Binary64

open Numeral (Decimal)

/-! ## Factors -/

/-- What a rounding to 53 bits may multiply or divide a number by. -/
def roundoff : ℚ :=
  1 + 1 / 2 ^ 53

theorem one_le_roundoff_pow (k : Nat) : 1 ≤ roundoff ^ k :=
  one_le_pow₀ (by norm_num [roundoff])

/-- Two numbers with at most `k` roundings between them. -/
def Apart (k : Nat) (x y : ℚ) : Prop :=
  x ≤ roundoff ^ k * y ∧ y ≤ roundoff ^ k * x

namespace Apart

variable {j k : Nat} {x y z x' y' : ℚ}

theorem refl (x : ℚ) : Apart 0 x x := by
  unfold Apart
  rw [pow_zero, one_mul]
  exact ⟨le_rfl, le_rfl⟩

theorem trans (h : Apart j x y) (h' : Apart k y z) : Apart (j + k) x z := by
  have hj := zero_le_one.trans (one_le_roundoff_pow j)
  have hk := zero_le_one.trans (one_le_roundoff_pow k)
  constructor
  · calc x ≤ roundoff ^ j * y := h.1
      _ ≤ roundoff ^ j * (roundoff ^ k * z) := mul_le_mul_of_nonneg_left h'.1 hj
      _ = roundoff ^ (j + k) * z := by rw [pow_add, mul_assoc]
  · calc z ≤ roundoff ^ k * y := h'.2
      _ ≤ roundoff ^ k * (roundoff ^ j * x) := mul_le_mul_of_nonneg_left h.2 hk
      _ = roundoff ^ (j + k) * x := by rw [pow_add]; ring

theorem mul_right (h : Apart k x y) (hz : 0 ≤ z) : Apart k (x * z) (y * z) := by
  constructor
  · calc x * z ≤ roundoff ^ k * y * z := mul_le_mul_of_nonneg_right h.1 hz
      _ = roundoff ^ k * (y * z) := mul_assoc _ _ _
  · calc y * z ≤ roundoff ^ k * x * z := mul_le_mul_of_nonneg_right h.2 hz
      _ = roundoff ^ k * (x * z) := mul_assoc _ _ _

theorem inv (h : Apart k x y) (hx : 0 < x) (hy : 0 < y) : Apart k x⁻¹ y⁻¹ := by
  constructor
  · rw [inv_eq_one_div, ← div_eq_mul_inv, div_le_div_iff₀ hx hy, one_mul]
    exact h.2
  · rw [inv_eq_one_div, ← div_eq_mul_inv, div_le_div_iff₀ hy hx, one_mul]
    exact h.1

theorem mul (h : Apart j x y) (h' : Apart k x' y') (hx' : 0 ≤ x') (hy : 0 ≤ y) :
    Apart (j + k) (x * x') (y * y') := by
  have hSecond := h'.mul_right hy
  rw [Rat.mul_comm x', Rat.mul_comm y'] at hSecond
  exact (h.mul_right hx').trans hSecond

theorem div (h : Apart j x y) (h' : Apart k x' y') (hx' : 0 < x') (hy' : 0 < y') (hy : 0 ≤ y) :
    Apart (j + k) (x / x') (y / y') := by
  rw [div_eq_mul_inv, div_eq_mul_inv]
  exact h.mul (h'.inv hx' hy') (inv_nonneg.mpr hx'.le) hy

end Apart

/-! ## One rounding -/

/-- The shift and the mantissa that rounding finds, where a mantissa of 2^53 stands for a carry.
The quotient is within half a step of their value. -/
theorem exists_rounded (n : Nat) {d : Nat} (hd : 0 < d) :
    ∃ r s : Nat, nearestBits n d = min (s * 2 ^ 52 + r) infinityBits ∧ r ≤ 2 ^ 53 ∧
      (s = 0 ∨ 2 ^ 52 * d ≤ n) ∧ (2 ^ 52 * d ≤ n → 2 ^ 52 ≤ r ∧ (2 ^ 52 * 2 ^ s : ℚ) ≤ n / d) ∧
      (n / d : ℚ) ≤ 2 ^ 53 * 2 ^ s ∧ (r * 2 ^ s : ℚ) ≤ n / d + 2 ^ s / 2 ∧
      (n / d : ℚ) ≤ r * 2 ^ s + 2 ^ s / 2 := by
  obtain ⟨s, hLow, hHigh⟩ := exists_shift n hd
  have hStep := Nat.mul_pos hd (Nat.two_pow_pos s)
  obtain ⟨-, hUpper⟩ := roundHalfEven_bounds hd hLow hHigh
  obtain ⟨hBelow, hAbove⟩ := roundHalfEven_spec (n := n) hStep
  have hPos : (0 : ℚ) < d := by exact_mod_cast hd
  have hNormal : 2 ^ 52 * d ≤ n → 2 ^ 52 * (d * 2 ^ s) ≤ n := by
    intro h
    rcases hLow with rfl | hLow
    · simpa using h
    · rwa [two_pow_add_mul] at hLow
  refine ⟨roundHalfEven n (d * 2 ^ s), s, nearestBits_eq hd hLow hHigh, hUpper, ?_, ?_, ?_, ?_, ?_⟩
  · refine hLow.imp_right fun h => ?_
    calc 2 ^ 52 * d ≤ 2 ^ (52 + s) * d :=
          Nat.mul_le_mul_right d (Nat.pow_le_pow_right (by decide) (by omega))
      _ ≤ n := h
  · intro h
    refine ⟨le_roundHalfEven hStep (hNormal h), ?_⟩
    have hCast : (2 ^ 52 * (d * 2 ^ s) : ℚ) ≤ n := by exact_mod_cast hNormal h
    rw [le_div_iff₀ hPos]
    linarith
  · rw [div_le_iff₀ hPos, ← pow_add]
    exact_mod_cast hHigh.le
  · generalize roundHalfEven n (d * 2 ^ s) = r at *
    have hCast : (2 * (r * (d * 2 ^ s)) : ℚ) ≤ 2 * n + d * 2 ^ s := by exact_mod_cast hBelow
    have hQuotient : (n / d : ℚ) * d = n := div_mul_cancel₀ _ hPos.ne'
    nlinarith
  · generalize roundHalfEven n (d * 2 ^ s) = r at *
    have hCast : (2 * n : ℚ) ≤ 2 * (r * (d * 2 ^ s)) + d * 2 ^ s := by exact_mod_cast hAbove
    rw [div_le_iff₀ hPos]
    nlinarith

/-- A carry is the mantissa 2^52 with the next shift. -/
theorem exists_canonical_carry {r s : Nat} (hr : r ≤ 2 ^ 53) (hNormal : s = 0 ∨ 2 ^ 52 ≤ r)
    (hFinite : s * 2 ^ 52 + r < infinityBits) :
    ∃ m s', Canonical m s' ∧ s' * 2 ^ 52 + m = s * 2 ^ 52 + r ∧ m * 2 ^ s' = r * 2 ^ s := by
  rw [infinityBits_eq] at hFinite
  rcases hr.lt_or_eq with hLess | rfl
  · exact ⟨r, s, ⟨hLess, by omega, hNormal⟩, rfl, rfl⟩
  · exact ⟨2 ^ 52, s + 1, ⟨by decide, by omega, Or.inr le_rfl⟩, by ring, by ring⟩

/-- The nearest number is one rounding away, and half a unit if it is not a normal one. -/
theorem exists_shape_nearest {n d : Nat} (hd : 0 < d) (hFinite : nearestBits n d < infinityBits)
    (negative : Bool) :
    ∃ m s, shape (nearest negative n d) = .finite negative m s ∧
      (m * 2 ^ s : ℚ) ≤ roundoff * (n / d) + 1 / 2 ∧
      (n / d : ℚ) ≤ roundoff * (m * 2 ^ s) + 1 / 2 ∧
      (2 ^ 52 * d ≤ n → Apart 1 (m * 2 ^ s) (n / d)) := by
  obtain ⟨r, s, hBits, hr, hNormal, hLarge, -, hBelow, hAbove⟩ := exists_rounded n hd
  have hMin : s * 2 ^ 52 + r < infinityBits := by omega
  obtain ⟨m, s', hCanonical, hSame, hValue⟩ :=
    exists_canonical_carry hr (hNormal.imp_right fun h => (hLarge h).1) hMin
  rw [min_eq_left hMin.le, ← hSame] at hBits
  have hCast : (m * 2 ^ s' : ℚ) = r * 2 ^ s := by exact_mod_cast hValue
  refine ⟨m, s', ?_, ?_⟩
  · rw [nearest, hBits, shape_ofMagnitude negative hCanonical]
  rw [hCast]
  have hApart : 2 ^ 52 * d ≤ n → Apart 1 (r * 2 ^ s) (n / d) := by
    intro h
    obtain ⟨hMantissa, hQuotient⟩ := hLarge h
    have hMantissa' : (2 ^ 52 : ℚ) ≤ r := by exact_mod_cast hMantissa
    have hStep : (2 ^ 52 : ℚ) * 2 ^ s ≤ r * 2 ^ s :=
      mul_le_mul_of_nonneg_right hMantissa' (by positivity)
    unfold Apart roundoff
    rw [pow_one]
    constructor <;> linarith
  have hQuotient : (0 : ℚ) ≤ n / d := by positivity
  have hMantissa : (0 : ℚ) ≤ r := r.cast_nonneg
  rcases hNormal with rfl | h
  · rw [pow_zero] at hBelow hAbove hApart ⊢
    refine ⟨?_, ?_, hApart⟩ <;> unfold roundoff <;> linarith
  · obtain ⟨hOne, hOne'⟩ := hApart h
    rw [pow_one] at hOne hOne'
    exact ⟨by linarith, by linarith, hApart⟩

/-! ## Steps between results -/

/-- A whole number of steps above the least mantissa is at most as many steps in bits, and fewer
beyond the next power of two. -/
theorem nearestBits_steps_le {j s d : Nat} (hj : j < 2 ^ 54 - 1) (hNormal : s = 0 ∨ 2 ^ 52 ≤ j)
    (hd : 0 < d) : nearestBits (j * 2 ^ s * d) d ≤ s * 2 ^ 52 + j := by
  by_cases hSmall : j < 2 ^ 53
  · rw [nearestBits_mantissa hSmall hNormal hd]
    exact Nat.min_le_left _ _
  · have hHalf : j ≤ (j + 1) / 2 * 2 := by omega
    have hValue : j * 2 ^ s * d * d ≤ (j + 1) / 2 * 2 ^ (s + 1) * d * d := by
      apply Nat.mul_le_mul_right
      apply Nat.mul_le_mul_right
      calc j * 2 ^ s ≤ (j + 1) / 2 * 2 * 2 ^ s := Nat.mul_le_mul_right _ hHalf
        _ = (j + 1) / 2 * 2 ^ (s + 1) := by ring
    calc nearestBits (j * 2 ^ s * d) d ≤ nearestBits ((j + 1) / 2 * 2 ^ (s + 1) * d) d :=
          nearestBits_mono hd hd hValue
      _ ≤ (s + 1) * 2 ^ 52 + (j + 1) / 2 := by
          rw [nearestBits_mantissa (by omega) (Or.inr (by omega)) hd]
          exact Nat.min_le_left _ _
      _ ≤ s * 2 ^ 52 + j := by omega

/-- At most four roundings and a quarter of a unit between two numbers. -/
def Close (x y : ℚ) : Prop :=
  x ≤ roundoff ^ 4 * y + 1 / 4 ∧ y ≤ roundoff ^ 4 * x + 1 / 4

/-- Few roundings make numbers close. -/
theorem Apart.close {k : Nat} {x y : ℚ} (h : Apart k x y) (hk : k ≤ 4) (hx : 0 ≤ x) (hy : 0 ≤ y) :
    Close x y := by
  have hPower : roundoff ^ k ≤ roundoff ^ 4 := pow_le_pow_right₀ (by norm_num [roundoff]) hk
  have hLeft := mul_le_mul_of_nonneg_right hPower hx
  have hRight := mul_le_mul_of_nonneg_right hPower hy
  obtain ⟨hUpper, hLower⟩ := h
  exact ⟨by linarith, by linarith⟩

/-- A number that was rounded, and then divided by ten or more, is close to what it would have
been without the rounding. -/
theorem close_of_rounded {w q x y t : ℚ} (ht : 10 ≤ t) (hLow : w ≤ roundoff * q + 1 / 2)
    (hHigh : q ≤ roundoff * w + 1 / 2) (hx : Apart 1 x (q / t)) (hy : Apart 2 (w / t) y) :
    Close x y := by
  have hPos : 0 < t := by linarith
  have hTen : 1 / 2 / t ≤ 1 / 20 := by
    rw [div_le_iff₀ hPos]
    linarith
  have hLow' : w / t ≤ roundoff * (q / t) + 1 / 20 := by
    calc w / t ≤ (roundoff * q + 1 / 2) / t := div_le_div_of_nonneg_right hLow hPos.le
      _ = roundoff * (q / t) + 1 / 2 / t := by rw [add_div, mul_div_assoc]
      _ ≤ roundoff * (q / t) + 1 / 20 := by linarith
  have hHigh' : q / t ≤ roundoff * (w / t) + 1 / 20 := by
    calc q / t ≤ (roundoff * w + 1 / 2) / t := div_le_div_of_nonneg_right hHigh hPos.le
      _ = roundoff * (w / t) + 1 / 2 / t := by rw [add_div, mul_div_assoc]
      _ ≤ roundoff * (w / t) + 1 / 20 := by linarith
  have hOne : 1 ≤ roundoff := by norm_num [roundoff]
  have hSlack : roundoff ^ 2 / 20 ≤ 1 / 4 := by norm_num [roundoff]
  have hSlack' : roundoff / 20 ≤ 1 / 4 := by norm_num [roundoff]
  obtain ⟨hx, hx'⟩ := hx
  obtain ⟨hy, hy'⟩ := hy
  rw [pow_one] at hx hx'
  constructor
  · calc x ≤ roundoff * (q / t) := hx
      _ ≤ roundoff * (roundoff * (w / t) + 1 / 20) := by gcongr
      _ ≤ roundoff * (roundoff * (roundoff ^ 2 * y) + 1 / 20) := by gcongr
      _ = roundoff ^ 4 * y + roundoff / 20 := by ring
      _ ≤ roundoff ^ 4 * y + 1 / 4 := by linarith
  · calc y ≤ roundoff ^ 2 * (w / t) := hy'
      _ ≤ roundoff ^ 2 * (roundoff * (q / t) + 1 / 20) := by gcongr
      _ ≤ roundoff ^ 2 * (roundoff * (roundoff * x) + 1 / 20) := by gcongr
      _ = roundoff ^ 4 * x + roundoff ^ 2 / 20 := by ring
      _ ≤ roundoff ^ 4 * x + 1 / 4 := by linarith

/-- Two divisions are close to one, although the first of them rounds to a number that need not
be a normal one. All numbers are multiplied by `u`, so that units are compared. -/
theorem close_of_two_steps {a b c q S t₁ t₂ u : ℚ} (ht₁ : 0 < t₁) (ht₂ : 10 ≤ t₂) (hb : 0 < b)
    (hc : 0 < c) (hq : 0 ≤ q) (hS : 0 ≤ S) (hu : 0 < u) (hApart : Apart 1 a S)
    (hFirst : Apart 1 b t₁) (hSecond : Apart 1 c t₂)
    (hHigh : q * u ≤ roundoff * (a / b * u) + 1 / 2)
    (hLow : a / b * u ≤ roundoff * (q * u) + 1 / 2) :
    Close (q / c * u) (S / (t₁ * t₂) * u) := by
  have hPos : 0 < t₂ := by linarith
  have hLast := ((Apart.refl q).div hSecond hc hPos hq).mul_right hu.le
  have hBoth := (hApart.div hFirst hb ht₁ hS).mul_right (div_nonneg hu.le hPos.le)
  refine close_of_rounded ht₂ hLow hHigh ?_ ?_
  · rw [mul_div_right_comm]
    exact hLast
  · rw [mul_div_assoc, ← div_div, div_mul_comm (S / t₁), Rat.mul_comm (u / t₂)]
    exact hBoth

theorem Close.symm {x y : ℚ} (h : Close x y) : Close y x :=
  ⟨h.2, h.1⟩

theorem roundoff_pow_four : roundoff ^ 4 * 2 ^ 53 ≤ 2 ^ 53 + 17 / 4 := by
  norm_num [roundoff]

/-- Four roundings are four steps, and the last one is the fifth. -/
theorem Close.nearestBits_le_add {n d n' d' : Nat} (hd : 0 < d) (hd' : 0 < d')
    (h : Close (n' / d') (n / d)) : nearestBits n' d' ≤ nearestBits n d + 5 := by
  obtain ⟨r, s, hBits, hr, hNormal, hLarge, hHigh, -, hAbove⟩ := exists_rounded n hd
  have hStep : (1 : ℚ) ≤ 2 ^ s := one_le_pow₀ (by norm_num)
  have hPos : (0 : ℚ) < d' := by exact_mod_cast hd'
  have hQuotient : (0 : ℚ) ≤ n / d := by positivity
  have hSteps : (n' / d' : ℚ) ≤ (r + 5) * 2 ^ s := by
    have hFour := roundoff_pow_four
    have hFactor : (n / d : ℚ) * (roundoff ^ 4 * 2 ^ 53) ≤ n / d * (2 ^ 53 + 17 / 4) :=
      mul_le_mul_of_nonneg_left hFour hQuotient
    have hFirst := h.1
    linarith
  have hCast : n' * d' ≤ (r + 5) * 2 ^ s * d' * d' := by
    rw [div_le_iff₀ hPos] at hSteps
    apply Nat.mul_le_mul_right
    exact_mod_cast hSteps
  have hMono := nearestBits_mono hd' hd' hCast
  have hBound := nearestBits_steps_le (j := r + 5) (s := s) (by omega)
    (hNormal.imp_right fun h => (hLarge h).1.trans (Nat.le_add_right _ _)) hd'
  have hInfinity := nearestBits_le n' d'
  omega

/-- Numbers whose bits are at most five apart. Of one sign, they have at most four numbers of the
format between them. -/
structure IsNear (f g : Float) : Prop where
  le_add : f.toBits.toNat ≤ g.toBits.toNat + 5
  add_le : g.toBits.toNat ≤ f.toBits.toNat + 5

theorem IsNear.refl (f : Float) : IsNear f f :=
  ⟨Nat.le_add_right _ _, Nat.le_add_right _ _⟩

theorem isNear_ofMagnitude (negative : Bool) {b c : Nat} (hb : b ≤ infinityBits)
    (hc : c ≤ infinityBits) (hLow : b ≤ c + 5) (hHigh : c ≤ b + 5) :
    IsNear (ofMagnitude negative b) (ofMagnitude negative c) := by
  constructor
  · rw [toBits_ofMagnitude negative hb, toBits_ofMagnitude negative hc]
    omega
  · rw [toBits_ofMagnitude negative hb, toBits_ofMagnitude negative hc]
    omega

/-! ## Values -/

/-- What `m · 2 ^ s` units are. -/
def value (m s : Nat) : ℚ :=
  m * 2 ^ s / unitsPerOne

theorem cast_unitsPerOne_pos : (0 : ℚ) < unitsPerOne := by
  exact_mod_cast unitsPerOne_pos

theorem value_nonneg (m s : Nat) : 0 ≤ value m s :=
  div_nonneg (by positivity) cast_unitsPerOne_pos.le

theorem value_pos {m s : Nat} : 0 < value m s ↔ 0 < m * 2 ^ s := by
  unfold value
  rw [div_pos_iff_of_pos_right cast_unitsPerOne_pos]
  exact_mod_cast Iff.rfl

/-- A whole number that is not too large is one rounding away from its nearest number. -/
theorem exists_shape_whole {a : Nat} (ha : 0 < a) (h : a ≤ (2 ^ 53 - 1) * 2 ^ 971) :
    ∃ m s, shape (nearest false (a * unitsPerOne) 1) = .finite false m s ∧ 0 < value m s ∧
      Apart 1 (value m s) a := by
  have hFinite := nearestBits_lt_infinityBits Nat.one_pos (h.trans_eq (Nat.mul_one _).symm)
  obtain ⟨m, s, hShape, -, -, hApart⟩ := exists_shape_nearest Nat.one_pos hFinite false
  have hNormal : 2 ^ 52 * 1 ≤ a * unitsPerOne := by
    have hPower (k : Nat) (hk : 52 ≤ k) : 2 ^ 52 ≤ 2 ^ k := Nat.pow_le_pow_right (by decide) hk
    have hUnits : 2 ^ 52 ≤ unitsPerOne := by
      rw [unitsPerOne_eq]
      exact hPower _ (by decide)
    exact (Nat.mul_comm _ _).trans_le (Nat.mul_le_mul ha hUnits)
  have hUnits := cast_unitsPerOne_pos
  have hNear := (hApart hNormal).mul_right (inv_nonneg.mpr hUnits.le)
  rw [Nat.cast_one, div_one, Nat.cast_mul, mul_inv_cancel_right₀ hUnits.ne', ← div_eq_mul_inv]
    at hNear
  refine ⟨m, s, hShape, ?_, hNear⟩
  have hWhole : (0 : ℚ) < a := by exact_mod_cast ha
  by_contra hZero
  obtain ⟨-, hUpper⟩ := hNear
  have hProduct := mul_nonpos_of_nonneg_of_nonpos
    (zero_le_one.trans (one_le_roundoff_pow 1)) (not_lt.mp hZero)
  exact absurd (hUpper.trans hProduct) (not_le.mpr hWhole)

theorem value_mul_units (m s : Nat) : value m s * unitsPerOne = m * 2 ^ s :=
  div_mul_cancel₀ _ cast_unitsPerOne_pos.ne'

theorem le_of_value_le {c m s m' s' : Nat} (h : value m s ≤ c * value m' s') :
    m * 2 ^ s ≤ c * (m' * 2 ^ s') := by
  have hUnits := mul_le_mul_of_nonneg_right h cast_unitsPerOne_pos.le
  rw [mul_assoc, value_mul_units, value_mul_units] at hUnits
  exact_mod_cast hUnits

/-- The exact product, in units. -/
theorem mul_units (m s m' s' : Nat) :
    ((m * m' * 2 ^ (s + s') : Nat) : ℚ) / unitsPerOne =
      value m s * value m' s' * unitsPerOne := by
  have hUnits := cast_unitsPerOne_pos.ne'
  unfold value
  push_cast
  generalize (unitsPerOne : ℚ) = u at *
  field_simp
  ring

/-- The exact quotient, in units. -/
theorem div_units (m s : Nat) {m' s' : Nat} (h : 0 < m' * 2 ^ s') :
    ((m * 2 ^ s * unitsPerOne : Nat) : ℚ) / (m' * 2 ^ s' : Nat) =
      value m s / value m' s' * unitsPerOne := by
  have hUnits := cast_unitsPerOne_pos.ne'
  have hDivisor : (m' * 2 ^ s' : ℚ) ≠ 0 := by exact_mod_cast h.ne'
  unfold value
  push_cast
  generalize (unitsPerOne : ℚ) = u at *
  field_simp

/-- A decimal, in units. -/
theorem decimal_units (d : Decimal) :
    ((d.numerator * unitsPerOne : Nat) : ℚ) / (d.denominator : Nat) =
      d.digits * 10 ^ d.exponent * unitsPerOne := by
  obtain ⟨digits, exponent⟩ := d
  unfold Decimal.numerator Decimal.denominator
  dsimp only
  obtain ⟨n, rfl | rfl⟩ := exponent.eq_nat_or_neg
  · have hNone : (-(n : Int)).toNat = 0 := by omega
    rw [hNone, Int.toNat_natCast, zpow_natCast]
    push_cast
    rw [div_one]
  · have hNone : (-(n : Int)).toNat = 0 := by omega
    rw [hNone, Int.neg_neg, Int.toNat_natCast, zpow_neg, zpow_natCast]
    push_cast
    rw [mul_one, div_eq_mul_inv]
    ring

end ScriptValue.Binary64
