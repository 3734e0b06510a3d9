import Mathlib
import ScriptValue.Json.Number
import ScriptValue.Proofs.Binary64.Error

/-!
# Numbers of JSON, read in floating point

A number is read as its digits times a power of ten (`significand`, `scale`). The digits are
rounded, the power of ten is rounded, and so is their product or quotient. Where the first two are
exact, what comes out is the nearest number; elsewhere it is a few steps away from it.

* `float?_eq`: a number whose digits fit is read by one scaling.
* `scale?_of_short`: up to 53 bits and 22 powers of ten the result is the nearest number.
* `isCloseScaling`, `exists_float?_near`: the error of any other scaling, and of the number.
* `isSome_float?_of_integer?`: integers are never too large.
-/

namespace ScriptValue.Json.Number

open Binary64 (nearest nearestBits shape unitsPerOne infinityBits unitsPerOne_eq unitsPerOne_pos
  Apart Close roundoff value value_pos cast_unitsPerOne_pos)
open Numeral (Decimal le_ofDigitChars)

/-- The digits of a number as one natural number. -/
def significand (n : Number) : Nat :=
  Nat.ofDigitChars 10 (n.whole ++ n.fraction.getD []) 0

/-- The power of ten that the significand is multiplied by. -/
def scale (n : Number) : Int :=
  exponentValue n.exponent - (n.fraction.getD []).length

/-! ## Taking digits in -/

theorem absorb_eq {digits : List Char} {start : Nat}
    (h : Nat.ofDigitChars 10 digits start < 2 ^ 64) :
    absorb start digits = (Nat.ofDigitChars 10 digits start, []) := by
  induction digits generalizing start with
  | nil => simp [absorb]
  | cons c cs ih =>
    rw [Nat.ofDigitChars_cons] at h ⊢
    have hNext : start * 10 + Numeral.digitValue c = 10 * start + (c.toNat - '0'.toNat) := by
      rw [Nat.mul_comm]
      rfl
    have hRoom : start * 10 + Numeral.digitValue c < Nat.pow 2 64 := by
      rw [hNext]
      exact (le_ofDigitChars cs _).trans_lt h
    unfold absorb
    dsimp only
    rw [if_pos hRoom, hNext]
    exact ih h

/-- A number whose digits all fit into the significand is read by one scaling. -/
theorem float?_eq {n : Number} (h : n.significand < 2 ^ 64) :
    n.float? = (scale? n.significand n.scale).map fun f => if n.negative then -f else f := by
  have hSplit : n.significand =
      Nat.ofDigitChars 10 (n.fraction.getD []) (Nat.ofDigitChars 10 n.whole 0) :=
    Nat.ofDigitChars_append _
  have hWhole : absorb 0 n.whole = (Nat.ofDigitChars 10 n.whole 0, []) :=
    absorb_eq (((le_ofDigitChars _ _).trans hSplit.ge).trans_lt h)
  have hFraction : absorb (Nat.ofDigitChars 10 n.whole 0) (n.fraction.getD []) =
      (n.significand, []) := by
    rw [hSplit]
    exact absorb_eq (hSplit ▸ h)
  unfold float?
  rw [hWhole]
  dsimp only
  rw [hFraction]
  have hScale : (([] : List Char).length : Int) - ((n.fraction.getD []).length -
      ([] : List Char).length : Nat) + exponentValue n.exponent = n.scale := by
    simp [scale]
    omega
  rw [hScale]

/-! ## One multiplication or division -/

theorem powerOfTen_eq (n : Nat) : powerOfTen n = nearest false (10 ^ n * unitsPerOne) 1 := by
  rw [powerOfTen, Binary64.ofDecimal_natCast, Nat.one_mul]

theorem scaleDown_of_le {f : Float} {n : Nat} (h : n ≤ 308) :
    scaleDown f n = f / powerOfTen n := by
  unfold scaleDown
  rw [if_pos h]

/-- A power of ten that has to be divided by in two steps. -/
theorem scaleDown_of_lt {f : Float} {n : Nat} (hTwo : 308 < n) (hMost : n ≤ 616)
    (hf : (f == 0) = false) : scaleDown f n = f / powerOfTen 308 / powerOfTen (n - 308) := by
  unfold scaleDown
  rw [if_neg (by omega), hf, if_neg (by decide), scaleDown_of_le (by omega)]

/-- A product that is not infinite is the result. -/
theorem scale?_of_nonneg {significand n : Nat} (hn : n ≤ 308) {m s m' s' : Nat}
    (hSignificand : shape (nearest false (significand * unitsPerOne) 1) = .finite false m s)
    (hPower : shape (powerOfTen n) = .finite false m' s') :
    scale? significand n =
      if nearestBits (m * m' * 2 ^ (s + s')) unitsPerOne = infinityBits then none
      else some (nearest false (m * m' * 2 ^ (s + s')) unitsPerOne) := by
  unfold scale?
  dsimp only
  rw [if_neg (by omega), if_pos (by omega), Int.toNat_natCast,
    Binary64.mul_eq_nearest hSignificand hPower]
  by_cases hInfinite : nearestBits (m * m' * 2 ^ (s + s')) unitsPerOne = infinityBits
  · rw [if_pos hInfinite, nearest, hInfinite]
    rfl
  · have hFinite := Binary64.isInf_nearest
      ((Binary64.nearestBits_le _ _).lt_of_ne hInfinite) (false != false)
    rw [if_neg hInfinite, hFinite]
    rfl

theorem scale?_of_neg {significand n : Nat} (hn : 0 < n) :
    scale? significand (-n) = some (scaleDown (nearest false (significand * unitsPerOne) 1) n) := by
  unfold scale?
  dsimp only
  rw [if_pos (by omega), Int.natAbs_neg, Int.natAbs_natCast]

/-! ## Exact factors -/

/-- The powers of ten up to 10^22 are exact. -/
theorem shape_powerOfTen {n : Nat} (hn : n ≤ 22) :
    ∃ m s, m * 2 ^ s = 10 ^ n * unitsPerOne ∧ shape (powerOfTen n) = .finite false m s := by
  have hFive : 5 ^ n < 2 ^ 53 :=
    (Nat.pow_le_pow_right (by decide) hn).trans_lt (by decide)
  have hValue : 10 ^ n * unitsPerOne = 5 ^ n * 2 ^ (n + 1074) := by
    rw [unitsPerOne_eq, Nat.pow_add, ← Nat.mul_assoc, ← Nat.mul_pow]
  rw [powerOfTen_eq, hValue]
  exact Binary64.shape_nearest_of_lt hFive (by omega) false

/-- Significands of 53 bits are exact. -/
theorem shape_significand {significand : Nat} (h : significand < 2 ^ 53) :
    ∃ m s, m * 2 ^ s = significand * unitsPerOne ∧
      shape (nearest false (significand * unitsPerOne) 1) = .finite false m s := by
  rw [unitsPerOne_eq]
  exact Binary64.shape_nearest_of_lt h (by decide) false

theorem scale?_natCast_of_short {significand n : Nat} (hSignificand : significand < 2 ^ 53)
    (hn : n ≤ 22) :
    scale? significand n = some (Binary64.ofDecimal false ⟨significand, n⟩) := by
  obtain ⟨m, s, hValue, hShape⟩ := shape_significand hSignificand
  obtain ⟨m', s', hValue', hShape'⟩ := shape_powerOfTen hn
  have hReduce : nearestBits (m * m' * 2 ^ (s + s')) unitsPerOne =
      nearestBits (significand * 10 ^ n * unitsPerOne) 1 := by
    apply Binary64.nearestBits_congr unitsPerOne_pos Nat.one_pos
    calc m * m' * 2 ^ (s + s') * 1 = m * 2 ^ s * (m' * 2 ^ s') := by ring
      _ = significand * 10 ^ n * unitsPerOne * unitsPerOne := by
        rw [hValue, hValue']
        ring
  have hSmall : significand * 10 ^ n ≤ (2 ^ 53 - 1) * 2 ^ 971 * 1 := by
    calc significand * 10 ^ n ≤ 2 ^ 53 * 10 ^ 22 :=
          Nat.mul_le_mul hSignificand.le (Nat.pow_le_pow_right (by decide) hn)
      _ ≤ (2 ^ 53 - 1) * 2 ^ 971 * 1 := by decide +kernel
  have hFinite := Binary64.nearestBits_lt_infinityBits Nat.one_pos hSmall
  rw [scale?_of_nonneg (by omega) hShape hShape', Binary64.ofDecimal_natCast, nearest, nearest,
    hReduce, if_neg hFinite.ne]

theorem scale?_neg_of_short {significand n : Nat} (hSignificand : significand < 2 ^ 53)
    (hPos : 0 < n) (hn : n ≤ 22) :
    scale? significand (-n) = some (Binary64.ofDecimal false ⟨significand, -n⟩) := by
  obtain ⟨m, s, hValue, hShape⟩ := shape_significand hSignificand
  obtain ⟨m', s', hValue', hShape'⟩ := shape_powerOfTen hn
  have hPower : 0 < 10 ^ n := Nat.pow_pos (by decide)
  have hDivisor : 0 < 10 ^ n * unitsPerOne := Nat.mul_pos hPower unitsPerOne_pos
  have hReduce : nearestBits (significand * unitsPerOne * unitsPerOne) (10 ^ n * unitsPerOne) =
      nearestBits (significand * unitsPerOne) (10 ^ n) := by
    apply Binary64.nearestBits_congr hDivisor hPower
    ring
  have hNonzero : m' ≠ 0 := by
    rintro rfl
    omega
  rw [scale?_of_neg hPos, scaleDown_of_le (by omega),
    Binary64.div_eq_nearest hShape hShape' hNonzero, hValue, hValue', Binary64.ofDecimal_neg,
    nearest, nearest, hReduce]
  rfl

/-- A significand of 53 bits and a power of ten that is exact make the nearest number. -/
theorem scale?_of_short {significand : Nat} {exponent : Int} (hSignificand : significand < 2 ^ 53)
    (hExponent : exponent.natAbs ≤ 22) :
    scale? significand exponent = some (Binary64.ofDecimal false ⟨significand, exponent⟩) := by
  obtain ⟨n, rfl | rfl⟩ := exponent.eq_nat_or_neg
  · exact scale?_natCast_of_short hSignificand (by omega)
  · rcases Nat.eq_zero_or_pos n with rfl | hPos
    · exact scale?_natCast_of_short hSignificand (by decide)
    · exact scale?_neg_of_short hSignificand hPos (by omega)

/-- A number of at most 53 bits with a small exponent is read correctly rounded. -/
theorem float?_of_short {n : Number} (hSignificand : n.significand < 2 ^ 53)
    (hScale : n.scale.natAbs ≤ 22) :
    n.float? = some (Binary64.ofDecimal n.negative ⟨n.significand, n.scale⟩) := by
  rw [float?_eq (hSignificand.trans (by decide)), scale?_of_short hSignificand hScale,
    Option.map_some]
  cases n.negative with
  | false => simp only [Bool.false_eq_true, if_false]
  | true =>
    simp only [if_true, Binary64.ofDecimal_eq_nearest, Binary64.neg_nearest, Bool.not_false]

/-! ## Inexact factors -/

theorem exists_shape_significand {significand : Nat} (hPos : 0 < significand)
    (h : significand < 2 ^ 64) :
    ∃ m s, shape (nearest false (significand * unitsPerOne) 1) = .finite false m s ∧
      0 < value m s ∧ Apart 1 (value m s) significand :=
  Binary64.exists_shape_whole hPos (h.le.trans (by decide +kernel))

theorem exists_shape_powerOfTen {n : Nat} (hn : n ≤ 308) :
    ∃ m s, shape (powerOfTen n) = .finite false m s ∧ 0 < value m s ∧
      Apart 1 (value m s) (10 ^ n) := by
  have hMost : 10 ^ n ≤ (2 ^ 53 - 1) * 2 ^ 971 :=
    (Nat.pow_le_pow_right (by decide) hn).trans (by decide +kernel)
  have hWhole := Binary64.exists_shape_whole (Nat.pow_pos (by decide) : 0 < 10 ^ n) hMost
  rw [Nat.cast_pow, ← powerOfTen_eq] at hWhole
  exact hWhole

/-- A scaling makes the number nearest to a quotient that is close to the decimal, in units. A
quotient that is too large may make nothing. -/
def IsCloseScaling (significand : Nat) (exponent : Int) : Prop :=
  ∃ n d : Nat, 0 < d ∧ Close (n / d) (significand * 10 ^ exponent * unitsPerOne) ∧
    (scale? significand exponent = some (nearest false n d) ∨ nearestBits n d = infinityBits)

theorem isCloseScaling_natCast {significand n : Nat} (hPos : 0 < significand)
    (hSignificand : significand < 2 ^ 64) (hn : n ≤ 308) : IsCloseScaling significand n := by
  obtain ⟨m, s, hShape, hValue, hApart⟩ := exists_shape_significand hPos hSignificand
  obtain ⟨m', s', hShape', hValue', hApart'⟩ := exists_shape_powerOfTen hn
  have hUnits := cast_unitsPerOne_pos.le
  refine ⟨m * m' * 2 ^ (s + s'), unitsPerOne, unitsPerOne_pos, ?_, ?_⟩
  · rw [Binary64.mul_units, zpow_natCast]
    have hProduct := (hApart.mul hApart' hValue'.le (Nat.cast_nonneg _)).mul_right hUnits
    exact hProduct.close (by decide) (mul_nonneg (mul_nonneg hValue.le hValue'.le) hUnits)
      (mul_nonneg (by positivity) hUnits)
  · rw [scale?_of_nonneg hn hShape hShape']
    split
    · exact Or.inr ‹_›
    · exact Or.inl rfl

theorem isCloseScaling_neg_of_le {significand n : Nat} (hPos : 0 < significand)
    (hSignificand : significand < 2 ^ 64) (hn : 0 < n) (hOne : n ≤ 308) :
    IsCloseScaling significand (-n) := by
  obtain ⟨m, s, hShape, hValue, hApart⟩ := exists_shape_significand hPos hSignificand
  obtain ⟨m', s', hShape', hValue', hApart'⟩ := exists_shape_powerOfTen hOne
  have hUnits := cast_unitsPerOne_pos.le
  have hDivisor := value_pos.mp hValue'
  refine ⟨m * 2 ^ s * unitsPerOne, m' * 2 ^ s', hDivisor, ?_, Or.inl ?_⟩
  · rw [Binary64.div_units m s hDivisor, zpow_neg, zpow_natCast, ← div_eq_mul_inv]
    have hQuotient := (hApart.div hApart' hValue' (by positivity) (Nat.cast_nonneg _)).mul_right
      hUnits
    exact hQuotient.close (by decide) (mul_nonneg (div_nonneg hValue.le hValue'.le) hUnits)
      (mul_nonneg (by positivity) hUnits)
  · rw [scale?_of_neg hn, scaleDown_of_le hOne,
      Binary64.div_eq_nearest hShape hShape' (Nat.pos_of_mul_pos_right hDivisor).ne']
    rfl

/-- The first quotient of two is far from being too large. -/
theorem first_quotient_le {significand m s m' s' : Nat} (hSignificand : significand < 2 ^ 64)
    (hApart : Apart 1 (value m s) significand) (hApart' : Apart 1 (value m' s') (10 ^ 308))
    (hValue' : 0 < value m' s') : m * 2 ^ s ≤ (2 ^ 53 - 1) * 2 ^ 971 * (m' * 2 ^ s') := by
  have hRatio : m * 2 ^ s ≤ 2 ^ 66 * (m' * 2 ^ s') := by
    apply Binary64.le_of_value_le
    have hRoundoff : roundoff ^ 1 ≤ 2 := by norm_num [roundoff]
    have hCast : (significand : ℚ) ≤ 2 ^ 64 := by exact_mod_cast hSignificand.le
    have hOne : (1 : ℚ) ≤ 10 ^ 308 := one_le_pow₀ (by norm_num)
    have hUpper : value m s ≤ 2 * 2 ^ 64 :=
      hApart.1.trans (mul_le_mul hRoundoff hCast (Nat.cast_nonneg _) (by norm_num))
    have hLower : 1 ≤ 2 * value m' s' :=
      (hOne.trans hApart'.2).trans (mul_le_mul_of_nonneg_right hRoundoff hValue'.le)
    push_cast
    linarith
  exact hRatio.trans (Nat.mul_le_mul_right _ (by decide +kernel))

theorem isCloseScaling_neg_of_lt {significand n : Nat} (hPos : 0 < significand)
    (hSignificand : significand < 2 ^ 64) (hTwo : 308 < n) (hMost : n ≤ 616) :
    IsCloseScaling significand (-n) := by
  obtain ⟨m, s, hShape, hValue, hApart⟩ := exists_shape_significand hPos hSignificand
  obtain ⟨m', s', hShape', hValue', hApart'⟩ := exists_shape_powerOfTen (n := 308) le_rfl
  obtain ⟨m'', s'', hShape'', hValue'', hApart''⟩ :=
    exists_shape_powerOfTen (n := n - 308) (by omega)
  have hFirst := value_pos.mp hValue
  have hDivisor := value_pos.mp hValue'
  have hDivisor' := value_pos.mp hValue''
  have hFinite := Binary64.nearestBits_lt_infinityBits hDivisor
    (first_quotient_le hSignificand hApart hApart' hValue')
  obtain ⟨m₁, s₁, hShape₁, hHigh, hLow, -⟩ :=
    Binary64.exists_shape_nearest hDivisor hFinite (false != false)
  rw [Binary64.div_units m s hDivisor] at hHigh hLow
  refine ⟨m₁ * 2 ^ s₁ * unitsPerOne, m'' * 2 ^ s'', hDivisor', ?_, Or.inl ?_⟩
  · rw [Binary64.div_units m₁ s₁ hDivisor']
    have hPower : (10 : ℚ) ^ n = 10 ^ 308 * 10 ^ (n - 308) := by
      rw [← pow_add, Nat.add_sub_of_le hTwo.le]
    rw [← Binary64.value_mul_units] at hHigh hLow
    rw [zpow_neg, zpow_natCast, hPower, ← div_eq_mul_inv]
    exact Binary64.close_of_two_steps (by positivity) (le_self_pow₀ (by norm_num) (by omega))
      hValue' hValue'' (Binary64.value_nonneg _ _) (Nat.cast_nonneg _) cast_unitsPerOne_pos hApart
      hApart' hApart'' hHigh hLow
  · rw [scale?_of_neg (by omega), scaleDown_of_lt hTwo hMost
      (Binary64.beq_zero_of_shape hShape (Nat.pos_of_mul_pos_right hFirst)),
      Binary64.div_eq_nearest hShape hShape' (Nat.pos_of_mul_pos_right hDivisor).ne',
      Binary64.div_eq_nearest hShape₁ hShape'' (Nat.pos_of_mul_pos_right hDivisor').ne']
    rfl

theorem isCloseScaling {significand : Nat} {exponent : Int} (hPos : 0 < significand)
    (hSignificand : significand < 2 ^ 64) (hLow : -616 ≤ exponent) (hHigh : exponent ≤ 308) :
    IsCloseScaling significand exponent := by
  obtain ⟨n, rfl | rfl⟩ := exponent.eq_nat_or_neg
  · exact isCloseScaling_natCast hPos hSignificand (by omega)
  · rcases Nat.eq_zero_or_pos n with rfl | hn
    · exact isCloseScaling_natCast hPos hSignificand (by decide)
    · by_cases hOne : n ≤ 308
      · exact isCloseScaling_neg_of_le hPos hSignificand hn hOne
      · exact isCloseScaling_neg_of_lt hPos hSignificand (by omega) (by omega)

/-! ## Any number -/

/-- A number is read as one that is at most five steps from the nearest one, where that is not
beyond the greatest number. -/
theorem exists_float?_near {n : Number} (hPos : 0 < n.significand)
    (hSignificand : n.significand < 2 ^ 64) (hLow : -616 ≤ n.scale) (hHigh : n.scale ≤ 308)
    {b : Nat} (hNearest : Binary64.ofDecimal n.negative ⟨n.significand, n.scale⟩ =
      Binary64.ofMagnitude n.negative b) (hb : b + 5 < infinityBits) :
    ∃ b', b' ≤ b + 5 ∧ b ≤ b' + 5 ∧ n.float? = some (Binary64.ofMagnitude n.negative b') := by
  obtain ⟨k, d, hd, hClose, hResult⟩ := isCloseScaling hPos hSignificand hLow hHigh
  have hDecimal := Binary64.decimal_units ⟨n.significand, n.scale⟩
  dsimp only at hDecimal
  rw [← hDecimal] at hClose
  have hUpper := hClose.nearestBits_le_add (Decimal.denominator_pos _) hd
  have hLower := hClose.symm.nearestBits_le_add hd (Decimal.denominator_pos _)
  have hBits : nearestBits ((Decimal.mk n.significand n.scale).numerator * unitsPerOne)
      (Decimal.mk n.significand n.scale).denominator = b := by
    rw [Binary64.ofDecimal_eq_nearest] at hNearest
    have hToBits := congrArg (fun f => f.toBits.toNat) hNearest
    simp only [Binary64.toBits_nearest, Binary64.toBits_ofMagnitude n.negative
      (by omega : b ≤ infinityBits)] at hToBits
    omega
  rw [hBits] at hUpper hLower
  refine ⟨nearestBits k d, hUpper, hLower, ?_⟩
  rw [float?_eq hSignificand, hResult.resolve_right (by omega), Option.map_some]
  cases n.negative with
  | false => rfl
  | true =>
    rw [if_pos rfl, Binary64.neg_nearest]
    rfl

/-! ## Integers -/

theorem digits_of_integer? {n : Number} {i : Int64} (h : n.integer? = some i) :
    n.significand < 2 ^ 64 ∧ n.scale = 0 := by
  unfold integer? at h
  split at h
  · rename_i hFraction hExponent
    have hSignificand : n.significand = Nat.ofDigitChars 10 n.whole 0 := by
      simp [significand, hFraction]
    have hScale : n.scale = 0 := by simp [scale, hFraction, hExponent, exponentValue]
    refine ⟨?_, hScale⟩
    rw [hSignificand]
    have hMin : Int64.minValue.toInt = -2 ^ 63 := by decide
    have hMax : Int64.maxValue.toInt = 2 ^ 63 - 1 := by decide
    grind
  · cases h

/-- A number that denotes an integer denotes a number in floating point as well. -/
theorem isSome_float?_of_integer? {n : Number} {i : Int64} (h : n.integer? = some i) :
    n.float?.isSome := by
  obtain ⟨hSignificand, hScale⟩ := digits_of_integer? h
  rcases Nat.eq_zero_or_pos n.significand with hZero | hPos
  · rw [float?_of_short (by omega) (by omega)]
    rfl
  · have hNearest : Binary64.ofDecimal n.negative ⟨n.significand, n.scale⟩ =
        Binary64.ofMagnitude n.negative (nearestBits (n.significand * unitsPerOne) 1) := by
      rw [hScale, Binary64.ofDecimal_eq_nearest]
      simp [Numeral.Decimal.numerator, Numeral.Decimal.denominator, nearest]
    have hLarge : nearestBits (2 ^ 64 * unitsPerOne) 1 + 5 < infinityBits := by decide +kernel
    have hMono := Binary64.nearestBits_mono Nat.one_pos Nat.one_pos
      (Nat.mul_le_mul_right 1 (Nat.mul_le_mul_right unitsPerOne hSignificand.le))
    obtain ⟨_, -, -, hRead⟩ := exists_float?_near hPos hSignificand (by omega) (by omega)
      hNearest (by omega)
    rw [hRead]
    rfl

end ScriptValue.Json.Number
