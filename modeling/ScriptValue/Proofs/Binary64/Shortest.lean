import Mathlib
import ScriptValue.Proofs.Binary64.Decimal

/-!
# Shortest decimals are read back

The search for the shortest decimal of a number only takes decimals in its interval, and the exact
value it falls back to lies there too. So the decimal rounds to the number it was made for. A step
of 17 digits is shorter than any interval, so the search does not get to the exact value.

* `isWithin_shortest`: the shortest decimal lies in the interval.
* `ofDecimal_shortest`: it is read as the number.
* `shortest_digits_le`: it has 17 digits at the most.
* `IsWithin.exponent_le`, `IsWithin.le_exponent`: the exponents that occur.
-/

namespace ScriptValue.Binary64

open Numeral (Decimal lt_pow_length_toDigits pow_le_of_lt_length_toDigits)

/-! ## Reading back -/

/-- A decimal in the interval of `m · 2 ^ s` units. -/
def IsWithin (d : Decimal) (m s : Nat) : Prop :=
  (interval m s).contains d.denominator (4 * (d.numerator * unitsPerOne)) = true

theorem multiple?_contains {i : Interval} {tie : Tie} {scale step k : Nat}
    (h : i.multiple? tie scale step = some k) : i.contains scale (k * step) = true := by
  unfold Interval.multiple? at h
  dsimp only at h
  split at h
  · rename_i hBelow hAbove
    split at h
    · cases h
      exact hBelow
    · split at h
      · cases h
        exact hAbove
      · cases tie with
        | up =>
          cases h
          exact hAbove
        | even =>
          cases h
          rcases Nat.mod_two_eq_zero_or_one (i.value * scale / step) with hEven | hOdd
          · rw [hEven, Nat.add_zero]
            exact hBelow
          · rw [hOdd]
            exact hAbove
  · rename_i hBelow _
    cases h
    exact hBelow
  · rename_i hAbove
    cases h
    exact hAbove
  · cases h

theorem isWithin_of_multipleOfPower? {m s k : Nat} {tie : Tie} {e : Int}
    (h : (interval m s).multipleOfPower? tie e = some k) : IsWithin ⟨k, e⟩ m s := by
  unfold Interval.multipleOfPower? at h
  unfold IsWithin Decimal.numerator Decimal.denominator
  dsimp only
  split at h
  · have hContains := multiple?_contains h
    have hExponent : (-e).toNat = 0 := by omega
    rw [hExponent, Nat.pow_zero]
    have hPoint : 4 * (k * 10 ^ e.toNat * unitsPerOne) =
        k * (4 * unitsPerOne * Nat.pow 10 e.toNat) := by
      rw [Nat.pow_eq]
      ring
    rw [hPoint]
    exact hContains
  · have hContains := multiple?_contains h
    have hExponent : e.toNat = 0 := by omega
    have hMagnitude : e.natAbs = (-e).toNat := by omega
    rw [hMagnitude] at hContains
    have hPoint : 4 * (k * 10 ^ e.toNat * unitsPerOne) = k * (4 * unitsPerOne) := by
      rw [hExponent]
      ring
    rw [hPoint]
    exact hContains

/-- A number lies in its interval. -/
theorem contains_value {m s d : Nat} (hm : m ≠ 0) (hd : 0 < d) :
    (interval m s).contains d (4 * (m * 2 ^ s * d)) = true := by
  have hStep : 0 < 2 ^ s * d := Nat.mul_pos (Nat.two_pow_pos s) hd
  have hLow (c : Nat) : (4 * m - c) * 2 ^ s * d = 4 * (m * (2 ^ s * d)) - c * (2 ^ s * d) := by
    rw [Nat.mul_assoc, Nat.sub_mul, Nat.mul_assoc]
  have hHigh : (4 * m + 2) * 2 ^ s * d = 4 * (m * (2 ^ s * d)) + 2 * (2 ^ s * d) := by ring
  have hLeast : 2 ^ s * d ≤ m * (2 ^ s * d) := Nat.le_mul_of_pos_left _ (Nat.pos_of_ne_zero hm)
  rw [interval_contains_iff, hLow, hHigh, Nat.mul_assoc m]
  split <;> omega

/-- The exact value, where two powers make one of ten. -/
theorem isWithin_exact {m s k : Nat} {e : Int} (hm : m ≠ 0) (hUnits : unitsPerOne = 2 ^ k)
    (he : e = -k) : IsWithin ⟨m * Nat.pow 2 s * Nat.pow 5 k, e⟩ m s := by
  have hNone : e.toNat = 0 := by omega
  have hAll : (-e).toNat = k := by omega
  unfold IsWithin Decimal.numerator Decimal.denominator
  dsimp only
  rw [Nat.pow_eq, Nat.pow_eq, hNone, hAll, hUnits, Nat.pow_zero, Nat.mul_one,
    Nat.mul_assoc _ (5 ^ k), ← Nat.mul_pow]
  exact contains_value hm (Nat.pow_pos (by decide))

theorem isWithin_shortestFrom {m s : Nat} (hm : m ≠ 0) (tie : Tie) (steps : Nat) (e : Int) :
    IsWithin (shortestFrom tie m s steps e) m s := by
  induction steps generalizing e with
  | zero =>
    have hUnits := unitsPerOne_eq
    have hExponent : (-1074 : Int) = -(1074 : Nat) := rfl
    unfold shortestFrom
    rw [hExponent]
    -- the power is not computed
    generalize 1074 = k at *
    exact isWithin_exact hm hUnits rfl
  | succ steps ih =>
    unfold shortestFrom
    split
    · rename_i digits hFound
      exact isWithin_of_multipleOfPower? hFound
    · exact ih (e - 1)

theorem isWithin_shortest {m s : Nat} (hm : m ≠ 0) (tie : Tie) :
    IsWithin (shortest tie m s) m s :=
  isWithin_shortestFrom hm tie _ _

theorem ofDecimal_of_isWithin {m s : Nat} (hCanonical : Canonical m s) (hm : m ≠ 0)
    {d : Decimal} (h : IsWithin d m s) (negative : Bool) :
    ofDecimal negative d = ofMagnitude negative (s * 2 ^ 52 + m) := by
  rw [ofDecimal_eq_nearest, nearest, nearestBits_of_contains hCanonical hm d.denominator_pos h]

/-- The shortest decimal of a number is read as this number. -/
theorem ofDecimal_shortest {f : Float} {negative : Bool} {m s : Nat}
    (h : shape f = .finite negative m s) (hm : m ≠ 0) (tie : Tie) :
    ofDecimal negative (shortest tie m s) = f := by
  obtain ⟨hCanonical, hMade⟩ := eq_ofMagnitude_of_shape h
  rw [ofDecimal_of_isWithin hCanonical hm (isWithin_shortest hm tie), ← hMade]

/-! ## The power of ten above a number -/

/-- `k` is the power of ten above `n / d`. -/
def IsOrder (n d : Nat) (k : Int) : Prop :=
  n * 10 ^ (-k).toNat < d * 10 ^ k.toNat ∧ d * 10 ^ (k - 1).toNat ≤ n * 10 ^ (1 - k).toNat

theorem isOrder_decimalOrder {n d : Nat} (hn : 0 < n) (hd : 0 < d) :
    IsOrder n d (decimalOrder n d) := by
  unfold decimalOrder
  split
  · rename_i hLarge
    have hLength := @Nat.length_toDigits_pos 10 (n / d)
    have hPos : n / d ≠ 0 := (Nat.div_pos hLarge hd).ne'
    have hAbove := lt_pow_length_toDigits (n / d)
    have hBelow := pow_le_of_lt_length_toDigits hPos (Nat.sub_one_lt hLength.ne')
    constructor
    · rw [Int.toNat_neg_natCast, Int.toNat_natCast, Nat.pow_zero, Nat.mul_one, Nat.mul_comm]
      exact (Nat.div_lt_iff_lt_mul hd).mp hAbove
    · have hDown : (1 - ((Nat.toDigits 10 (n / d)).length : Int)).toNat = 0 := by omega
      have hUp : (((Nat.toDigits 10 (n / d)).length : Int) - 1).toNat =
          (Nat.toDigits 10 (n / d)).length - 1 := by omega
      rw [hDown, hUp, Nat.pow_zero, Nat.mul_one, Nat.mul_comm]
      exact (Nat.le_div_iff_mul_le hd).mp hBelow
  · rename_i hSmall
    have hLength := @Nat.length_toDigits_pos 10 ((d - 1) / n)
    have hPos : (d - 1) / n ≠ 0 := (Nat.div_pos (by omega) hn).ne'
    have hAbove := lt_pow_length_toDigits ((d - 1) / n)
    have hBelow := pow_le_of_lt_length_toDigits hPos (Nat.sub_one_lt hLength.ne')
    rw [Nat.div_lt_iff_lt_mul hn] at hAbove
    rw [Nat.le_div_iff_mul_le hn] at hBelow
    obtain ⟨j, hj⟩ : ∃ j, j = (Nat.toDigits 10 ((d - 1) / n)).length := ⟨_, rfl⟩
    rw [← hj] at hAbove hBelow hLength ⊢
    have hOne : (-(1 - (j : Int))).toNat = j - 1 := by omega
    have hTwo : (1 - (j : Int)).toNat = 0 := by omega
    have hThree : (1 - (j : Int) - 1).toNat = 0 := by omega
    have hFour : (1 - (1 - (j : Int))).toNat = j := by omega
    constructor
    · rw [hOne, hTwo, Nat.pow_zero, Nat.mul_one, Nat.mul_comm]
      omega
    · rw [hThree, hFour, Nat.pow_zero, Nat.mul_one, Nat.mul_comm n]
      omega

/-! ## The search -/

theorem mul_pow_lt {x y a b i j c : Nat} (h : x * 10 ^ a < y * 10 ^ b)
    (hExponents : b + i ≤ c + j + a) : x * 10 ^ i < 10 ^ c * (y * 10 ^ j) := by
  apply Nat.lt_of_mul_lt_mul_right (a := 10 ^ a)
  calc x * 10 ^ i * 10 ^ a = x * 10 ^ a * 10 ^ i := by ring
    _ < y * 10 ^ b * 10 ^ i := Nat.mul_lt_mul_of_pos_right h (by positivity)
    _ = y * 10 ^ (b + i) := by ring
    _ ≤ y * 10 ^ (c + j + a) := Nat.mul_le_mul_left _ (Nat.pow_le_pow_right (by decide) hExponents)
    _ = 10 ^ c * (y * 10 ^ j) * 10 ^ a := by ring

theorem mul_pow_le {x y a b i j c : Nat} (h : y * 10 ^ b ≤ x * 10 ^ a)
    (hExponents : c + j + a ≤ b + i) : 10 ^ c * (y * 10 ^ j) ≤ x * 10 ^ i := by
  apply Nat.le_of_mul_le_mul_right (c := 10 ^ a) _ (by positivity)
  calc 10 ^ c * (y * 10 ^ j) * 10 ^ a = y * 10 ^ (c + j + a) := by ring
    _ ≤ y * 10 ^ (b + i) := Nat.mul_le_mul_left _ (Nat.pow_le_pow_right (by decide) hExponents)
    _ = y * 10 ^ b * 10 ^ i := by ring
    _ ≤ x * 10 ^ a * 10 ^ i := Nat.mul_le_mul_right _ h
    _ = x * 10 ^ i * 10 ^ a := by ring

theorem multipleOfPower?_eq (i : Interval) (tie : Tie) (e : Int) :
    i.multipleOfPower? tie e =
      i.multiple? tie (10 ^ (-e).toNat) (4 * unitsPerOne * 10 ^ e.toNat) := by
  unfold Interval.multipleOfPower?
  simp only [Nat.pow_eq]
  split
  · have hNone : (-e).toNat = 0 := by omega
    rw [hNone, Nat.pow_zero]
  · have hNone : e.toNat = 0 := by omega
    have hAll : e.natAbs = (-e).toNat := by omega
    rw [hNone, hAll, Nat.pow_zero, Nat.mul_one]

theorem multiple?_le {i : Interval} {tie : Tie} {scale step k : Nat}
    (h : i.multiple? tie scale step = some k) : k ≤ i.value * scale / step + 1 := by
  unfold Interval.multiple? at h
  dsimp only at h
  split at h
  · split at h
    · cases h
      omega
    · split at h
      · cases h
        omega
      · cases tie with
        | up =>
          cases h
          omega
        | even =>
          cases h
          omega
  · cases h
    omega
  · cases h
    omega
  · cases h

/-- Where the interval has no multiple of a step, the step is longer than the interval. -/
theorem le_step_of_multiple?_eq_none {i : Interval} {tie : Tie} {scale step : Nat}
    (hScale : 0 < scale) (hStep : 0 < step) (hLow : i.low < i.value) (hHigh : i.value < i.high)
    (h : i.multiple? tie scale step = none) : i.high * scale ≤ i.low * scale + step := by
  have hLow' : i.low * scale < i.value * scale := Nat.mul_lt_mul_of_pos_right hLow hScale
  have hHigh' : i.value * scale < i.high * scale := Nat.mul_lt_mul_of_pos_right hHigh hScale
  have hBelow : i.value * scale / step * step ≤ i.value * scale := Nat.div_mul_le_self _ _
  have hAbove : i.value * scale < (i.value * scale / step + 1) * step := by
    rw [← Nat.div_lt_iff_lt_mul hStep]
    exact Nat.lt_succ_self _
  unfold Interval.multiple? at h
  dsimp only at h
  split at h
  · split at h
    · cases h
    · split at h
      · cases h
      · cases tie <;> cases h
  · cases h
  · cases h
  · rename_i hNotBelow hNotAbove
    rw [Nat.add_one_mul] at hAbove hNotAbove
    unfold Interval.contains at hNotBelow hNotAbove
    cases hClosed : i.closed with
    | false =>
      simp only [hClosed, Bool.false_eq_true, if_false, Bool.and_eq_false_iff,
        decide_eq_false_iff_not] at hNotBelow hNotAbove
      omega
    | true =>
      simp only [hClosed, if_true, Bool.and_eq_false_iff,
        decide_eq_false_iff_not] at hNotBelow hNotAbove
      omega

/-- The lower end of an interval is half a step away, or a quarter below a power of two. -/
theorem interval_low (m s : Nat) :
    ∃ c, (interval m s).low = (4 * m - c) * 2 ^ s ∧ (c = 2 ∨ (c = 1 ∧ m = 2 ^ 52)) := by
  by_cases hPower : m = Nat.pow 2 52 ∧ s ≠ 0
  · refine ⟨1, ?_, Or.inr ⟨rfl, hPower.1⟩⟩
    unfold interval
    rw [if_pos hPower, Nat.pow_eq]
  · refine ⟨2, ?_, Or.inl rfl⟩
    unfold interval
    rw [if_neg hPower, Nat.pow_eq]

/-- With 17 digits there is a decimal in the interval. -/
theorem multipleOfPower?_ne_none {m s : Nat} (hUpper : m < 2 ^ 53) (hm : m ≠ 0) (tie : Tie)
    {k : Int} (hOrder : IsOrder (m * 2 ^ s) unitsPerOne k) :
    (interval m s).multipleOfPower? tie (k - 17) ≠ none := by
  intro hNone
  rw [multipleOfPower?_eq] at hNone
  obtain ⟨c, hLowest, hc⟩ := interval_low m s
  have hValue : (interval m s).value = 4 * m * 2 ^ s := rfl
  have hHighest : (interval m s).high = (4 * m + 2) * 2 ^ s := rfl
  have hScale : 0 < 10 ^ (-(k - 17)).toNat := Nat.pow_pos (by decide)
  have hStep : 0 < 4 * unitsPerOne * 10 ^ (k - 17).toNat :=
    Nat.mul_pos (Nat.mul_pos (by decide) unitsPerOne_pos) (Nat.pow_pos (by decide))
  have hShift := Nat.two_pow_pos s
  have hLow : (interval m s).low < (interval m s).value := by
    rw [hLowest, hValue]
    exact Nat.mul_lt_mul_of_pos_right (by omega) hShift
  have hHigh : (interval m s).value < (interval m s).high := by
    rw [hHighest, hValue]
    exact Nat.mul_lt_mul_of_pos_right (by omega) hShift
  have hLong := le_step_of_multiple?_eq_none hScale hStep hLow hHigh hNone
  have hShort := mul_pow_le (i := (-(k - 17)).toNat) (j := (k - 17).toNat) (c := 16) hOrder.2
    (by omega)
  -- the step is at most 10^-16 of the value, and less than the length of the interval
  obtain ⟨X, hX⟩ : ∃ X, X = 2 ^ s * 10 ^ (-(k - 17)).toNat := ⟨_, rfl⟩
  obtain ⟨Y, hY⟩ : ∃ Y, Y = unitsPerOne * 10 ^ (k - 17).toNat := ⟨_, rfl⟩
  have hPos : 0 < X := hX ▸ Nat.mul_pos hShift hScale
  rw [hLowest, hHighest, Nat.mul_assoc _ (2 ^ s), Nat.mul_assoc _ (2 ^ s), Nat.mul_assoc 4, ← hX,
    ← hY, Nat.add_mul, Nat.sub_mul, Nat.mul_assoc 4 m X] at hLong
  rw [Nat.mul_assoc m, ← hX, ← hY] at hShort
  have hLeast : 1 * X ≤ m * X := Nat.mul_le_mul_right _ (Nat.pos_of_ne_zero hm)
  have hDigits : (2 + c) * 10 ^ 16 ≤ 4 * m := by
    apply Nat.le_of_mul_le_mul_right _ hPos
    calc (2 + c) * 10 ^ 16 * X = 10 ^ 16 * (2 * X + c * X) := by ring
      _ ≤ 10 ^ 16 * (4 * Y) := by
        apply Nat.mul_le_mul_left
        rcases hc with rfl | ⟨rfl, -⟩ <;> omega
      _ = 4 * (10 ^ 16 * Y) := by ring
      _ ≤ 4 * (m * X) := Nat.mul_le_mul_left _ hShort
      _ = 4 * m * X := by ring
  omega

theorem multipleOfPower?_le {m s : Nat} {tie : Tie} {e k : Int}
    (hOrder : IsOrder (m * 2 ^ s) unitsPerOne k) (he : k - 17 ≤ e) {digits : Nat}
    (h : (interval m s).multipleOfPower? tie e = some digits) : digits ≤ 10 ^ 17 := by
  rw [multipleOfPower?_eq] at h
  have hBelow := mul_pow_lt (i := (-e).toNat) (j := e.toNat) (c := 17) hOrder.1 (by omega)
  have hStep : 0 < 4 * unitsPerOne * 10 ^ e.toNat :=
    Nat.mul_pos (Nat.mul_pos (by decide) unitsPerOne_pos) (Nat.pow_pos (by decide))
  have hQuotient : (interval m s).value * 10 ^ (-e).toNat / (4 * unitsPerOne * 10 ^ e.toNat) <
      10 ^ 17 := by
    rw [Nat.div_lt_iff_lt_mul hStep]
    change 4 * m * 2 ^ s * _ < _
    calc 4 * m * 2 ^ s * 10 ^ (-e).toNat = 4 * (m * 2 ^ s * 10 ^ (-e).toNat) := by ring
      _ < 4 * (10 ^ 17 * (unitsPerOne * 10 ^ e.toNat)) :=
          Nat.mul_lt_mul_of_pos_left hBelow (by decide)
      _ = 10 ^ 17 * (4 * unitsPerOne * 10 ^ e.toNat) := by ring
  have hDigits := multiple?_le h
  omega

theorem shortestFrom_digits_le {m s : Nat} (hUpper : m < 2 ^ 53) (hm : m ≠ 0) (tie : Tie)
    {k : Int} (hOrder : IsOrder (m * 2 ^ s) unitsPerOne k) (steps : Nat) {e : Int}
    (he : e = k - 17 + steps) : (shortestFrom tie m s (steps + 1) e).digits ≤ 10 ^ 17 := by
  induction steps generalizing e with
  | zero =>
    have hLast : e = k - 17 := by omega
    unfold shortestFrom
    split
    · rename_i hFound
      exact multipleOfPower?_le hOrder hLast.ge hFound
    · rename_i hNone
      exact absurd (hLast ▸ hNone) (multipleOfPower?_ne_none hUpper hm tie hOrder)
  | succ steps ih =>
    unfold shortestFrom
    split
    · rename_i hFound
      exact multipleOfPower?_le hOrder (by omega) hFound
    · exact ih (by omega)

/-- Shortest decimals have at most 17 digits, or are a power of ten. -/
theorem shortest_digits_le {m s : Nat} (hUpper : m < 2 ^ 53) (hm : m ≠ 0) (tie : Tie) :
    (shortest tie m s).digits ≤ 10 ^ 17 := by
  have hOrder := isOrder_decimalOrder (n := m * 2 ^ s)
    (Nat.mul_pos (Nat.pos_of_ne_zero hm) (Nat.two_pow_pos s)) unitsPerOne_pos
  unfold shortest
  rw [Nat.pow_eq]
  exact shortestFrom_digits_le hUpper hm tie hOrder 17 (by omega)

/-! ## The range of the decimals -/

theorem interval_low_pos {m s : Nat} (hm : m ≠ 0) : 0 < (interval m s).low := by
  obtain ⟨c, hLow, hc⟩ := interval_low m s
  rw [hLow]
  exact Nat.mul_pos (by omega) (Nat.two_pow_pos s)

theorem IsWithin.low_le {d : Decimal} {m s : Nat} (h : IsWithin d m s) :
    (interval m s).low * d.denominator ≤ 4 * (d.numerator * unitsPerOne) :=
  (interval_contains_iff.mp h).1

theorem IsWithin.digits_ne_zero {d : Decimal} {m s : Nat} (h : IsWithin d m s) (hm : m ≠ 0) :
    d.digits ≠ 0 := by
  intro hZero
  have hLow := h.low_le
  have hPos := Nat.mul_pos (interval_low_pos (s := s) hm) d.denominator_pos
  rw [Decimal.numerator, hZero, Nat.zero_mul, Nat.zero_mul] at hLow
  omega

/-- The numbers of the format are below 10^309. -/
theorem IsWithin.exponent_le {d : Decimal} {m s : Nat} (h : IsWithin d m s) (hm : m ≠ 0)
    (hCanonical : Canonical m s) : d.exponent ≤ 308 := by
  by_contra hLarge
  have hHigh := (interval_contains_iff.mp h).2.1
  have hOne : d.denominator = 1 := by
    unfold Decimal.denominator
    rw [Int.toNat_of_nonpos (by omega), Nat.pow_zero]
  have hPower (k : Nat) (hk : k ≤ 309) : 10 ^ k ≤ 10 ^ d.exponent.toNat :=
    Nat.pow_le_pow_right (by decide) (by omega)
  have hNumerator : 10 ^ 309 ≤ d.numerator :=
    (hPower 309 le_rfl).trans
      (Nat.le_mul_of_pos_left _ (Nat.pos_of_ne_zero (h.digits_ne_zero hm)))
  have hTop : 2 ^ 53 * 2 ^ 2045 = 2 ^ 1024 * unitsPerOne := by
    rw [unitsPerOne_eq]
    exact (two_pow_mul (c := 2098) (by decide)).trans (two_pow_mul (by decide)).symm
  have hValue : (4 * m + 2) * 2 ^ s ≤ 4 * (2 ^ 1024 * unitsPerOne) := by
    obtain ⟨hm, hs, -⟩ := hCanonical
    have hShift (k : Nat) (hk : s ≤ k) : 2 ^ s ≤ 2 ^ k := Nat.pow_le_pow_right (by decide) hk
    calc (4 * m + 2) * 2 ^ s ≤ 4 * 2 ^ 53 * 2 ^ 2045 := Nat.mul_le_mul (by omega) (hShift 2045 hs)
      _ = 4 * (2 ^ 1024 * unitsPerOne) := by rw [Nat.mul_assoc, hTop]
  have hBound : 2 ^ 1024 < 10 ^ 309 := by decide +kernel
  rw [hOne, Nat.mul_one] at hHigh
  have hContradiction : 4 * (d.numerator * unitsPerOne) < 4 * (d.numerator * unitsPerOne) := by
    calc 4 * (d.numerator * unitsPerOne) ≤ 4 * (2 ^ 1024 * unitsPerOne) := hHigh.trans hValue
      _ < 4 * (d.numerator * unitsPerOne) :=
        Nat.mul_lt_mul_of_pos_left
          (Nat.mul_lt_mul_of_pos_right (hBound.trans_le hNumerator) unitsPerOne_pos) (by decide)
  exact Nat.lt_irrefl _ hContradiction

/-- With up to 17 digits, they are above 10^-349. -/
theorem IsWithin.le_exponent {d : Decimal} {m s : Nat} (h : IsWithin d m s) (hm : m ≠ 0)
    (hDigits : d.digits ≤ 10 ^ 17) : -349 ≤ d.exponent := by
  by_contra hSmall
  have hLow := h.low_le
  have hNumerator : d.numerator = d.digits := by
    unfold Decimal.numerator
    rw [Int.toNat_of_nonpos (by omega), Nat.pow_zero, Nat.mul_one]
  have hPower (k : Nat) (hk : k ≤ 350) : 10 ^ k ≤ d.denominator :=
    Nat.pow_le_pow_right (by decide) (by omega)
  have hContradiction : d.denominator < d.denominator := by
    calc d.denominator = 1 * d.denominator := (Nat.one_mul _).symm
      _ ≤ (interval m s).low * d.denominator := Nat.mul_le_mul_right _ (interval_low_pos hm)
      _ ≤ d.digits * (2 * (2 * unitsPerOne)) := by
        rw [hNumerator] at hLow
        exact hLow.trans_eq (by ring)
      _ ≤ 10 ^ 17 * (2 * 10 ^ 331) := Nat.mul_le_mul hDigits (Nat.mul_le_mul_left _ two_units_le)
      _ < 10 ^ 350 := by decide +kernel
      _ ≤ d.denominator := hPower 350 le_rfl
  exact Nat.lt_irrefl _ hContradiction

end ScriptValue.Binary64
