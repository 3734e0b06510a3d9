import Mathlib
import ScriptValue.Binary64.Shortest
import ScriptValue.Proofs.Binary64.Finite

/-!
# Rounding to binary64

Rounding a quotient to a natural number gives the one within half a step, and the even one of two.
Rounding to the format does this after a shift that leaves 53 bits. The two laws that all others
come down to are that only the quotient counts, and that rounding is monotone, also where the
shift changes.

* `roundHalfEven_eq`, `roundHalfEven_mono`: rounding to natural numbers.
* `nearestBits_mono`, `nearestBits_congr`: rounding to the format.
* `nearestBits_of_contains`: the numbers in the interval of a finite number round to it.
-/

namespace ScriptValue.Binary64

/-! ## Rounding to a natural number -/

theorem roundHalfEven_spec {n d : Nat} (hd : 0 < d) :
    2 * (roundHalfEven n d * d) ≤ 2 * n + d ∧ 2 * n ≤ 2 * (roundHalfEven n d * d) + d := by
  have hDivision := Nat.div_add_mod' n d
  have hRest := Nat.mod_lt n hd
  unfold roundHalfEven
  dsimp only
  generalize n / d = q at *
  generalize n % d = r at *
  split
  · omega
  · split
    · rw [Nat.add_one_mul q d]
      omega
    · rcases Nat.mod_two_eq_zero_or_one q with hq | hq
      · rw [hq, Nat.add_zero]
        omega
      · rw [hq, Nat.add_one_mul q d]
        omega

theorem roundHalfEven_tie {n d : Nat} (hd : 0 < d)
    (h : 2 * (roundHalfEven n d * d) = 2 * n + d ∨ 2 * n = 2 * (roundHalfEven n d * d) + d) :
    roundHalfEven n d % 2 = 0 := by
  have hDivision := Nat.div_add_mod' n d
  have hRest := Nat.mod_lt n hd
  revert h
  unfold roundHalfEven
  dsimp only
  generalize n / d = q at *
  generalize n % d = r at *
  split
  · omega
  · split
    · rw [Nat.add_one_mul q d]
      omega
    · omega

/-- Of two multiples that are within half a step, one is at most the next of the other. -/
theorem le_add_one_of_half_step {n d p q : Nat} (hd : 0 < d) (hp : 2 * n ≤ 2 * (p * d) + d)
    (hq : 2 * (q * d) ≤ 2 * n + d) : q ≤ p + 1 := by
  have hNext : q * d < (p + 2) * d := by
    rw [Nat.add_mul p 2 d]
    omega
  exact Nat.lt_succ_iff.mp (Nat.lt_of_mul_lt_mul_right hNext)

theorem roundHalfEven_eq {n d q : Nat} (hd : 0 < d) (hLow : 2 * (q * d) ≤ 2 * n + d)
    (hHigh : 2 * n ≤ 2 * (q * d) + d)
    (hTie : 2 * (q * d) = 2 * n + d ∨ 2 * n = 2 * (q * d) + d → q % 2 = 0) :
    roundHalfEven n d = q := by
  obtain ⟨hLow', hHigh'⟩ := roundHalfEven_spec (n := n) hd
  have hTie' := roundHalfEven_tie (n := n) hd
  generalize roundHalfEven n d = p at *
  -- of two numbers that are one apart, both ties, one is odd
  rcases Nat.lt_trichotomy p q with hLess | hSame | hGreater
  · have hNext := le_add_one_of_half_step hd hHigh' hLow
    obtain rfl : q = p + 1 := by omega
    rw [Nat.add_one_mul p d] at *
    omega
  · exact hSame
  · have hNext := le_add_one_of_half_step hd hHigh hLow'
    obtain rfl : p = q + 1 := by omega
    rw [Nat.add_one_mul q d] at *
    omega

theorem le_roundHalfEven {n d q : Nat} (hd : 0 < d) (h : q * d ≤ n) : q ≤ roundHalfEven n d := by
  have hFloor : q ≤ n / d := (Nat.le_div_iff_mul_le hd).mpr h
  unfold roundHalfEven
  dsimp only
  split
  · exact hFloor
  · split <;> omega

theorem roundHalfEven_le {n d q : Nat} (hd : 0 < d) (h : n ≤ q * d) : roundHalfEven n d ≤ q := by
  obtain ⟨hLow, -⟩ := roundHalfEven_spec (n := n) hd
  by_contra hGreater
  generalize roundHalfEven n d = p at *
  have hStep : (q + 1) * d ≤ p * d := Nat.mul_le_mul_right d (by omega)
  rw [Nat.add_one_mul q d] at hStep
  omega

theorem roundHalfEven_mul {n d k : Nat} (hk : 0 < k) (hd : 0 < d) :
    roundHalfEven (k * n) (k * d) = roundHalfEven n d := by
  obtain ⟨hLow, hHigh⟩ := roundHalfEven_spec (n := n) hd
  have hTie := roundHalfEven_tie (n := n) hd
  generalize roundHalfEven n d = p at *
  have hProduct : p * (k * d) = k * (p * d) := Nat.mul_left_comm p k d
  apply roundHalfEven_eq (Nat.mul_pos hk hd)
  · nlinarith
  · nlinarith
  · intro h
    apply hTie
    rw [hProduct] at h
    refine h.imp ?_ ?_ <;> intro h <;> apply Nat.eq_of_mul_eq_mul_left hk <;> linarith

theorem roundHalfEven_mono_left {n n' d : Nat} (hd : 0 < d) (h : n ≤ n') :
    roundHalfEven n d ≤ roundHalfEven n' d := by
  rcases h.eq_or_lt with rfl | hLess
  · exact le_rfl
  obtain ⟨hLow, -⟩ := roundHalfEven_spec (n := n) hd
  obtain ⟨-, hHigh⟩ := roundHalfEven_spec (n := n') hd
  generalize roundHalfEven n d = p at *
  generalize roundHalfEven n' d = p' at *
  have hProduct : p * d < (p' + 1) * d := by
    rw [Nat.add_one_mul p' d]
    omega
  exact Nat.lt_succ_iff.mp (Nat.lt_of_mul_lt_mul_right hProduct)

theorem roundHalfEven_mono {n d n' d' : Nat} (hd : 0 < d) (hd' : 0 < d')
    (h : n * d' ≤ n' * d) : roundHalfEven n d ≤ roundHalfEven n' d' := by
  rw [← roundHalfEven_mul hd' hd, ← roundHalfEven_mul hd hd', Nat.mul_comm d' d]
  apply roundHalfEven_mono_left (Nat.mul_pos hd hd')
  linarith

/-! ## Rounding to the format -/

/-- A bound on a quotient, as a bound on its mantissa. -/
theorem two_pow_add_mul (k s d : Nat) : 2 ^ (k + s) * d = 2 ^ k * (d * 2 ^ s) := by
  ring

theorem shift_eq {n d s : Nat} (hd : 0 < d) (hLow : s = 0 ∨ 2 ^ (52 + s) * d ≤ n)
    (hHigh : n < 2 ^ (53 + s) * d) : (n / d).log2 - 52 = s := by
  have hBelow : n / d < 2 ^ (53 + s) := (Nat.div_lt_iff_lt_mul hd).mpr hHigh
  rcases Nat.eq_zero_or_pos (n / d) with hZero | hPos
  · rw [hZero, Nat.log2_zero]
    rcases hLow with rfl | hLow
    · rfl
    · have hFloor := (Nat.le_div_iff_mul_le hd).mpr hLow
      have hPower := Nat.two_pow_pos (52 + s)
      omega
  · have hLess : (n / d).log2 < 53 + s := (Nat.log2_lt hPos.ne').mpr hBelow
    rcases hLow with rfl | hLow
    · omega
    · have hFloor := (Nat.le_log2 hPos.ne').mpr ((Nat.le_div_iff_mul_le hd).mpr hLow)
      omega

/-- The shift of a quotient leaves 53 bits of it, or is zero. -/
theorem exists_shift (n : Nat) {d : Nat} (hd : 0 < d) :
    ∃ s, (s = 0 ∨ 2 ^ (52 + s) * d ≤ n) ∧ n < 2 ^ (53 + s) * d := by
  refine ⟨(n / d).log2 - 52, ?_, ?_⟩
  · by_cases hSmall : (n / d).log2 ≤ 52
    · left
      omega
    · right
      have hPos : n / d ≠ 0 := by
        intro hZero
        rw [hZero, Nat.log2_zero] at hSmall
        omega
      rw [Nat.add_sub_cancel' (by omega)]
      exact (Nat.le_div_iff_mul_le hd).mp (Nat.log2_self_le hPos)
  · have hLess : n / d < 2 ^ ((n / d).log2 + 1) := Nat.lt_log2_self
    have hPower : 2 ^ ((n / d).log2 + 1) ≤ 2 ^ (53 + ((n / d).log2 - 52)) :=
      Nat.pow_le_pow_right (by omega) (by omega)
    exact (Nat.div_lt_iff_lt_mul hd).mp (hLess.trans_le hPower)

theorem nearestBits_eq {n d s : Nat} (hd : 0 < d) (hLow : s = 0 ∨ 2 ^ (52 + s) * d ≤ n)
    (hHigh : n < 2 ^ (53 + s) * d) :
    nearestBits n d = min (s * 2 ^ 52 + roundHalfEven n (d * 2 ^ s)) infinityBits := by
  unfold nearestBits
  simp only [Nat.pow_eq, shift_eq hd hLow hHigh]

/-- The mantissa of a quotient has 53 bits, or 2^53 comes out, or the shift is zero. -/
theorem roundHalfEven_bounds {n d s : Nat} (hd : 0 < d) (hLow : s = 0 ∨ 2 ^ (52 + s) * d ≤ n)
    (hHigh : n < 2 ^ (53 + s) * d) :
    (s = 0 ∨ 2 ^ 52 ≤ roundHalfEven n (d * 2 ^ s)) ∧ roundHalfEven n (d * 2 ^ s) ≤ 2 ^ 53 := by
  have hPos : 0 < d * 2 ^ s := Nat.mul_pos hd (Nat.two_pow_pos s)
  constructor
  · refine hLow.imp_right fun h => le_roundHalfEven hPos ?_
    rwa [two_pow_add_mul] at h
  · apply roundHalfEven_le hPos
    rw [two_pow_add_mul] at hHigh
    exact hHigh.le

theorem nearestBits_mono {n d n' d' : Nat} (hd : 0 < d) (hd' : 0 < d') (h : n * d' ≤ n' * d) :
    nearestBits n d ≤ nearestBits n' d' := by
  obtain ⟨s, hLow, hHigh⟩ := exists_shift n hd
  obtain ⟨s', hLow', hHigh'⟩ := exists_shift n' hd'
  rw [nearestBits_eq hd hLow hHigh, nearestBits_eq hd' hLow' hHigh']
  refine min_le_min_right _ ?_
  obtain ⟨-, hUpper⟩ := roundHalfEven_bounds hd hLow hHigh
  obtain ⟨hLower', -⟩ := roundHalfEven_bounds hd' hLow' hHigh'
  rcases Nat.lt_trichotomy s s' with hLess | rfl | hGreater
  · have hNormal := hLower'.resolve_left (by omega)
    omega
  · apply Nat.add_le_add_left
    apply roundHalfEven_mono
    · exact Nat.mul_pos hd (Nat.two_pow_pos s)
    · exact Nat.mul_pos hd' (Nat.two_pow_pos s)
    · calc n * (d' * 2 ^ s) = n * d' * 2 ^ s := by ring
        _ ≤ n' * d * 2 ^ s := Nat.mul_le_mul_right _ h
        _ = n' * (d * 2 ^ s) := by ring
  · -- the greater shift would belong to the greater quotient
    exfalso
    have hFirst := hLow.resolve_left (by omega)
    have hPower : 2 ^ (53 + s') ≤ 2 ^ (52 + s) := Nat.pow_le_pow_right (by omega) (by omega)
    have hContradiction : n' * d < n * d' :=
      calc n' * d < 2 ^ (53 + s') * d' * d := Nat.mul_lt_mul_of_pos_right hHigh' hd
        _ ≤ 2 ^ (52 + s) * d' * d := by gcongr
        _ = 2 ^ (52 + s) * d * d' := by ring
        _ ≤ n * d' := Nat.mul_le_mul_right _ hFirst
    omega

theorem nearestBits_congr {n d n' d' : Nat} (hd : 0 < d) (hd' : 0 < d') (h : n * d' = n' * d) :
    nearestBits n d = nearestBits n' d' :=
  Nat.le_antisymm (nearestBits_mono hd hd' h.le) (nearestBits_mono hd' hd h.ge)

theorem nearestBits_zero (d : Nat) : nearestBits 0 d = 0 := by
  simp [nearestBits, roundHalfEven]

theorem nearestBits_le (n d : Nat) : nearestBits n d ≤ infinityBits :=
  Nat.min_le_right _ _

/-! ## Intervals -/

theorem interval_contains_iff {m s d n : Nat} :
    (interval m s).contains d (4 * n) = true ↔
      (4 * m - if m = 2 ^ 52 ∧ s ≠ 0 then 1 else 2) * 2 ^ s * d ≤ 4 * n ∧
        4 * n ≤ (4 * m + 2) * 2 ^ s * d ∧
        (m % 2 = 1 → (4 * m - if m = 2 ^ 52 ∧ s ≠ 0 then 1 else 2) * 2 ^ s * d ≠ 4 * n ∧
          4 * n ≠ (4 * m + 2) * 2 ^ s * d) := by
  unfold Interval.contains interval
  simp only [Nat.pow_eq, decide_eq_true_eq]
  rcases Nat.mod_two_eq_zero_or_one m with hm | hm
  · simp [hm]
  · simp [hm]
    omega

/-- Half a step or less below a power of two, a quotient is rounded up to it. -/
theorem nearestBits_carry {n d s : Nat} (hd : 0 < d) (hBelow : n < 2 ^ (53 + s) * d)
    (hNear : 2 * (2 ^ 53 * (d * 2 ^ s)) ≤ 2 * n + d * 2 ^ s) :
    nearestBits n d = min ((s + 1) * 2 ^ 52 + 2 ^ 52) infinityBits := by
  have hStep : 0 < d * 2 ^ s := Nat.mul_pos hd (Nat.two_pow_pos s)
  have hUnder := hBelow
  rw [two_pow_add_mul] at hUnder
  have hRound : roundHalfEven n (d * 2 ^ s) = 2 ^ 53 := by
    apply roundHalfEven_eq hStep <;> omega
  have hLow : s = 0 ∨ 2 ^ (52 + s) * d ≤ n := by
    right
    rw [two_pow_add_mul]
    omega
  have hCarry : s * 2 ^ 52 + 2 ^ 53 = (s + 1) * 2 ^ 52 + 2 ^ 52 := by ring
  rw [nearestBits_eq hd hLow hBelow, hRound, hCarry]

/-- The numbers in the interval of a binary64 number round to it. -/
theorem nearestBits_of_contains {m s n d : Nat} (hCanonical : Canonical m s) (hm : m ≠ 0)
    (hd : 0 < d) (hContains : (interval m s).contains d (4 * n) = true) :
    nearestBits n d = s * 2 ^ 52 + m := by
  obtain ⟨hLow, hHigh, hOpen⟩ := interval_contains_iff.mp hContains
  have hBelowInfinity := hCanonical.lt_infinityBits
  obtain ⟨hUpper, hShift, hNormal⟩ := hCanonical
  have hStep : 0 < d * 2 ^ s := Nat.mul_pos hd (Nat.two_pow_pos s)
  have hLowest (c : Nat) : (4 * m - c) * 2 ^ s * d = 4 * (m * (d * 2 ^ s)) - c * (d * 2 ^ s) := by
    rw [Nat.mul_assoc, Nat.mul_comm (2 ^ s) d, Nat.sub_mul, Nat.mul_assoc]
  have hHighest : (4 * m + 2) * 2 ^ s * d = 4 * (m * (d * 2 ^ s)) + 2 * (d * 2 ^ s) := by ring
  have hSize : m * (d * 2 ^ s) + d * 2 ^ s ≤ 2 ^ 53 * (d * 2 ^ s) := by
    rw [← Nat.add_one_mul]
    exact Nat.mul_le_mul_right _ hUpper
  simp only [hLowest, hHighest] at hLow hHigh hOpen
  have hBelow : n < 2 ^ (53 + s) * d := by
    rw [two_pow_add_mul]
    omega
  by_cases hPlain : s = 0 ∨ 2 ^ (52 + s) * d ≤ n
  · have hRound : roundHalfEven n (d * 2 ^ s) = m := by
      apply roundHalfEven_eq hStep
      · split at hLow <;> omega
      · omega
      · intro hTie
        by_contra hOdd
        obtain ⟨hLow', hHigh'⟩ := hOpen (by omega)
        split at hLow' <;> omega
    rw [nearestBits_eq hd hPlain hBelow, hRound, min_eq_left hBelowInfinity.le]
  · -- below a power of two the numbers lie twice as dense, and the mantissa is rounded up to 2^53
    obtain ⟨hShiftPos, hUnder⟩ : s ≠ 0 ∧ n < 2 ^ (52 + s) * d := by omega
    have hImplicit := hNormal.resolve_left hShiftPos
    rw [two_pow_add_mul] at hUnder
    have hPowerOfTwo : m = 2 ^ 52 := by
      by_contra hOther
      have hGreater : (2 ^ 52 + 1) * (d * 2 ^ s) ≤ m * (d * 2 ^ s) :=
        Nat.mul_le_mul_right _ (by omega)
      rw [Nat.add_one_mul] at hGreater
      split at hLow <;> omega
    subst hPowerOfTwo
    rw [if_pos ⟨rfl, hShiftPos⟩] at hLow
    obtain ⟨t, rfl⟩ := Nat.exists_eq_succ_of_ne_zero hShiftPos
    have hHalf : d * 2 ^ (t + 1) = 2 * (d * 2 ^ t) := by ring
    have hSpanHalf := two_pow_add_mul 53 t d
    rw [hHalf] at hLow hUnder
    rw [nearestBits_carry (s := t) hd (by omega) (by omega), min_eq_left hBelowInfinity.le]

/-- A mantissa of 53 bits is not rounded. -/
theorem nearestBits_mantissa {m s d : Nat} (hm : m < 2 ^ 53) (hNormal : s = 0 ∨ 2 ^ 52 ≤ m)
    (hd : 0 < d) : nearestBits (m * 2 ^ s * d) d = min (s * 2 ^ 52 + m) infinityBits := by
  have hStep : 0 < d * 2 ^ s := Nat.mul_pos hd (Nat.two_pow_pos s)
  have hValue : m * 2 ^ s * d = m * (d * 2 ^ s) := by ring
  have hRound : roundHalfEven (m * (d * 2 ^ s)) (d * 2 ^ s) = m := by
    apply roundHalfEven_eq hStep <;> omega
  have hLow : s = 0 ∨ 2 ^ (52 + s) * d ≤ m * (d * 2 ^ s) := by
    refine hNormal.imp_right fun hImplicit => ?_
    rw [two_pow_add_mul]
    exact Nat.mul_le_mul_right _ hImplicit
  have hHigh : m * (d * 2 ^ s) < 2 ^ (53 + s) * d := by
    rw [two_pow_add_mul]
    exact Nat.mul_lt_mul_of_pos_right hm hStep
  rw [hValue, nearestBits_eq hd hLow hHigh, hRound]

/-- A finite number is nearest to itself. -/
theorem nearestBits_exact {m s d : Nat} (hCanonical : Canonical m s) (hd : 0 < d) :
    nearestBits (m * 2 ^ s * d) d = s * 2 ^ 52 + m := by
  rw [nearestBits_mantissa hCanonical.mantissa_lt hCanonical.normal hd,
    min_eq_left hCanonical.lt_infinityBits.le]

theorem shape_nearest_exact {m s : Nat} (hCanonical : Canonical m s) (negative : Bool) :
    shape (nearest negative (m * 2 ^ s) 1) = .finite negative m s := by
  have hExact := nearestBits_exact hCanonical Nat.one_pos
  rw [Nat.mul_one] at hExact
  rw [nearest, hExact, shape_ofMagnitude negative hCanonical]

theorem exists_canonical_eq {a j : Nat} (ha : a < 2 ^ 53) (hj : j ≤ 2045) :
    ∃ m s, Canonical m s ∧ m * 2 ^ s = a * 2 ^ j := by
  by_cases hZero : a = 0
  · subst hZero
    exact ⟨0, 0, ⟨by decide, by decide, Or.inl rfl⟩, by rw [Nat.zero_mul, Nat.zero_mul]⟩
  · have hLog : a.log2 < 53 := (Nat.log2_lt hZero).mpr ha
    -- the bits that are free above the mantissa
    obtain ⟨k, hk⟩ : ∃ k, k = 52 - a.log2 := ⟨_, rfl⟩
    have hUpper (i : Nat) (hi : i ≤ k) : a * 2 ^ i < 2 ^ 53 := by
      calc a * 2 ^ i < 2 ^ (a.log2 + 1) * 2 ^ i :=
            Nat.mul_lt_mul_of_pos_right Nat.lt_log2_self (Nat.two_pow_pos i)
        _ = 2 ^ (a.log2 + 1 + i) := (Nat.pow_add _ _ _).symm
        _ ≤ 2 ^ 53 := Nat.pow_le_pow_right (by decide) (by omega)
    by_cases hSubnormal : j ≤ k
    · refine ⟨a * 2 ^ j, 0, ⟨hUpper j hSubnormal, by omega, Or.inl rfl⟩, ?_⟩
      rw [Nat.pow_zero, Nat.mul_one]
    · refine ⟨a * 2 ^ k, j - k, ⟨hUpper k le_rfl, by omega, Or.inr ?_⟩, ?_⟩
      · calc 2 ^ 52 = 2 ^ a.log2 * 2 ^ k := by
              rw [← Nat.pow_add]
              congr 1
              omega
          _ ≤ a * 2 ^ k := Nat.mul_le_mul_right _ (Nat.log2_self_le hZero)
      · rw [Nat.mul_assoc, ← Nat.pow_add]
        congr 2
        omega

/-- A number of at most 53 bits, times a power of two in the range, is exact. -/
theorem shape_nearest_of_lt {a j : Nat} (ha : a < 2 ^ 53) (hj : j ≤ 2045) (negative : Bool) :
    ∃ m s, m * 2 ^ s = a * 2 ^ j ∧
      shape (nearest negative (a * 2 ^ j) 1) = .finite negative m s := by
  obtain ⟨m, s, hCanonical, hValue⟩ := exists_canonical_eq ha hj
  refine ⟨m, s, hValue, ?_⟩
  rw [← hValue]
  exact shape_nearest_exact hCanonical negative

end ScriptValue.Binary64
