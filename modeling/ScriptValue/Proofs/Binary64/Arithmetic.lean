import Mathlib
import ScriptValue.Proofs.Binary64.Rounding

/-!
# Products and quotients of finite numbers

The product and the quotient of two finite numbers are the numbers nearest to the exact results.
Arithmetic calculates with a mantissa and two more bits, one for the half of a step and one for
all below. So the first part says what these bits know of a quotient of natural numbers, and that
rounding by them is rounding to the even one of two.

* `Represents.roundedMantissa`: rounding by the two bits.
* `toNat_pack_roundWithAccuracy`: rounding to the format, and packing.
* `mul_eq_nearest`, `div_eq_nearest`: products and quotients.
-/

namespace ScriptValue.Binary64

open Float.Model (UnpackedFloat Format totalExponent)
open Float.Model.UnpackedFloat (Sign pack ExtendedMantissa Accuracy accuracyOfFraction
  shiftToTargetExponent shiftToExponent roundWithAccuracy)

/-! ## The bits below the mantissa -/

/-- What a mantissa with its two residual bits knows of a quotient. -/
structure Represents (em : ExtendedMantissa) (n d : Nat) : Prop where
  mantissa : em.mantissa = n / d
  roundBit : em.roundBit = true ↔ d ≤ 2 * (n % d)
  stickyBit : em.stickyBit = true ↔ 2 * (n % d) ≠ 0 ∧ 2 * (n % d) ≠ d

/-- The fraction of a quotient sets the two bits. -/
theorem represents_fraction (n : Nat) {d : Nat} (hd : 0 < d) :
    Represents (.ofMantissaAndAccuracy (n / d) (accuracyOfFraction (n % d) d)) n d := by
  unfold accuracyOfFraction
  by_cases hZero : n % d = 0
  · rw [if_pos hZero]
    exact ⟨rfl, iff_of_false Bool.false_ne_true (by omega),
      iff_of_false Bool.false_ne_true (by omega)⟩
  · rw [if_neg hZero]
    rcases Nat.lt_trichotomy (2 * (n % d)) d with hLess | hHalf | hGreater
    · rw [Nat.compare_eq_lt.mpr hLess]
      exact ⟨rfl, iff_of_false Bool.false_ne_true (by omega), iff_of_true rfl (by omega)⟩
    · rw [Nat.compare_eq_eq.mpr hHalf]
      exact ⟨rfl, iff_of_true rfl (by omega), iff_of_false Bool.false_ne_true (by omega)⟩
    · rw [Nat.compare_eq_gt.mpr hGreater]
      exact ⟨rfl, iff_of_true rfl (by omega), iff_of_true rfl (by omega)⟩

theorem represents_exact (m : Nat) : Represents (.ofMantissaAndAccuracy m .exact) m 1 := by
  have hFraction := represents_fraction m Nat.one_pos
  rwa [Nat.div_one, Nat.mod_one] at hFraction

theorem Represents.shiftRightOne {em : ExtendedMantissa} {n d : Nat} (hd : 0 < d)
    (h : Represents em n d) : Represents em.shiftRightOne n (d * 2) := by
  obtain ⟨hMantissa, hRound, hSticky⟩ := h
  have hRest := Nat.mod_lt n hd
  have hMod : n % (d * 2) = n % d + d * (n / d % 2) := Nat.mod_mul
  constructor
  · change em.mantissa / 2 = _
    rw [hMantissa, Nat.div_div_eq_div_mul]
  · change (em.mantissa % 2 != 0) = true ↔ _
    rw [hMantissa, hMod, bne_iff_ne]
    rcases Nat.mod_two_eq_zero_or_one (n / d) with h | h
    · rw [h]
      omega
    · rw [h]
      omega
  · change (em.roundBit || em.stickyBit) = true ↔ _
    rw [Bool.or_eq_true, hRound, hSticky, hMod]
    rcases Nat.mod_two_eq_zero_or_one (n / d) with h | h
    · rw [h]
      omega
    · rw [h]
      omega

theorem Represents.shiftRight {em : ExtendedMantissa} {n d : Nat} (hd : 0 < d)
    (h : Represents em n d) (k : Nat) : Represents (em >>> k) n (d * 2 ^ k) := by
  change Represents (k.repeat ExtendedMantissa.shiftRightOne em) n (d * 2 ^ k)
  induction k with
  | zero => simpa [Nat.repeat] using h
  | succ k ih =>
    have hNext := ih.shiftRightOne (Nat.mul_pos hd (Nat.two_pow_pos k))
    rw [Nat.mul_assoc, ← Nat.pow_succ] at hNext
    exact hNext

theorem Represents.roundedMantissa {em : ExtendedMantissa} {n d : Nat}
    (h : Represents em n d) : em.roundedMantissa = roundHalfEven n d := by
  obtain ⟨hMantissa, hRound, hSticky⟩ := h
  obtain ⟨m, roundBit, stickyBit⟩ := em
  unfold roundHalfEven
  dsimp only at *
  subst hMantissa
  cases roundBit <;> cases stickyBit <;>
    simp only [Bool.false_eq_true, false_iff, true_iff] at hRound hSticky
  · change n / d = _
    split
    · rfl
    · omega
  · change n / d = _
    split
    · rfl
    · omega
  · change n / d + n / d % 2 = _
    split
    · omega
    · split
      · omega
      · rfl
  · change n / d + 1 = _
    split
    · omega
    · split
      · rfl
      · omega

/-! ## Rounding to the format -/

theorem targetExponent_eq (m : Nat) (e : Int) :
    Format.binary64.targetExponent (totalExponent m e) = max (m.log2 + e - 52) (-1074) := by
  simp [Format.targetExponent, totalExponent, Format.mantissaBits, Format.minExponent]
  omega

/-- A mantissa that fits stays where it is. -/
theorem shiftToTargetExponent_of_lt {m : Nat} {s : Nat} (hm : m < 2 ^ 53) :
    shiftToTargetExponent .binary64 m (s - 1074) .exact =
      (ExtendedMantissa.mk m false false, (s : Int) - 1074) := by
  have hLog : m.log2 ≤ 52 := by
    by_cases hZero : m = 0
    · subst hZero
      simp
    · exact Nat.lt_succ_iff.mp ((Nat.log2_lt hZero).mpr hm)
  have hShift : (Format.binary64.targetExponent (totalExponent m (s - 1074)) - (s - 1074)).toNat =
      0 := by
    rw [targetExponent_eq]
    omega
  unfold shiftToTargetExponent shiftToExponent
  simp only [hShift]
  simp
  rfl

/-- A mantissa that was rounded up to 2^53 is halved. -/
theorem shiftToTargetExponent_carry (s : Nat) :
    shiftToTargetExponent .binary64 (2 ^ 53) (s - 1074) .exact =
      (ExtendedMantissa.mk (2 ^ 52) false false, ((s + 1 : Nat) : Int) - 1074) := by
  have hShift : (Format.binary64.targetExponent (totalExponent (2 ^ 53) (s - 1074)) -
      (s - 1074)).toNat = 1 := by
    rw [targetExponent_eq, Nat.log2_two_pow]
    omega
  unfold shiftToTargetExponent shiftToExponent
  simp only [hShift]
  refine Prod.ext rfl ?_
  push_cast
  omega

theorem roundWithAccuracy_of_lt {negative : Bool} {m : Nat} {e : Int} {a : Accuracy} {s r : Nat}
    (hFirst : (shiftToTargetExponent .binary64 m e a).2 = s - 1074)
    (hRounded : (shiftToTargetExponent .binary64 m e a).1.roundedMantissa = r) (hr : r < 2 ^ 53) :
    roundWithAccuracy .binary64 (signOf negative) m e a = unpacked negative r s := by
  unfold roundWithAccuracy
  dsimp only
  rw [hFirst, hRounded, shiftToTargetExponent_of_lt hr]
  rfl

theorem roundWithAccuracy_carry {negative : Bool} {m : Nat} {e : Int} {a : Accuracy} {s : Nat}
    (hFirst : (shiftToTargetExponent .binary64 m e a).2 = s - 1074)
    (hRounded : (shiftToTargetExponent .binary64 m e a).1.roundedMantissa = 2 ^ 53) :
    roundWithAccuracy .binary64 (signOf negative) m e a = unpacked negative (2 ^ 52) (s + 1) := by
  unfold roundWithAccuracy
  dsimp only
  rw [hFirst, hRounded, shiftToTargetExponent_carry]
  rfl

/-- A rounded mantissa is packed with its shift, and a carry goes into the exponent. -/
theorem toNat_pack_of_rounded {m : Nat} {e : Int} {a : Accuracy} {s r : Nat} (negative : Bool)
    (hFirst : (shiftToTargetExponent .binary64 m e a).2 = s - 1074)
    (hRounded : (shiftToTargetExponent .binary64 m e a).1.roundedMantissa = r)
    (hNormal : s = 0 ∨ 2 ^ 52 ≤ r) (hUpper : r ≤ 2 ^ 53) :
    (pack .binary64 (roundWithAccuracy .binary64 (signOf negative) m e a)).toNat =
      signBits negative + min (s * 2 ^ 52 + r) infinityBits := by
  rcases hUpper.lt_or_eq with hLess | rfl
  · rw [roundWithAccuracy_of_lt hFirst hRounded hLess, toNat_pack_unpacked negative hLess hNormal]
  · have hCarry : (s + 1) * 2 ^ 52 + 2 ^ 52 = s * 2 ^ 52 + 2 ^ 53 := by ring
    rw [roundWithAccuracy_carry hFirst hRounded,
      toNat_pack_unpacked negative (by omega) (Or.inr le_rfl), hCarry]

/-- The nearest number of a quotient whose powers of two are written apart. -/
theorem nearestBits_shifted {n d a b s k : Nat} (hd : 0 < d) (hShifts : s + b = k + a)
    (hLow : s = 0 ∨ 2 ^ (52 + k) * d ≤ n) (hHigh : n < 2 ^ (53 + k) * d) :
    nearestBits (n * 2 ^ a) (d * 2 ^ b) =
        min (s * 2 ^ 52 + roundHalfEven n (d * 2 ^ k)) infinityBits ∧
      (s = 0 ∨ 2 ^ 52 ≤ roundHalfEven n (d * 2 ^ k)) ∧ roundHalfEven n (d * 2 ^ k) ≤ 2 ^ 53 := by
  have hPos : 0 < d * 2 ^ b := Nat.mul_pos hd (Nat.two_pow_pos b)
  have hSpan (i : Nat) : 2 ^ (i + s) * (d * 2 ^ b) = 2 ^ (i + k) * d * 2 ^ a := by
    calc 2 ^ (i + s) * (d * 2 ^ b) = 2 ^ i * d * 2 ^ (s + b) := by ring
      _ = 2 ^ i * d * 2 ^ (k + a) := by rw [hShifts]
      _ = 2 ^ (i + k) * d * 2 ^ a := by ring
  have hLow' : s = 0 ∨ 2 ^ (52 + s) * (d * 2 ^ b) ≤ n * 2 ^ a := by
    refine hLow.imp_right fun h => ?_
    rw [hSpan]
    exact Nat.mul_le_mul_right _ h
  have hHigh' : n * 2 ^ a < 2 ^ (53 + s) * (d * 2 ^ b) := by
    rw [hSpan]
    exact Nat.mul_lt_mul_of_pos_right hHigh (Nat.two_pow_pos a)
  have hSame : roundHalfEven (n * 2 ^ a) (d * 2 ^ b * 2 ^ s) = roundHalfEven n (d * 2 ^ k) := by
    rw [← roundHalfEven_mul (Nat.two_pow_pos a) (Nat.mul_pos hd (Nat.two_pow_pos k)),
      Nat.mul_comm n]
    congr 1
    calc d * 2 ^ b * 2 ^ s = d * 2 ^ (s + b) := by ring
      _ = d * 2 ^ (k + a) := by rw [hShifts]
      _ = 2 ^ a * (d * 2 ^ k) := by ring
  rw [nearestBits_eq hPos hLow' hHigh', ← hSame]
  exact ⟨rfl, roundHalfEven_bounds hPos hLow' hHigh'⟩

/-- Rounding a number of at least 53 bits and packing it gives the nearest number. -/
theorem toNat_pack_roundWithAccuracy {n d a b : Nat} (hd : 0 < d) {accuracy : Accuracy}
    (hRepresents : Represents (.ofMantissaAndAccuracy (n / d) accuracy) n d)
    {e : Int} (he : e = a - b - 1074)
    (hEnough : e ≤ Format.binary64.targetExponent (totalExponent (n / d) e)) (negative : Bool) :
    (pack .binary64 (roundWithAccuracy .binary64 (signOf negative) (n / d) e accuracy)).toNat =
      signBits negative + nearestBits (n * 2 ^ a) (d * 2 ^ b) := by
  have hTarget := targetExponent_eq (n / d) e
  -- the target in units, and how far the mantissa is shifted
  obtain ⟨s, hs⟩ : ∃ s : Nat,
      Format.binary64.targetExponent (totalExponent (n / d) e) = s - 1074 :=
    ⟨(Format.binary64.targetExponent (totalExponent (n / d) e) + 1074).toNat, by omega⟩
  obtain ⟨k, hk⟩ : ∃ k : Nat, k = ((s : Int) - 1074 - e).toNat := ⟨_, rfl⟩
  have hFirst : (shiftToTargetExponent .binary64 (n / d) e accuracy).2 = s - 1074 := by
    change e + (((Format.binary64.targetExponent (totalExponent (n / d) e)) - e).toNat : Int) = _
    rw [hs]
    omega
  have hRounded : (shiftToTargetExponent .binary64 (n / d) e accuracy).1.roundedMantissa =
      roundHalfEven n (d * 2 ^ k) := by
    have hShifted := (hRepresents.shiftRight hd k).roundedMantissa
    rw [hk, ← hs] at hShifted ⊢
    exact hShifted
  -- the mantissa that the shift leaves has 53 bits, or the number is subnormal
  have hHigh : n < 2 ^ (53 + k) * d := by
    rw [← Nat.div_lt_iff_lt_mul hd]
    exact Nat.lt_log2_self.trans_le (Nat.pow_le_pow_right (by omega) (by omega))
  have hLow : s = 0 ∨ 2 ^ (52 + k) * d ≤ n := by
    by_cases hSubnormal : s = 0
    · exact Or.inl hSubnormal
    · right
      have hPos : n / d ≠ 0 := by
        intro hZero
        have hLog : (n / d).log2 = 0 := by rw [hZero, Nat.log2_zero]
        omega
      rw [← Nat.le_div_iff_mul_le hd]
      exact (Nat.pow_le_pow_right (by omega) (by omega)).trans (Nat.log2_self_le hPos)
  obtain ⟨hBits, hNormal, hUpper⟩ :=
    nearestBits_shifted (a := a) (b := b) hd (by omega : s + b = k + a) hLow hHigh
  rw [hBits, toNat_pack_of_rounded negative hFirst hRounded hNormal hUpper]

/-! ## Units -/

theorem unitsPerOne_eq : unitsPerOne = 2 ^ 1074 := by
  unfold unitsPerOne
  generalize 1074 = k
  rfl

theorem unitsPerOne_pos : 0 < unitsPerOne := by
  rw [unitsPerOne_eq]
  positivity

/-! ## Bits of the nearest number -/

theorem toBits_nearest (negative : Bool) (n d : Nat) :
    (nearest negative n d).toBits.toNat = signBits negative + nearestBits n d :=
  toBits_ofMagnitude negative (nearestBits_le n d)

/-! ## Products -/

theorem signOf_mul (b c : Bool) : signOf b * signOf c = signOf (b != c) := by
  cases b <;> cases c <;> rfl

theorem signOf_div (b c : Bool) : signOf b / signOf c = signOf (b != c) := by
  cases b <;> cases c <;> rfl

theorem Canonical.log2_or {m s : Nat} (h : Canonical m s) : s = 0 ∨ 52 ≤ m.log2 := by
  refine h.normal.imp_right fun hm => ?_
  exact (Nat.le_log2 (by omega)).mpr hm

theorem log2_le_log2 {m n : Nat} (h : m ≤ n) : m.log2 ≤ n.log2 := by
  rw [Nat.log2_eq_log_two, Nat.log2_eq_log_two]
  exact Nat.log_mono_right h

/-- A product of two mantissas has 53 bits, or both numbers are subnormal. -/
theorem log2_mul_or {m s m' s' : Nat} (hf : Canonical m s) (hg : Canonical m' s') (hm : m ≠ 0)
    (hm' : m' ≠ 0) : (s = 0 ∧ s' = 0) ∨ 52 ≤ (m * m').log2 := by
  have hLeft : m.log2 ≤ (m * m').log2 :=
    log2_le_log2 (Nat.le_mul_of_pos_right m (Nat.pos_of_ne_zero hm'))
  have hRight : m'.log2 ≤ (m * m').log2 :=
    log2_le_log2 (Nat.le_mul_of_pos_left m' (Nat.pos_of_ne_zero hm))
  rcases hf.log2_or with hs | hLog
  · exact hg.log2_or.imp (fun hs' => ⟨hs, hs'⟩) fun hLog => hLog.trans hRight
  · exact Or.inr (hLog.trans hLeft)

theorem toNat_pack_mul {m s m' s' : Nat} (hf : Canonical m s) (hg : Canonical m' s')
    (negative negative' : Bool) :
    (pack .binary64
      ((unpacked negative m s).mul .binary64 (unpacked negative' m' s'))).toNat =
      signBits (negative != negative') +
        nearestBits (m * m' * 2 ^ (s + s')) unitsPerOne := by
  by_cases hZero : m = 0 ∨ m' = 0
  · have hProduct : m * m' = 0 := Nat.mul_eq_zero.mpr hZero
    have hMul : (unpacked negative m s).mul .binary64 (unpacked negative' m' s') =
        .zero (signOf (negative != negative')) := by
      rw [← signOf_mul]
      unfold unpacked
      rcases hZero with rfl | rfl
      · rw [dif_pos rfl]
        split <;> rfl
      · rw [dif_pos rfl]
        split <;> rfl
    rw [hMul, hProduct, Nat.zero_mul, nearestBits_zero, toNat_pack_zero, Nat.add_zero]
  · obtain ⟨hm, hm'⟩ : m ≠ 0 ∧ m' ≠ 0 := by omega
    have hMul : (unpacked negative m s).mul .binary64 (unpacked negative' m' s') =
        roundWithAccuracy .binary64 (signOf (negative != negative')) (m * m' / 1)
          ((s : Int) - 1074 + (s' - 1074)) .exact := by
      rw [← signOf_mul, Nat.div_one]
      unfold unpacked
      rw [dif_neg hm, dif_neg hm']
      rfl
    have hExact : Represents (.ofMantissaAndAccuracy (m * m' / 1) .exact) (m * m') 1 := by
      rw [Nat.div_one]
      exact represents_exact _
    have hEnough : (s : Int) - 1074 + (s' - 1074) ≤ Format.binary64.targetExponent
        (totalExponent (m * m' / 1) ((s : Int) - 1074 + (s' - 1074))) := by
      rw [targetExponent_eq, Nat.div_one]
      have hLog := log2_mul_or hf hg hm hm'
      omega
    rw [hMul, toNat_pack_roundWithAccuracy (a := s + s') (b := 1074) Nat.one_pos hExact
      (by push_cast; omega) hEnough, Nat.one_mul, unitsPerOne_eq]

theorem mul_eq_nearest {f g : Float} {negative negative' : Bool} {m s m' s' : Nat}
    (hf : shape f = .finite negative m s) (hg : shape g = .finite negative' m' s') :
    f * g = nearest (negative != negative') (m * m' * 2 ^ (s + s')) unitsPerOne := by
  apply toNat_toBits_inj
  rw [toBits_nearest, ← toNat_pack_mul (bits_of_shape hf).1 (bits_of_shape hg).1,
    ← unpack_of_shape hf, ← unpack_of_shape hg]
  rfl

/-! ## Quotients -/

/-- Two ways to write a quotient with its exponents apart. -/
theorem shifted_quotient_eq {m m' a b c i j k : Nat} (h : i + j + k = a + b + c) :
    m * 2 ^ i * 2 ^ j * (m' * 2 ^ k) = m * 2 ^ a * 2 ^ b * (m' * 2 ^ c) := by
  calc m * 2 ^ i * 2 ^ j * (m' * 2 ^ k) = m * m' * 2 ^ (i + j + k) := by ring
    _ = m * m' * 2 ^ (a + b + c) := by rw [h]
    _ = m * 2 ^ a * 2 ^ b * (m' * 2 ^ c) := by ring

/-- A dividend that is shifted far enough leaves 53 bits of the quotient. -/
theorem le_log2_div {m m' k : Nat} (hm : m ≠ 0) (hm' : m' ≠ 0)
    (h : m'.log2 + 53 ≤ m.log2 + k) : 52 ≤ (m * 2 ^ k / m').log2 := by
  have hQuotient : 2 ^ 52 ≤ m * 2 ^ k / m' := by
    rw [Nat.le_div_iff_mul_le (Nat.pos_of_ne_zero hm')]
    calc 2 ^ 52 * m' ≤ 2 ^ 52 * 2 ^ (m'.log2 + 1) := Nat.mul_le_mul_left _ Nat.lt_log2_self.le
      _ = 2 ^ (m'.log2 + 53) := by ring
      _ ≤ 2 ^ (m.log2 + k) := Nat.pow_le_pow_right (by omega) h
      _ = 2 ^ m.log2 * 2 ^ k := by ring
      _ ≤ m * 2 ^ k := Nat.mul_le_mul_right _ (Nat.log2_self_le hm)
  exact (Nat.le_log2 (by omega)).mpr hQuotient

theorem toNat_pack_div {m s m' s' : Nat} (hm' : m' ≠ 0) (negative negative' : Bool) :
    (pack .binary64
      ((unpacked negative m s).div .binary64 (unpacked negative' m' s'))).toNat =
      signBits (negative != negative') +
        nearestBits (m * 2 ^ s * unitsPerOne) (m' * 2 ^ s') := by
  by_cases hm : m = 0
  · subst hm
    have hDiv : (unpacked negative 0 s).div .binary64 (unpacked negative' m' s') =
        .zero (signOf (negative != negative')) := by
      rw [← signOf_div]
      unfold unpacked
      rw [dif_pos rfl, dif_neg hm']
      rfl
    rw [hDiv, Nat.zero_mul, Nat.zero_mul, nearestBits_zero, toNat_pack_zero, Nat.add_zero]
  · -- the exponent of the quotient, and how far the dividend is shifted for it
    obtain ⟨e, he⟩ : ∃ e, e = min ((s : Int) - 1074 - (s' - 1074))
        (Format.binary64.targetExponent
          (totalExponent m (s - 1074) - totalExponent m' (s' - 1074))) := ⟨_, rfl⟩
    obtain ⟨k, hk⟩ : ∃ k, k = ((s : Int) - 1074 - (s' - 1074) - e).toNat := ⟨_, rfl⟩
    have hDiv : (unpacked negative m s).div .binary64 (unpacked negative' m' s') =
        roundWithAccuracy .binary64 (signOf (negative != negative')) (m * 2 ^ k / m') e
          (accuracyOfFraction (m * 2 ^ k % m') m') := by
      rw [← signOf_div, ← Nat.shiftLeft_eq, hk, he]
      unfold unpacked
      rw [dif_neg hm, dif_neg hm']
      rfl
    have hTarget : Format.binary64.targetExponent
        (totalExponent m (s - 1074) - totalExponent m' (s' - 1074)) =
          max ((m.log2 : Int) + (s - 1074) - m'.log2 - (s' - 1074) - 53) (-1074) := by
      simp [Format.targetExponent, totalExponent, Format.mantissaBits, Format.minExponent]
      omega
    have hEnough : e ≤ Format.binary64.targetExponent (totalExponent (m * 2 ^ k / m') e) := by
      rw [targetExponent_eq]
      by_cases hSubnormal : e ≤ -1074
      · omega
      · have hLog := le_log2_div (k := k) hm hm' (by omega)
        omega
    rw [hDiv, toNat_pack_roundWithAccuracy (a := (e + 1074).toNat) (b := (-(e + 1074)).toNat)
      (Nat.pos_of_ne_zero hm') (represents_fraction _ (Nat.pos_of_ne_zero hm')) (by omega) hEnough]
    have hExponents : k + (e + 1074).toNat + s' = s + 1074 + (-(e + 1074)).toNat := by omega
    have hSame : m * 2 ^ k * 2 ^ (e + 1074).toNat * (m' * 2 ^ s') =
        m * 2 ^ s * unitsPerOne * (m' * 2 ^ (-(e + 1074)).toNat) := by
      rw [unitsPerOne_eq]
      exact shifted_quotient_eq hExponents
    rw [nearestBits_congr _ _ hSame]
    · positivity
    · positivity

theorem div_eq_nearest {f g : Float} {negative negative' : Bool} {m s m' s' : Nat}
    (hf : shape f = .finite negative m s) (hg : shape g = .finite negative' m' s')
    (hm' : m' ≠ 0) :
    f / g = nearest (negative != negative') (m * 2 ^ s * unitsPerOne) (m' * 2 ^ s') := by
  apply toNat_toBits_inj
  rw [toBits_nearest, ← toNat_pack_div hm', ← unpack_of_shape hf, ← unpack_of_shape hg]
  rfl

/-! ## Negation -/

theorem neg_signOf (negative : Bool) : -signOf negative = signOf (!negative) := by
  cases negative <;> rfl

theorem neg_unpacked (negative : Bool) (m s : Nat) :
    (unpacked negative m s).neg = unpacked (!negative) m s := by
  unfold unpacked
  split <;> rw [← neg_signOf] <;> rfl

theorem neg_ofMagnitude (negative : Bool) {b : Nat} (hb : b ≤ infinityBits) :
    -ofMagnitude negative b = ofMagnitude (!negative) b := by
  apply toNat_toBits_inj
  rw [toBits_ofMagnitude _ hb]
  rcases hb.lt_or_eq with hFinite | rfl
  · obtain ⟨m, s, hCanonical, rfl⟩ := exists_canonical hFinite
    have hUnpack := unpack_of_shape (shape_ofMagnitude negative hCanonical)
    have hPack := toNat_pack_unpacked (!negative) hCanonical.mantissa_lt hCanonical.normal
    rw [min_eq_left hFinite.le, ← neg_unpacked, ← hUnpack] at hPack
    exact hPack
  · cases negative <;> rfl

theorem neg_nearest (negative : Bool) (n d : Nat) :
    -nearest negative n d = nearest (!negative) n d :=
  neg_ofMagnitude negative (nearestBits_le n d)

theorem isInf_of_shape {f : Float} {negative : Bool} {m s : Nat}
    (h : shape f = .finite negative m s) : f.isInf = false := by
  change f.toModel.unpack.isInf = false
  rw [unpack_of_shape h]
  unfold unpacked
  split <;> rfl

theorem isInf_nearest {n d : Nat} (h : nearestBits n d < infinityBits) (negative : Bool) :
    (nearest negative n d).isInf = false := by
  obtain ⟨m, s, hCanonical, hBits⟩ := exists_canonical h
  rw [nearest, hBits]
  exact isInf_of_shape (shape_ofMagnitude negative hCanonical)

end ScriptValue.Binary64
