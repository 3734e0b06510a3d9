import Mathlib
import ScriptValue.Proofs.Binary64.Special

/-!
# Finite numbers and their bits

A finite number is its sign, its mantissa and its shift, and these three stand in its bits one
after the other: `shift · 2 ^ 52 + mantissa` are the magnitude bits, where the leading bit of a
normal mantissa counts as a carry into the exponent.

* `Canonical`: the mantissas and shifts of finite numbers, each number once.
* `shape_ofMagnitude`, `eq_ofMagnitude_of_shape`: a number and its shape determine each other.
* `unpack_of_shape`, `toNat_pack_unpacked`: the same for the numbers that arithmetic works on.
-/

namespace ScriptValue.Binary64

open Float.Model (UnpackedFloat Format)
open Float.Model.UnpackedFloat (Sign pack unpack packComponents packedZero packedInfinity
  unpackExponent unpackMantissa unpackSign)

/-- A mantissa and a shift that belong to a finite number. A mantissa of less than 53 bits has the
least shift. -/
structure Canonical (mantissa shift : Nat) : Prop where
  mantissa_lt : mantissa < 2 ^ 53
  shift_le : shift ≤ 2045
  normal : shift = 0 ∨ 2 ^ 52 ≤ mantissa

theorem infinityBits_eq : infinityBits = 2047 * 2 ^ 52 := rfl

theorem Canonical.lt_infinityBits {m s : Nat} (h : Canonical m s) :
    s * 2 ^ 52 + m < infinityBits := by
  obtain ⟨hm, hs, -⟩ := h
  rw [infinityBits_eq]
  omega

/-- All magnitude bits below those of infinity belong to finite numbers. -/
theorem exists_canonical {b : Nat} (h : b < infinityBits) :
    ∃ m s, Canonical m s ∧ b = s * 2 ^ 52 + m := by
  rw [infinityBits_eq] at h
  by_cases hSubnormal : b < 2 ^ 52
  · exact ⟨b, 0, ⟨by omega, by omega, Or.inl rfl⟩, by omega⟩
  · exact ⟨2 ^ 52 + b % 2 ^ 52, b / 2 ^ 52 - 1, ⟨by omega, by omega, by omega⟩, by omega⟩

/-! ## Signs -/

def signBits (negative : Bool) : Nat :=
  if negative then 2 ^ 63 else 0

def signOf (negative : Bool) : Sign :=
  if negative then .negative else .positive

theorem signBits_eq (negative : Bool) : signBits negative = 0 ∨ signBits negative = 2 ^ 63 := by
  cases negative with
  | false => exact Or.inl rfl
  | true => exact Or.inr rfl

theorem toNat_toBitVec_signOf (negative : Bool) :
    (signOf negative).toBitVec.toNat * 2 ^ 63 = signBits negative := by
  cases negative <;> rfl

/-! ## Shapes -/

theorem bits_of_shape {f : Float} {negative : Bool} {m s : Nat}
    (h : shape f = .finite negative m s) :
    Canonical m s ∧ f.toBits.toNat = signBits negative + (s * 2 ^ 52 + m) := by
  have hlt := f.toBits.toNat_lt
  unfold shape at h
  simp only [Nat.pow_eq] at h
  split at h
  · split at h <;> cases h
  · split at h
    · cases h
      refine ⟨⟨by omega, by omega, by omega⟩, ?_⟩
      simp only [signBits, decide_eq_true_eq]
      split <;> omega
    · cases h
      refine ⟨⟨by omega, by omega, by omega⟩, ?_⟩
      simp only [signBits, decide_eq_true_eq]
      split <;> omega

theorem shape_of_bits {f : Float} {negative : Bool} {m s : Nat} (hCanonical : Canonical m s)
    (hBits : f.toBits.toNat = signBits negative + (s * 2 ^ 52 + m)) :
    shape f = .finite negative m s := by
  obtain ⟨hm, hs, hNormal⟩ := hCanonical
  have hSignBits := signBits_eq negative
  have hSign : decide (2 ^ 63 ≤ f.toBits.toNat) = negative := by
    rw [hBits]
    cases negative with
    | false =>
      rw [decide_eq_false_iff_not]
      change ¬2 ^ 63 ≤ 0 + (s * 2 ^ 52 + m)
      omega
    | true =>
      rw [decide_eq_true_eq]
      exact Nat.le_add_right _ _
  unfold shape
  simp only [Nat.pow_eq, hSign]
  by_cases hImplicit : 2 ^ 52 ≤ m
  · have hExponent : f.toBits.toNat / 2 ^ 52 % 2 ^ 11 = s + 1 := by omega
    have hFraction : f.toBits.toNat % 2 ^ 52 = m - 2 ^ 52 := by omega
    rw [hExponent, hFraction, if_neg (by omega), if_neg (by omega)]
    simp only [Shape.finite.injEq, true_and]
    omega
  · obtain rfl : s = 0 := by omega
    have hExponent : f.toBits.toNat / 2 ^ 52 % 2 ^ 11 = 0 := by omega
    have hFraction : f.toBits.toNat % 2 ^ 52 = m := by omega
    rw [hExponent, hFraction, if_neg (by omega), if_pos rfl]

/-! ## Packing -/

/-- What a finite number is unpacked to. -/
def unpacked (negative : Bool) (mantissa shift : Nat) : UnpackedFloat :=
  if h : mantissa = 0 then .zero (signOf negative)
  else .finite (signOf negative) mantissa (shift - 1074) (Nat.pos_of_ne_zero h)

theorem toNat_packComponents (s : Sign) (e : BitVec 11) (m : BitVec 52) :
    (packComponents .binary64 s e m).toNat =
      s.toBitVec.toNat * 2 ^ 63 + e.toNat * 2 ^ 52 + m.toNat := by
  have he := e.isLt
  have hm := m.isLt
  simp only [packComponents]
  rw [BitVec.toNat_append, BitVec.toNat_append, ← Nat.shiftLeft_add_eq_or_of_lt hm,
    ← Nat.shiftLeft_add_eq_or_of_lt he, Nat.shiftLeft_eq, Nat.shiftLeft_eq]
  omega

theorem toNat_pack_zero (negative : Bool) :
    (pack .binary64 (.zero (signOf negative))).toNat = signBits negative := by
  cases negative <;> rfl

theorem toNat_packedInfinity (negative : Bool) :
    (packedInfinity .binary64 (signOf negative)).toNat = signBits negative + infinityBits := by
  cases negative <;> rfl

/-- A shift beyond those of finite numbers is packed as infinity. -/
theorem toNat_pack_unpacked (negative : Bool) {m s : Nat} (hm : m < 2 ^ 53)
    (hNormal : s = 0 ∨ 2 ^ 52 ≤ m) :
    (pack .binary64 (unpacked negative m s)).toNat =
      signBits negative + min (s * 2 ^ 52 + m) infinityBits := by
  rw [infinityBits_eq]
  unfold unpacked
  split
  · rename_i hZero
    rw [toNat_pack_zero]
    omega
  · rename_i hPos
    have hBiased : ((s : Int) - 1074 + Format.binary64.exponentBias +
        (Format.binary64.mantissaBitsWithoutImplicit : Nat)).toNat = s + 1 := by
      simp [Format.exponentBias]
      omega
    simp only [pack, hBiased]
    by_cases hOverflow : 2046 ≤ s
    · rw [if_pos (by simp; omega), toNat_packedInfinity, infinityBits_eq]
      omega
    · rw [if_neg (by simp; omega)]
      by_cases hImplicit : 2 ^ 52 ≤ m
      · have hLog : m.log2 + 1 = Format.binary64.mantissaBits := by
          rw [(Nat.log2_eq_iff hPos).mpr ⟨hImplicit, hm⟩]
          rfl
        rw [if_pos hLog, toNat_packComponents, toNat_toBitVec_signOf]
        simp only [BitVec.toNat_ofNat]
        omega
      · obtain rfl : s = 0 := by omega
        have hLog : m.log2 + 1 ≠ Format.binary64.mantissaBits := by
          have hSmall : m.log2 < 52 := (Nat.log2_lt hPos).mpr (by omega)
          change m.log2 + 1 ≠ 53
          omega
        rw [if_neg hLog, toNat_packComponents, toNat_toBitVec_signOf]
        simp only [BitVec.toNat_ofNat]
        omega

/-! ## Unpacking -/

theorem toNat_unpackSign (bits : UInt64) :
    (@unpackSign .binary64 bits.toBitVec).toNat = bits.toNat / 2 ^ 63 := by
  have hlt := bits.toNat_lt
  simp [unpackSign, Nat.shiftRight_eq_div_pow]
  omega

theorem ofBitVec_unpackSign {bits : UInt64} {negative : Bool} {r : Nat} (hRest : r < 2 ^ 63)
    (hBits : bits.toNat = signBits negative + r) :
    Sign.ofBitVec (@unpackSign .binary64 bits.toBitVec) = signOf negative := by
  have hSign := toNat_unpackSign bits
  unfold Sign.ofBitVec
  cases negative with
  | false =>
    have hZero : bits.toNat / 2 ^ 63 = (0#1).toNat := by
      rw [hBits]
      change (0 + r) / 2 ^ 63 = 0
      omega
    rw [if_pos (BitVec.eq_of_toNat_eq (hSign.trans hZero))]
    rfl
  | true =>
    have hOne : bits.toNat / 2 ^ 63 = (1#1).toNat := by
      rw [hBits]
      change (2 ^ 63 + r) / 2 ^ 63 = 1
      omega
    rw [BitVec.eq_of_toNat_eq (hSign.trans hOne)]
    rfl

theorem unpack_of_bits {bits : UInt64} {negative : Bool} {m s : Nat} (hCanonical : Canonical m s)
    (hBits : bits.toNat = signBits negative + (s * 2 ^ 52 + m)) :
    unpack .binary64 bits.toBitVec = unpacked negative m s := by
  obtain ⟨hm, hs, hNormal⟩ := hCanonical
  have hSign := ofBitVec_unpackSign (r := s * 2 ^ 52 + m) (by omega) hBits
  have hSignBits := signBits_eq negative
  have hExponent := toNat_unpackExponent bits
  have hMantissa := toNat_unpackMantissa bits
  simp only [Nat.pow_eq] at hExponent hMantissa
  unfold unpack unpacked
  simp only [hSign]
  by_cases hImplicit : 2 ^ 52 ≤ m
  · have hE : (@unpackExponent .binary64 bits.toBitVec).toNat = s + 1 := by omega
    have hM : (@unpackMantissa .binary64 bits.toBitVec).toNat = m - 2 ^ 52 := by omega
    have hFinite : @unpackExponent .binary64 bits.toBitVec ≠ -1#_ := by
      intro h
      rw [h] at hE
      simp at hE
      omega
    have hNotZero : @unpackExponent .binary64 bits.toBitVec ≠ 0#_ := by
      intro h
      rw [h] at hE
      simp at hE
    have hFull : (1#1 ++ @unpackMantissa .binary64 bits.toBitVec).toNat = m := by
      rw [BitVec.toNat_append, ← Nat.shiftLeft_add_eq_or_of_lt (BitVec.isLt _), hM]
      simp [Nat.shiftLeft_eq]
      omega
    rw [if_neg hFinite, if_neg hNotZero, dif_neg (by omega)]
    simp only [hFull, hE, UnpackedFloat.finite.injEq, true_and]
    simp [Format.exponentBias]
    omega
  · obtain rfl : s = 0 := by omega
    have hE : (@unpackExponent .binary64 bits.toBitVec).toNat = 0 := by omega
    have hM : (@unpackMantissa .binary64 bits.toBitVec).toNat = m := by omega
    have hFinite : @unpackExponent .binary64 bits.toBitVec ≠ -1#_ := by
      intro h
      rw [h] at hE
      simp at hE
    have hZero : @unpackExponent .binary64 bits.toBitVec = 0#_ := BitVec.eq_of_toNat_eq hE
    rw [if_neg hFinite, if_pos hZero]
    by_cases hNone : m = 0
    · have hNoBits : m = (0#52).toNat := hNone
      rw [dif_pos (BitVec.eq_of_toNat_eq (hM.trans hNoBits)), dif_pos hNone]
    · have hSome : @unpackMantissa .binary64 bits.toBitVec ≠ 0#_ := by
        intro h
        rw [h] at hM
        exact hNone hM.symm
      rw [dif_neg hSome, dif_neg hNone]
      simp only [hM, hE, UnpackedFloat.finite.injEq, true_and]
      simp [Format.exponentBias]

theorem unpack_of_shape {f : Float} {negative : Bool} {m s : Nat}
    (h : shape f = .finite negative m s) : f.toModel.unpack = unpacked negative m s := by
  obtain ⟨hCanonical, hBits⟩ := bits_of_shape h
  exact unpack_of_bits hCanonical hBits

/-! ## Finiteness -/

theorem isFinite_of_shape {f : Float} {negative : Bool} {m s : Nat}
    (h : shape f = .finite negative m s) : f.isFinite = true := by
  change f.toModel.unpack.isFinite = true
  rw [unpack_of_shape h]
  unfold unpacked
  split <;> rfl

theorem exists_shape_of_isFinite {f : Float} (h : f.isFinite = true) :
    ∃ negative m s, shape f = .finite negative m s := by
  cases hShape : shape f with
  | nan =>
    rw [eq_nan_of_shape hShape] at h
    cases h
  | infinite negative =>
    rw [eq_infinity_of_shape hShape] at h
    cases negative <;> cases h
  | finite negative m s => exact ⟨negative, m, s, rfl⟩

theorem beq_zero_of_shape {f : Float} {negative : Bool} {m s : Nat}
    (h : shape f = .finite negative m s) (hm : 0 < m) : (f == 0) = false := by
  by_contra hEqual
  rw [Bool.not_eq_false, beq_zero_iff] at hEqual
  have hZero : ∃ b, shape f = .finite b 0 0 := by
    rcases hEqual with rfl | rfl
    · exact ⟨false, rfl⟩
    · exact ⟨true, rfl⟩
  obtain ⟨b, hZero⟩ := hZero
  cases h.symm.trans hZero
  exact absurd hm (Nat.lt_irrefl 0)

/-! ## Numbers made of bits -/

theorem toBits_infinity (negative : Bool) :
    (infinity negative).toBits.toNat = signBits negative + infinityBits := by
  cases negative <;> rfl

theorem toNat_magnitude (negative : Bool) {b : Nat} (hb : b < 2 ^ 63) :
    (UInt64.ofNat (if negative then Nat.pow 2 63 + b else b)).toNat = signBits negative + b := by
  rw [UInt64.toNat_ofNat']
  cases negative with
  | false =>
    change b % 2 ^ 64 = 0 + b
    omega
  | true =>
    change (2 ^ 63 + b) % 2 ^ 64 = 2 ^ 63 + b
    omega

theorem toBits_ofMagnitude (negative : Bool) {b : Nat} (hb : b ≤ infinityBits) :
    (ofMagnitude negative b).toBits.toNat = signBits negative + b := by
  rcases hb.lt_or_eq with hFinite | rfl
  · obtain ⟨m, s, hCanonical, rfl⟩ := exists_canonical hFinite
    have hSmall : s * 2 ^ 52 + m < 2 ^ 63 := by
      rw [infinityBits_eq] at hb
      omega
    have hBits := toNat_magnitude negative hSmall
    have hPack := toNat_pack_unpacked negative hCanonical.mantissa_lt hCanonical.normal
    rw [min_eq_left hFinite.le, ← unpack_of_bits hCanonical hBits] at hPack
    exact hPack
  · exact toBits_infinity negative

theorem shape_ofMagnitude (negative : Bool) {m s : Nat} (hCanonical : Canonical m s) :
    shape (ofMagnitude negative (s * 2 ^ 52 + m)) = .finite negative m s :=
  shape_of_bits hCanonical (toBits_ofMagnitude negative hCanonical.lt_infinityBits.le)

/-- A finite number is made of its shape. -/
theorem eq_ofMagnitude_of_shape {f : Float} {negative : Bool} {m s : Nat}
    (h : shape f = .finite negative m s) :
    Canonical m s ∧ f = ofMagnitude negative (s * 2 ^ 52 + m) := by
  obtain ⟨hCanonical, hBits⟩ := bits_of_shape h
  have hMade := toBits_ofMagnitude negative hCanonical.lt_infinityBits.le
  exact ⟨hCanonical, toNat_toBits_inj (hBits.trans hMade.symm)⟩

end ScriptValue.Binary64
