import Mathlib
import ScriptValue.Proofs.Binary64.Nearest

/-!
# Whole numbers in floating point

The integers up to 2^53 are numbers of the format, and so are their products with powers of two.
From 2^52 on, all numbers of the format are whole. So the number nearest to an integer is whole,
and how far off it is can be told from the whole numbers around the integer: how the rounding goes
is not looked at again.

* `IsWhole`: the integer that a number in floating point is.
* `exists_isWhole`, `exists_isWhole_of_le`: which integers, and which numbers.
* `truncate_of_isWhole`: the integer part of a whole number.
* `exists_nearest_whole`: the number nearest to an integer.
-/

namespace ScriptValue.Binary64

open Numeral (signed natAbs_signed signed_mul signed_natAbs)

/-! ## Whole numbers -/

/-- `f` is the whole number `i`. Both zeros are the whole number zero. -/
def IsWhole (f : Float) (i : Int) : Prop :=
  units? f = some (i * unitsPerOne)

theorem mul_unitsPerOne_inj {i j : Int} (h : i * unitsPerOne = j * unitsPerOne) : i = j :=
  Int.eq_of_mul_eq_mul_right (Int.natCast_ne_zero.mpr unitsPerOne_pos.ne') h

theorem IsWhole.unique {f : Float} {i j : Int} (hi : IsWhole f i) (hj : IsWhole f j) : i = j :=
  mul_unitsPerOne_inj (Option.some_inj.mp (hi.symm.trans hj))

theorem isWhole_iff {f : Float} {i : Int} :
    IsWhole f i ↔ ∃ negative m s a, shape f = .finite negative m s ∧ m * 2 ^ s = a * unitsPerOne ∧
      signed negative a = i := by
  constructor
  · intro h
    obtain ⟨negative, m, s, hShape, hUnits⟩ := units?_eq_some_iff.mp h
    have hMagnitude : m * 2 ^ s = i.natAbs * unitsPerOne := by
      rw [← natAbs_signed negative (m * 2 ^ s), hUnits, Int.natAbs_mul, Int.natAbs_natCast]
    refine ⟨negative, m, s, i.natAbs, hShape, hMagnitude, ?_⟩
    apply mul_unitsPerOne_inj
    rw [← signed_mul, ← hMagnitude, hUnits]
  · rintro ⟨negative, m, s, a, hShape, hUnits, rfl⟩
    rw [IsWhole, units?_of_shape hShape, hUnits, signed_mul]

/-- The integer part of a whole number is this number, or the end of the range before it. -/
theorem truncate_of_isWhole {f : Float} {i : Int} (h : IsWhole f i) :
    truncate f = Int64.ofIntClamp i := by
  obtain ⟨negative, m, s, a, hShape, hUnits, rfl⟩ := isWhole_iff.mp h
  unfold truncate signed
  rw [hShape]
  dsimp only
  rw [Nat.pow_eq, hUnits, Nat.mul_div_cancel a unitsPerOne_pos]

/-! ## Which numbers are whole -/

theorem exists_canonical_whole {a k : Nat} (ha : a ≤ 2 ^ 53) (hk : k ≤ 970) :
    ∃ m s, Canonical m s ∧ m * 2 ^ s = a * 2 ^ k * unitsPerOne := by
  have hUnits (b j : Nat) : b * 2 ^ (j + 1074) = b * 2 ^ j * unitsPerOne := by
    rw [unitsPerOne_eq, Nat.mul_assoc, ← Nat.pow_add]
  rcases ha.lt_or_eq with hLess | rfl
  · obtain ⟨m, s, hCanonical, hValue⟩ := exists_canonical_eq hLess (by omega : k + 1074 ≤ 2045)
    exact ⟨m, s, hCanonical, hValue.trans (hUnits a k)⟩
  · obtain ⟨m, s, hCanonical, hValue⟩ :=
      exists_canonical_eq (by decide : 2 ^ 52 < 2 ^ 53) (by omega : k + 1 + 1074 ≤ 2045)
    refine ⟨m, s, hCanonical, hValue.trans ?_⟩
    rw [hUnits, Nat.pow_succ 2 k]
    ring

/-- The integers up to 2^53, also times a power of two that is not too large, are numbers of the
format. -/
theorem exists_isWhole {i : Int} {k : Nat} (hi : i.natAbs ≤ 2 ^ 53) (hk : k ≤ 970) :
    ∃ f, IsWhole f (i * 2 ^ k) := by
  obtain ⟨m, s, hCanonical, hValue⟩ := exists_canonical_whole hi hk
  refine ⟨_, isWhole_iff.mpr ⟨decide (i < 0), m, s, i.natAbs * 2 ^ k,
    shape_ofMagnitude _ hCanonical, hValue, ?_⟩⟩
  rw [signed_mul, signed_natAbs]
  push_cast
  rfl

/-- From 2^52 on, the numbers of the format are whole. -/
theorem exists_isWhole_of_le {f : Float} {u : Int} (h : units? f = some u)
    (hLarge : 2 ^ 52 * unitsPerOne ≤ u.natAbs) : ∃ i, IsWhole f i := by
  obtain ⟨negative, m, s, hShape, rfl⟩ := units?_eq_some_iff.mp h
  rw [natAbs_signed, unitsPerOne_eq] at hLarge
  have hShift : 1074 ≤ s := by
    by_contra hSmall
    have hBelow := (bits_of_shape hShape).1.mul_two_pow_lt (Nat.lt_of_not_le hSmall)
    omega
  refine ⟨_, isWhole_iff.mpr ⟨negative, m, s, m * 2 ^ (s - 1074), hShape, ?_, rfl⟩⟩
  rw [unitsPerOne_eq, Nat.mul_assoc, ← Nat.pow_add, Nat.sub_add_cancel hShift]

/-! ## The number nearest to an integer -/

/-- No whole number of the format is nearer to an integer than the nearest one. -/
theorem IsNearest.natAbs_sub_le {f g : Float} {i v w : Int}
    (h : IsNearest f (w * unitsPerOne) (i * unitsPerOne)) (hg : IsWhole g v) :
    (w - i).natAbs ≤ (v - i).natAbs := by
  have hUnits := h.nearest hg
  rw [← Int.sub_mul, ← Int.sub_mul, Int.natAbs_mul, Int.natAbs_mul, Int.natAbs_natCast] at hUnits
  exact Nat.le_of_mul_le_mul_right hUnits unitsPerOne_pos

theorem exists_isNearest_ofInteger (i : Int64) :
    ∃ u, IsNearest (ofInteger i) u (i.toInt * unitsPerOne) := by
  have hRange : i.toInt.natAbs ≤ (2 ^ 53 - 1) * 2 ^ 971 * 1 := by
    have hBound : 2 ^ 63 ≤ (2 ^ 53 - 1) * 2 ^ 971 * 1 := by decide +kernel
    have hLow := i.le_toInt
    have hHigh := i.toInt_lt
    omega
  have hFinite := nearestBits_lt_infinityBits Nat.one_pos hRange
  obtain ⟨u, hNearest⟩ := isNearest_nearest hFinite (decide (i.toInt < 0))
  rw [signed_mul, signed_natAbs] at hNearest
  exact ⟨u, hNearest⟩

/-- The number nearest to an integer is whole. -/
theorem exists_nearest_whole (i : Int64) :
    ∃ w, IsWhole (ofInteger i) w ∧
      IsNearest (ofInteger i) (w * unitsPerOne) (i.toInt * unitsPerOne) := by
  obtain ⟨u, hNearest⟩ := exists_isNearest_ofInteger i
  suffices hWhole : ∃ w, IsWhole (ofInteger i) w by
    obtain ⟨w, hWhole⟩ := hWhole
    obtain rfl : u = w * unitsPerOne := Option.some_inj.mp (hNearest.units.symm.trans hWhole)
    exact ⟨w, hWhole, hNearest⟩
  have hPos := unitsPerOne_pos
  by_cases hSmall : i.toInt.natAbs ≤ 2 ^ 53
  · obtain ⟨f, hf⟩ := exists_isWhole (k := 0) hSmall (by decide)
    rw [pow_zero, mul_one] at hf
    have hNear := hNearest.nearest hf
    obtain rfl : u = i.toInt * unitsPerOne := by omega
    exact ⟨i.toInt, hNearest.units⟩
  · -- 2^53 or its opposite lies between zero and the integer, and is not nearer
    apply exists_isWhole_of_le hNearest.units
    rcases Int.lt_or_lt_of_ne (by omega : i.toInt ≠ 0) with hNegative | hPositive
    · obtain ⟨f, hf⟩ := exists_isWhole (i := -2 ^ 53) (k := 0) (by decide) (by decide)
      have hNear := hNearest.nearest hf
      have hBeyond : i.toInt * unitsPerOne ≤ -2 ^ 53 * unitsPerOne :=
        Int.mul_le_mul_of_nonneg_right (by omega) (Int.natCast_nonneg _)
      omega
    · obtain ⟨f, hf⟩ := exists_isWhole (i := 2 ^ 53) (k := 0) (by decide) (by decide)
      have hNear := hNearest.nearest hf
      have hBeyond : 2 ^ 53 * unitsPerOne ≤ i.toInt * unitsPerOne :=
        Int.mul_le_mul_of_nonneg_right (by omega) (Int.natCast_nonneg _)
      omega

end ScriptValue.Binary64
