import Mathlib
import ScriptValue.Proofs.Binary64.Error
import ScriptValue.Proofs.Numeral.Integer

/-!
# The nearest number is nearest

Rounding is one division, after a shift that depends on the size of the quotient. What comes out
can be said without the shift: no number of the format is nearer, and if another one is as near,
the mantissa is even. The multiples of a step are what the division compares; the numbers below
the least mantissa lie closer together, but the least mantissa itself is nearer than all of them.

* `units?`: a finite number in units, with its sign.
* `IsNearest`: nearest to a number of units, ties to even.
* `isNearest_nearest`: rounding gives the nearest number.
* `IsNearest.units_le`: so rounding is monotone.
-/

namespace ScriptValue.Binary64

open Numeral (signed)

/-! ## Units -/

/-- What a finite number is in units. Both zeros are zero units. -/
def units? (f : Float) : Option Int :=
  match shape f with
  | .finite negative m s => some (signed negative (m * 2 ^ s))
  | _ => none

theorem units?_eq_some_iff {f : Float} {u : Int} :
    units? f = some u ↔
      ∃ negative m s, shape f = .finite negative m s ∧ signed negative (m * 2 ^ s) = u := by
  unfold units?
  cases shape f <;> simp

theorem units?_of_shape {f : Float} {negative : Bool} {m s : Nat}
    (h : shape f = .finite negative m s) : units? f = some (signed negative (m * 2 ^ s)) :=
  units?_eq_some_iff.mpr ⟨negative, m, s, h, rfl⟩

/-- `f` is `u` units, and of all finite numbers it is nearest to `x` units. Where two of them are
equally near it is the one with an even mantissa, which is the end of its bits. -/
structure IsNearest (f : Float) (u x : Int) : Prop where
  units : units? f = some u
  nearest : ∀ {g : Float} {v : Int}, units? g = some v → (u - x).natAbs ≤ (v - x).natAbs
  even : ∀ {g : Float} {v : Int}, units? g = some v → (u - x).natAbs = (v - x).natAbs →
    u = v ∨ f.toBits.toNat % 2 = 0

/-! ## Multiples of a step -/

/-- No multiple of a step is nearer than the rounded one, and an odd one is nearer than all
others. -/
theorem natAbs_roundHalfEven_sub_le {n d : Nat} (hd : 0 < d) (q : Nat) :
    ((roundHalfEven n d * d : Nat) - n : Int).natAbs ≤ ((q * d : Nat) - n : Int).natAbs ∧
      (((roundHalfEven n d * d : Nat) - n : Int).natAbs = ((q * d : Nat) - n : Int).natAbs →
        roundHalfEven n d = q ∨ roundHalfEven n d % 2 = 0) := by
  obtain ⟨hLow, hHigh⟩ := roundHalfEven_spec (n := n) hd
  have hTie := roundHalfEven_tie (n := n) hd
  generalize roundHalfEven n d = r at *
  rcases Nat.lt_trichotomy r q with hLess | rfl | hGreater
  · have hStep : (r + 1) * d ≤ q * d := Nat.mul_le_mul_right d hLess
    rw [Nat.add_one_mul] at hStep
    omega
  · exact ⟨le_rfl, fun _ => Or.inl rfl⟩
  · have hStep : (q + 1) * d ≤ r * d := Nat.mul_le_mul_right d hGreater
    rw [Nat.add_one_mul] at hStep
    omega

/-- The numbers with a smaller shift are below the least mantissa. -/
theorem Canonical.mul_two_pow_lt {m s t : Nat} (h : Canonical m s) (hShift : s < t) :
    m * 2 ^ s < 2 ^ 52 * 2 ^ t := by
  calc m * 2 ^ s < 2 ^ 53 * 2 ^ s := Nat.mul_lt_mul_of_pos_right h.mantissa_lt (Nat.two_pow_pos s)
    _ = 2 ^ 52 * 2 ^ (s + 1) := by ring
    _ ≤ 2 ^ 52 * 2 ^ t := Nat.mul_le_mul_left _ (Nat.pow_le_pow_right (by decide) hShift)

/-- Of all magnitudes, rounding finds the nearest. -/
theorem exists_nearest_magnitude {n : Nat} (hFinite : nearestBits n 1 < infinityBits) :
    ∃ m s, Canonical m s ∧ nearestBits n 1 = s * 2 ^ 52 + m ∧ ∀ {m' s'}, Canonical m' s' →
      ((m * 2 ^ s : Nat) - n : Int).natAbs ≤ ((m' * 2 ^ s' : Nat) - n : Int).natAbs ∧
        (((m * 2 ^ s : Nat) - n : Int).natAbs = ((m' * 2 ^ s' : Nat) - n : Int).natAbs →
          m * 2 ^ s = m' * 2 ^ s' ∨ m % 2 = 0) := by
  obtain ⟨t, hLow, hHigh⟩ := exists_shift n Nat.one_pos
  obtain ⟨hNormal, hUpper⟩ := roundHalfEven_bounds Nat.one_pos hLow hHigh
  have hBits := nearestBits_eq Nat.one_pos hLow hHigh
  rw [Nat.one_mul] at hNormal hUpper hBits
  have hBelow : t * 2 ^ 52 + roundHalfEven n (2 ^ t) < infinityBits := by omega
  obtain ⟨m, s, hCanonical, hSame, hValue⟩ := exists_canonical_carry hUpper hNormal hBelow
  refine ⟨m, s, hCanonical, by rw [hBits, min_eq_left hBelow.le, hSame], ?_⟩
  intro m' s' hOther
  rw [hValue]
  have hStep := Nat.two_pow_pos t
  by_cases hShift : t ≤ s'
  · have hMultiple : m' * 2 ^ s' = m' * 2 ^ (s' - t) * 2 ^ t := by
      rw [Nat.mul_assoc, ← Nat.pow_add, Nat.sub_add_cancel hShift]
    obtain ⟨hNear, hTie⟩ := natAbs_roundHalfEven_sub_le (n := n) hStep (m' * 2 ^ (s' - t))
    rw [hMultiple]
    refine ⟨hNear, fun hEqual => (hTie hEqual).imp (fun h => by rw [h]) fun h => ?_⟩
    omega
  · -- the other number is below the least mantissa, which is a multiple of the step
    obtain ⟨hNear, -⟩ := natAbs_roundHalfEven_sub_le (n := n) hStep (2 ^ 52)
    have hLess := hOther.mul_two_pow_lt (Nat.lt_of_not_le hShift)
    have hLeast := hLow.resolve_left (by omega)
    rw [two_pow_add_mul, Nat.one_mul] at hLeast
    omega

/-! ## Rounding -/

/-- Rounding a number of units gives the number nearest to it. Numbers of the other sign are no
nearer, since zero lies between. -/
theorem isNearest_nearest {n : Nat} (hFinite : nearestBits n 1 < infinityBits) (negative : Bool) :
    ∃ u, IsNearest (nearest negative n 1) u (signed negative n) := by
  obtain ⟨m, s, hCanonical, hBits, hMagnitude⟩ := exists_nearest_magnitude hFinite
  have hZero : Canonical 0 0 := ⟨by decide, by decide, Or.inl rfl⟩
  have hShape : shape (nearest negative n 1) = .finite negative m s := by
    rw [nearest, hBits, shape_ofMagnitude negative hCanonical]
  have hParity : (nearest negative n 1).toBits.toNat % 2 = m % 2 := by
    have hSign := signBits_eq negative
    rw [toBits_nearest, hBits]
    omega
  have hAll : ∀ {g : Float} {v : Int}, units? g = some v →
      (signed negative (m * 2 ^ s) - signed negative n).natAbs ≤ (v - signed negative n).natAbs ∧
        ((signed negative (m * 2 ^ s) - signed negative n).natAbs =
            (v - signed negative n).natAbs →
          signed negative (m * 2 ^ s) = v ∨ (nearest negative n 1).toBits.toNat % 2 = 0) := by
    intro g v hg
    obtain ⟨negative', m', s', hOther, rfl⟩ := units?_eq_some_iff.mp hg
    have hSame := hMagnitude (bits_of_shape hOther).1
    have hNone := hMagnitude hZero
    rw [hParity]
    unfold signed
    cases negative <;> cases negative' <;> simp only [if_true, Bool.false_eq_true, if_false] <;>
      omega
  exact ⟨_, units?_of_shape hShape, fun hg => (hAll hg).1, fun hg => (hAll hg).2⟩

/-! ## Order -/

/-- Numbers that are nearest to greater numbers are not less. -/
theorem IsNearest.units_le {f g : Float} {u v x y : Int} (hf : IsNearest f u x)
    (hg : IsNearest g v y) (h : x < y) : u ≤ v := by
  have hLeft := hf.nearest hg.units
  have hRight := hg.nearest hf.units
  omega

end ScriptValue.Binary64
