import Mathlib
import ScriptValue.Proofs.Binary64.Shortest
import ScriptValue.Proofs.Json.Number
import ScriptValue.Proofs.Json.Scaling

/-!
# Finite numbers in floating point, written and read

What is written for a number has the digits of its shortest decimal, and is JSON. What is read from
it is the number again if the decimal is short, and one that is at most five steps away otherwise.

* `significand_ofDecimal`, `wellFormed_ofDecimal`: decimals as numbers of JSON.
* `float?_of_isShort`: short numbers are read back.
* `exists_float?_isNear`: all finite numbers are read as finite numbers near them.
-/

namespace ScriptValue.Json.Number

open Binary64 (Canonical IsNear nearest shape infinityBits infinityBits_eq signBits shortest
  ofMagnitude)
open Numeral (Decimal)

/-! ## Decimals as numbers -/

theorem exponentValue_order (order : Int) :
    exponentValue (some ⟨order < 0, Nat.toDigits 10 order.natAbs⟩) = order := by
  unfold exponentValue
  simp only [Nat.ofDigitChars_ten_toDigits, decide_eq_true_eq]
  split <;> omega

theorem getD_fraction (digits : List Char) :
    (if digits = [] then none else some digits).getD [] = digits := by
  split
  · rename_i hNone
    exact hNone.symm
  · rfl

/-- The digits of a whole number, with the zeros of its exponent and one more after the point. -/
theorem significand_whole (negative : Bool) (digits n : Nat) :
    significand ⟨negative, Nat.toDigits 10 digits ++ List.replicate n '0', some ['0'], none⟩ =
      digits * 10 ^ (n + 1) := by
  change Nat.ofDigitChars 10 (_ ++ List.replicate 1 '0') 0 = _
  rw [Nat.ofDigitChars_append, Nat.ofDigitChars_append, Nat.ofDigitChars_ten_toDigits,
    Nat.ofDigitChars_replicate_zero, Nat.ofDigitChars_replicate_zero]
  ring

/-- The digits of a decimal are written as they are, but for a zero after the point of a whole
number, which has 17 digits at the most then. -/
theorem significand_ofDecimal (negative : Bool) (d : Decimal) :
    ((ofDecimal negative d).significand = d.digits ∧ (ofDecimal negative d).scale = d.exponent) ∨
      (0 ≤ d.exponent ∧ (ofDecimal negative d).scale = -1 ∧
        (ofDecimal negative d).significand = d.digits * 10 ^ (d.exponent.toNat + 1) ∧
        (ofDecimal negative d).significand < 10 ^ 17) := by
  have hLength := @Nat.length_toDigits_pos 10 d.digits
  unfold ofDecimal
  dsimp only
  split
  · rename_i hOrder
    by_cases hExponent : 0 ≤ d.exponent
    · right
      rw [Decimal.positional_of_nonneg hExponent]
      have hSignificand := significand_whole negative d.digits d.exponent.toNat
      refine ⟨hExponent, rfl, hSignificand, hSignificand.trans_lt ?_⟩
      calc d.digits * 10 ^ (d.exponent.toNat + 1)
          < 10 ^ (Nat.toDigits 10 d.digits).length * 10 ^ (d.exponent.toNat + 1) :=
            Nat.mul_lt_mul_of_pos_right (Numeral.lt_pow_length_toDigits _)
              (Nat.pow_pos (by decide))
        _ = 10 ^ ((Nat.toDigits 10 d.digits).length + (d.exponent.toNat + 1)) :=
            (Nat.pow_add _ _ _).symm
        _ ≤ 10 ^ 17 := Nat.pow_le_pow_right (by decide) (by omega)
    · left
      obtain ⟨hDigits, hPlaces⟩ := Decimal.positional_of_neg (by omega : d.exponent < 0)
      have hFraction : d.positional.2 ≠ [] := by
        intro hNone
        rw [hNone, List.length_nil] at hPlaces
        omega
      unfold significand scale
      dsimp only
      rw [if_neg hFraction, Option.getD_some]
      refine ⟨hDigits, ?_⟩
      rw [hPlaces]
      simp only [exponentValue]
      omega
  · left
    unfold significand scale
    dsimp only
    rw [exponentValue_order, getD_fraction]
    constructor
    · rw [List.take_append_drop, Nat.ofDigitChars_ten_toDigits]
    · rw [List.length_drop]
      omega

/-- The number that is written for a decimal denotes the decimal. -/
theorem ofDecimal_written (negative : Bool) (d : Decimal) :
    Binary64.ofDecimal negative
        ⟨(ofDecimal negative d).significand, (ofDecimal negative d).scale⟩ =
      Binary64.ofDecimal negative d := by
  rcases significand_ofDecimal negative d with
    ⟨hSignificand, hScale⟩ | ⟨hPos, hScale, hSignificand, -⟩
  · rw [hSignificand, hScale]
  · rw [hSignificand, hScale, Binary64.ofDecimal_eq_nearest, Binary64.ofDecimal_eq_nearest]
    unfold nearest
    rw [Binary64.nearestBits_congr (Decimal.denominator_pos _) (Decimal.denominator_pos _)]
    unfold Decimal.numerator Decimal.denominator
    have hNone : (-d.exponent).toNat = 0 := by omega
    dsimp only
    rw [hNone]
    simp only [Int.neg_neg, Int.toNat_one, Int.reduceNeg, Int.reduceToNat]
    ring

/-- What is written for a decimal is a number, if zero has no exponent. -/
theorem wellFormed_ofDecimal (negative : Bool) {d : Decimal}
    (hd : d.digits ≠ 0 ∨ d.exponent = 0) : (ofDecimal negative d).WellFormed := by
  have hLength := @Nat.length_toDigits_pos 10 d.digits
  have hDigits := Numeral.isDigits_toDigits d.digits
  unfold ofDecimal
  dsimp only
  split
  · obtain ⟨hWhole, hZero, hFraction⟩ := Decimal.isDigits_positional hd
    refine ⟨hWhole, hZero, ?_, fun e he => nomatch he⟩
    intro digits hMem
    cases hMem
    split
    · exact Numeral.isDigits_zero
    · rename_i hSome
      exact hFraction.resolve_left hSome
  · obtain ⟨c, cs, hCons⟩ := List.exists_cons_of_ne_nil hDigits.1
    have hTake : List.take 1 (Nat.toDigits 10 d.digits) = [c] := by rw [hCons]; rfl
    refine ⟨?_, ?_, ?_, ?_⟩
    · refine hDigits.of_subset ?_ fun c hc => List.mem_of_mem_take hc
      dsimp only
      rw [hTake]
      exact List.cons_ne_nil _ _
    · dsimp only
      rw [hTake]
      intro hHead
      cases hHead
      rfl
    · intro digits hMem
      dsimp only at hMem
      split at hMem
      · cases hMem
      · rename_i hSome
        cases hMem
        exact hDigits.of_subset hSome fun c hc => List.mem_of_mem_drop hc
    · intro e hMem
      cases hMem
      exact Numeral.isDigits_toDigits _

theorem negative_ofDecimal (negative : Bool) (d : Decimal) :
    (ofDecimal negative d).negative = negative := by
  unfold ofDecimal
  dsimp only
  split <;> rfl

/-! ## What is written -/

/-- What is written for a finite number is made of a decimal that is nearest to it. -/
theorem exists_decimal_of_ofFloat? {f : Float} {n : Number} (h : ofFloat? f = some n) :
    ∃ negative m s d, shape f = .finite negative m s ∧ n = ofDecimal negative d ∧
      Binary64.ofDecimal negative d = f ∧ (d.digits = 0 → d.exponent = 0) ∧
      d.digits ≤ 10 ^ 17 ∧ -349 ≤ d.exponent ∧ d.exponent ≤ 308 ∧
      (m ≠ 0 → d = shortest .even m s) := by
  unfold ofFloat? at h
  split at h
  · rename_i negative m s hShape
    cases h
    obtain ⟨hCanonical, hMade⟩ := Binary64.eq_ofMagnitude_of_shape hShape
    refine ⟨negative, m, s, _, hShape, rfl, ?_⟩
    by_cases hm : m = 0
    · subst hm
      obtain rfl : s = 0 := hCanonical.normal.resolve_right (by decide)
      rw [if_pos rfl]
      exact ⟨hMade.symm, fun _ => rfl, by decide, by decide, by decide, fun h => absurd rfl h⟩
    · have hWithin := Binary64.isWithin_shortest (s := s) hm .even
      have hDigits := Binary64.shortest_digits_le (s := s) hCanonical.mantissa_lt hm .even
      rw [if_neg hm]
      exact ⟨Binary64.ofDecimal_shortest hShape hm .even,
        fun hZero => absurd hZero (hWithin.digits_ne_zero hm), hDigits,
        hWithin.le_exponent hm hDigits, hWithin.exponent_le hm hCanonical, fun _ => rfl⟩
  · cases h

theorem wellFormed_of_ofFloat? {f : Float} {n : Number} (h : ofFloat? f = some n) :
    n.WellFormed := by
  obtain ⟨negative, m, s, d, -, rfl, -, hZero, -⟩ := exists_decimal_of_ofFloat? h
  apply wellFormed_ofDecimal
  tauto

/-! ## What is read -/

/-- A number whose digits have 53 bits and whose power of ten is exact. -/
def IsShort (n : Number) : Prop :=
  n.significand < 2 ^ 53 ∧ n.scale.natAbs ≤ 22

/-- A finite number that is written as a short number is read back. -/
theorem float?_of_isShort {f : Float} {n : Number} (h : ofFloat? f = some n) (hShort : n.IsShort) :
    n.float? = some f := by
  obtain ⟨negative, m, s, d, -, rfl, hNearest, -⟩ := exists_decimal_of_ofFloat? h
  rw [float?_of_short hShort.1 hShort.2, negative_ofDecimal, ofDecimal_written, hNearest]

/-- The five greatest numbers, which are read without an overflow. -/
theorem exists_float?_greatest : ∀ k < 5, ∀ negative,
    ∃ g ∈ (ofDecimal negative (shortest .even (2 ^ 53 - 1 - k) 2045)).float?,
      g.isFinite = true ∧
        signBits negative + (infinityBits - 1 - k) ≤ g.toBits.toNat + 5 ∧
        g.toBits.toNat ≤ signBits negative + (infinityBits - 1 - k) + 5 := by
  decide +kernel

/-- What is written for a decimal of 17 digits stays in the range of one or two scalings. -/
theorem range_ofDecimal (negative : Bool) {d : Decimal} (hPos : d.digits ≠ 0)
    (hDigits : d.digits ≤ 10 ^ 17) (hLow : -349 ≤ d.exponent) (hHigh : d.exponent ≤ 308) :
    0 < (ofDecimal negative d).significand ∧ (ofDecimal negative d).significand < 2 ^ 64 ∧
      -616 ≤ (ofDecimal negative d).scale ∧ (ofDecimal negative d).scale ≤ 308 := by
  rcases significand_ofDecimal negative d with ⟨hSame, hScale⟩ | ⟨-, hScale, hSame, hLess⟩
  · omega
  · have hPower : 0 < 10 ^ (d.exponent.toNat + 1) := Nat.pow_pos (by decide)
    have hProduct := Nat.mul_pos (Nat.pos_of_ne_zero hPos) hPower
    omega

theorem isShort_ofDecimal_zero (negative : Bool) {d : Decimal} (hDigits : d.digits = 0)
    (hExponent : d.exponent = 0) : (ofDecimal negative d).IsShort := by
  have hWritten := significand_ofDecimal negative d
  rw [hDigits, Nat.zero_mul] at hWritten
  unfold IsShort
  omega

/-- What is written for a finite number is read as a finite number near it. -/
theorem exists_float?_isNear {f : Float} {n : Number} (h : ofFloat? f = some n) :
    ∃ g, n.float? = some g ∧ g.isFinite = true ∧ IsNear f g := by
  obtain ⟨negative, m, s, d, hShape, rfl, hNearest, hZero, hDigits, hLow, hHigh, hShortest⟩ :=
    exists_decimal_of_ofFloat? h
  obtain ⟨hCanonical, hMade⟩ := Binary64.eq_ofMagnitude_of_shape hShape
  by_cases hNone : d.digits = 0
  · have hShort := isShort_ofDecimal_zero negative hNone (hZero hNone)
    exact ⟨f, float?_of_isShort h hShort, Binary64.isFinite_of_shape hShape, IsNear.refl f⟩
  have hBelow := hCanonical.lt_infinityBits
  by_cases hGreat : s * 2 ^ 52 + m + 5 < infinityBits
  · obtain ⟨hPos, hRoom, hLeast, hMost⟩ := range_ofDecimal negative hNone hDigits hLow hHigh
    have hDecimal : Binary64.ofDecimal (ofDecimal negative d).negative
        ⟨(ofDecimal negative d).significand, (ofDecimal negative d).scale⟩ =
          ofMagnitude (ofDecimal negative d).negative (s * 2 ^ 52 + m) := by
      rw [negative_ofDecimal, ofDecimal_written, hNearest, hMade]
    obtain ⟨b, hUpper, hLower, hResult⟩ :=
      exists_float?_near hPos hRoom hLeast hMost hDecimal hGreat
    rw [negative_ofDecimal] at hResult
    obtain ⟨m', s', hCanonical', hSame⟩ := Binary64.exists_canonical (b := b) (by omega)
    refine ⟨_, hResult, ?_, ?_⟩
    · rw [hSame]
      exact Binary64.isFinite_of_shape (Binary64.shape_ofMagnitude negative hCanonical')
    · rw [hMade]
      exact Binary64.isNear_ofMagnitude negative hBelow.le (by omega) hLower hUpper
  · -- five steps may lead beyond the greatest number, but they do not
    rw [infinityBits_eq] at hGreat
    obtain ⟨hUpper, hShift, -⟩ := hCanonical
    obtain rfl : s = 2045 := by omega
    have hk : m = 2 ^ 53 - 1 - (2 ^ 53 - 1 - m) := by omega
    have hFinite := exists_float?_greatest (2 ^ 53 - 1 - m) (by omega) negative
    rw [← hk, ← hShortest (by omega)] at hFinite
    obtain ⟨g, hRead, hFinite, hLow, hHigh⟩ := hFinite
    have hBits : f.toBits.toNat = signBits negative + (infinityBits - 1 - (2 ^ 53 - 1 - m)) := by
      rw [(Binary64.bits_of_shape hShape).2, infinityBits_eq]
      omega
    exact ⟨g, hRead, hFinite, by omega, by omega⟩

end ScriptValue.Json.Number
