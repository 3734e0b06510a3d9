import Mathlib
import ScriptValue.Numeral.Decimal
import ScriptValue.Proofs.Numeral.Digits

/-!
# Decimals, their digits and their values

A decimal is a quotient of two natural numbers, of which one is a power of ten or the other a
multiple of one. Its positional text has the digits of the decimal in their order, with zeros at
one end where the point lies beyond them.

* `Decimal.positional_of_nonneg`, `Decimal.positional_of_neg`: the digits and the point.
* `Decimal.isDigits_positional`: the text starts with no needless zero.
-/

namespace ScriptValue.Numeral

/-! ## Runs of digits -/

theorem IsDigits.of_subset {s t : List Char} (h : IsDigits t) (hSome : s ≠ [])
    (hSubset : ∀ c ∈ s, c ∈ t) : IsDigits s :=
  ⟨hSome, fun c hc => h.2 c (hSubset c hc)⟩

theorem isDigits_zero : IsDigits ['0'] :=
  isDigits_toDigits 0

theorem isDigits_append_zeros {s : List Char} (h : IsDigits s) (k : Nat) :
    IsDigits (s ++ List.replicate k '0') ∧ IsDigits (List.replicate k '0' ++ s) := by
  have hZero : ∀ c ∈ List.replicate k '0', c.isDigit = true := by
    intro c hc
    rw [List.eq_of_mem_replicate hc]
    rfl
  refine ⟨⟨List.append_ne_nil_of_left_ne_nil h.1 _, ?_⟩,
    ⟨List.append_ne_nil_of_right_ne_nil _ h.1, ?_⟩⟩
  · intro c hc
    exact (List.mem_append.mp hc).elim (h.2 c) (hZero c)
  · intro c hc
    exact (List.mem_append.mp hc).elim (hZero c) (h.2 c)

theorem eq_zero_of_head?_toDigits {n : Nat} (h : (Nat.toDigits 10 n).head? = some '0') : n = 0 := by
  by_contra hn
  exact head?_toDigits_ne_zero hn h

/-! ## Length of numbers -/

/-- A number is less than the power of ten of its number of digits. -/
theorem lt_pow_length_toDigits (n : Nat) : n < 10 ^ (Nat.toDigits 10 n).length :=
  (Nat.length_toDigits_le_iff (by decide) Nat.length_toDigits_pos).mp le_rfl

theorem pow_le_of_lt_length_toDigits {n k : Nat} (hn : n ≠ 0) (h : k < (Nat.toDigits 10 n).length) :
    10 ^ k ≤ n := by
  by_cases hk : k = 0
  · subst hk
    exact Nat.one_le_iff_ne_zero.mpr hn
  · by_contra hSmall
    have hLength := (Nat.length_toDigits_le_iff (by decide) (Nat.pos_of_ne_zero hk)).mpr
      (Nat.lt_of_not_le hSmall)
    omega

namespace Decimal

/-! ## Decimals as quotients -/

def numerator (d : Decimal) : Nat :=
  d.digits * 10 ^ d.exponent.toNat

def denominator (d : Decimal) : Nat :=
  10 ^ (-d.exponent).toNat

theorem denominator_pos (d : Decimal) : 0 < d.denominator :=
  Nat.pow_pos (by decide)

/-! ## Positional text -/

theorem positional_of_nonneg {d : Decimal} (h : 0 ≤ d.exponent) :
    d.positional = (Nat.toDigits 10 d.digits ++ List.replicate d.exponent.toNat '0', []) := by
  unfold positional
  exact if_pos h

/-- With a negative exponent, as many digits stand after the point as the exponent says. -/
theorem positional_of_neg {d : Decimal} (h : d.exponent < 0) :
    Nat.ofDigitChars 10 (d.positional.1 ++ d.positional.2) 0 = d.digits ∧
      d.positional.2.length = d.exponent.natAbs := by
  unfold positional
  dsimp only
  rw [if_neg (by omega)]
  split
  · constructor
    · rw [List.take_append_drop, Nat.ofDigitChars_ten_toDigits]
    · rw [List.length_drop]
      omega
  · constructor
    · rw [Nat.ofDigitChars_append, Nat.ofDigitChars_append, Nat.ofDigitChars_replicate_zero]
      exact Nat.ofDigitChars_ten_toDigits
    · rw [List.length_append, List.length_replicate]
      omega

/-- The positional text of a decimal starts with no needless zero. -/
theorem isDigits_positional {d : Decimal} (hd : d.digits ≠ 0 ∨ d.exponent = 0) :
    IsDigits d.positional.1 ∧ (d.positional.1.head? = some '0' → d.positional.1 = ['0']) ∧
      (d.positional.2 = [] ∨ IsDigits d.positional.2) := by
  have hDigits := isDigits_toDigits d.digits
  by_cases hExponent : 0 ≤ d.exponent
  · rw [positional_of_nonneg hExponent]
    refine ⟨(isDigits_append_zeros hDigits _).1, ?_, Or.inl rfl⟩
    intro hHead
    dsimp only at hHead ⊢
    rw [List.head?_append_of_ne_nil _ hDigits.1] at hHead
    have hZero := eq_zero_of_head?_toDigits hHead
    rw [toDigits_of_head?_zero hHead, hd.resolve_left (not_not_intro hZero)]
    rfl
  · unfold positional
    dsimp only
    rw [if_neg hExponent]
    have hNonzero := hd.resolve_right (by omega)
    split
    · rename_i hPlaces
      have hTake : List.take ((Nat.toDigits 10 d.digits).length - d.exponent.natAbs)
          (Nat.toDigits 10 d.digits) ≠ [] := by
        rw [ne_eq, List.take_eq_nil_iff]
        exact not_or.mpr ⟨by omega, hDigits.1⟩
      have hDrop : List.drop ((Nat.toDigits 10 d.digits).length - d.exponent.natAbs)
          (Nat.toDigits 10 d.digits) ≠ [] := by
        rw [ne_eq, List.drop_eq_nil_iff]
        omega
      refine ⟨hDigits.of_subset hTake fun c hc => List.mem_of_mem_take hc, ?_,
        Or.inr (hDigits.of_subset hDrop fun c hc => List.mem_of_mem_drop hc)⟩
      intro hHead
      rw [List.head?_take, if_neg (by omega)] at hHead
      exact absurd (eq_zero_of_head?_toDigits hHead) hNonzero
    · refine ⟨isDigits_zero, fun _ => rfl, Or.inr (isDigits_append_zeros hDigits _).2⟩

end Decimal

end ScriptValue.Numeral
