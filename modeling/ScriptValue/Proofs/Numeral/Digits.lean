import ScriptValue.Numeral.Integer

/-!
# Runs of digits

Scanning takes a run of digits off a text exactly if the rest of the text does not go on with a
digit. The digits of a natural number are such a run, with no leading zero unless it is zero.
-/

namespace ScriptValue.Numeral

/-- One or more digits. -/
def IsDigits (s : List Char) : Prop :=
  s ≠ [] ∧ ∀ c ∈ s, c.isDigit = true

/-- A text that does not start with a digit. -/
def NoDigitAhead (s : List Char) : Prop :=
  ∀ c ∈ s.head?, c.isDigit = false

theorem NoDigitAhead.takeWhile_eq {s : List Char} (h : NoDigitAhead s) :
    s.takeWhile Char.isDigit = [] := by
  cases s with
  | nil => rfl
  | cons c cs => simp [h c rfl]

theorem NoDigitAhead.dropWhile_eq {s : List Char} (h : NoDigitAhead s) :
    s.dropWhile Char.isDigit = s := by
  cases s with
  | nil => rfl
  | cons c cs => simp [h c rfl]

theorem IsDigits.takeWhile_append {digits rest : List Char} (h : IsDigits digits)
    (hRest : NoDigitAhead rest) : (digits ++ rest).takeWhile Char.isDigit = digits := by
  rw [List.takeWhile_append_of_pos h.2, hRest.takeWhile_eq, List.append_nil]

theorem IsDigits.dropWhile_append {digits rest : List Char} (h : IsDigits digits)
    (hRest : NoDigitAhead rest) : (digits ++ rest).dropWhile Char.isDigit = rest := by
  rw [List.dropWhile_append_of_pos h.2, hRest.dropWhile_eq]

/-! ## Digits of numbers -/

theorem isDigits_toDigits (n : Nat) : IsDigits (Nat.toDigits 10 n) :=
  ⟨Nat.toDigits_ne_nil, fun _ hc => Nat.isDigit_of_mem_toDigits (by omega) (by omega) hc⟩

theorem head?_toDigits_ne_zero {n : Nat} (h : n ≠ 0) :
    (Nat.toDigits 10 n).head? ≠ some '0' := by
  induction n using Nat.strongRecOn with
  | _ n ih =>
    by_cases hSmall : n < 10
    · have hDigit : ∀ m < 10, m ≠ 0 → m.digitChar ≠ '0' := by decide
      simpa [Nat.toDigits_of_lt_base hSmall] using hDigit n hSmall h
    · have hHead := ih (n / 10) (by omega) (by omega)
      rw [Nat.toDigits_of_base_le (by omega) (by omega)]
      cases hDigits : Nat.toDigits 10 (n / 10) with
      | nil => exact absurd hDigits Nat.toDigits_ne_nil
      | cons c cs =>
        rw [hDigits] at hHead
        exact hHead

/-- The only number whose digits start with zero is zero. -/
theorem toDigits_of_head?_zero {n : Nat} (h : (Nat.toDigits 10 n).head? = some '0') :
    Nat.toDigits 10 n = ['0'] := by
  by_cases hZero : n = 0
  · subst hZero
    rfl
  · exact absurd h (head?_toDigits_ne_zero hZero)

/-- More digits never make a number smaller. -/
theorem le_ofDigitChars (digits : List Char) (start : Nat) :
    start ≤ Nat.ofDigitChars 10 digits start := by
  induction digits generalizing start with
  | nil => exact Nat.le_refl start
  | cons c cs ih =>
    have hRest := ih (10 * start + (c.toNat - '0'.toNat))
    rw [Nat.ofDigitChars_cons]
    omega

end ScriptValue.Numeral
