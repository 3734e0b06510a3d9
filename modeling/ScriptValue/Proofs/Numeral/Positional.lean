import Mathlib
import ScriptValue.Proofs.Numeral.Decimal

/-!
# Positional texts, read as numerals

The positional text of a decimal is a run of digits, or two of them with a point between. The
reader takes both runs for one number and counts the digits after the point. For a decimal with a
positive exponent the zeros before the point count as digits, so it is another decimal that is
read, but the same quotient.

* `readDecimal?_whole`, `readDecimal?_fraction`: digits without a point and with one.
* `Decimal.text_of_nonneg`, `Decimal.exists_readDecimal?_text`: the positional text of a decimal.
* `readFloatNumeral?_of_isDigit`: numerals that start with a digit, or with a sign and a digit.
-/

namespace ScriptValue.Numeral

/-! ## Digits -/

theorem IsDigits.exists_append_eq_cons {digits : List Char} (h : IsDigits digits)
    (rest : List Char) : ∃ c cs, digits ++ rest = c :: cs ∧ c.isDigit = true := by
  obtain ⟨hSome, hDigits⟩ := h
  cases digits with
  | nil => exact absurd rfl hSome
  | cons c cs => exact ⟨c, cs ++ rest, rfl, hDigits c List.mem_cons_self⟩

theorem noDigitAhead_nil : NoDigitAhead [] := by
  intro c hc
  cases hc

theorem noDigitAhead_point (rest : List Char) : NoDigitAhead ('.' :: rest) := by
  rintro c ⟨⟩
  rfl

/-- Digits without a point are a whole number. -/
theorem readDecimal?_whole {whole : List Char} (hWhole : IsDigits whole) :
    readDecimal? whole = some ⟨Nat.ofDigitChars 10 whole 0, 0⟩ := by
  have hTake := hWhole.takeWhile_append noDigitAhead_nil
  have hDrop := hWhole.dropWhile_append noDigitAhead_nil
  rw [List.append_nil] at hTake hDrop
  unfold readDecimal?
  simp [hTake, hDrop, hWhole.1, readExponent?]

/-- Digits after a point make the number smaller, by one power of ten each. -/
theorem readDecimal?_fraction {whole fraction : List Char} (hWhole : IsDigits whole)
    (hFraction : IsDigits fraction) :
    readDecimal? (whole ++ '.' :: fraction) =
      some ⟨Nat.ofDigitChars 10 (whole ++ fraction) 0, -fraction.length⟩ := by
  have hTake := hFraction.takeWhile_append noDigitAhead_nil
  have hDrop := hFraction.dropWhile_append noDigitAhead_nil
  rw [List.append_nil] at hTake hDrop
  unfold readDecimal?
  simp only [hWhole.takeWhile_append (noDigitAhead_point fraction),
    hWhole.dropWhile_append (noDigitAhead_point fraction)]
  simp [hTake, hDrop, hWhole.1, readExponent?]

/-! ## Positional texts -/

namespace Decimal

theorem text_of_whole {d : Decimal} (h : d.positional.2 = []) : d.text = d.positional.1 := by
  unfold text
  split
  · rename_i hPositional
    rw [hPositional]
  · rename_i hSome hPositional
    rw [hPositional] at h
    exact absurd h hSome

theorem text_of_fraction {d : Decimal} (h : d.positional.2 ≠ []) :
    d.text = d.positional.1 ++ '.' :: d.positional.2 := by
  unfold text
  split
  · rename_i hPositional
    rw [hPositional] at h
    exact absurd rfl h
  · rename_i hPositional
    rw [hPositional]

/-- Without digits after the point, the positional text is a run of digits with the value of the
decimal. -/
theorem text_of_nonneg {d : Decimal} (hd : d.digits ≠ 0) (hExponent : 0 ≤ d.exponent) :
    IsDigits d.text ∧ Nat.ofDigitChars 10 d.text 0 = d.numerator := by
  obtain ⟨hWhole, -, -⟩ := isDigits_positional (Or.inl hd)
  have hPositional := positional_of_nonneg hExponent
  have hNone : d.positional.2 = [] := by rw [hPositional]
  rw [text_of_whole hNone]
  refine ⟨hWhole, ?_⟩
  rw [hPositional, Nat.ofDigitChars_append, Nat.ofDigitChars_ten_toDigits,
    Nat.ofDigitChars_replicate_zero, numerator, Nat.mul_comm]

/-- The positional text of a decimal is read as a decimal with the same quotient. -/
theorem exists_readDecimal?_text {d : Decimal} (hd : d.digits ≠ 0) :
    ∃ e, readDecimal? d.text = some e ∧ e.numerator = d.numerator ∧
      e.denominator = d.denominator := by
  by_cases hExponent : 0 ≤ d.exponent
  · obtain ⟨hText, hDigits⟩ := text_of_nonneg hd hExponent
    have hZero : (-d.exponent).toNat = 0 := by omega
    refine ⟨_, readDecimal?_whole hText, ?_, ?_⟩
    · simp [numerator, hDigits]
    · simp [denominator, hZero]
  · obtain ⟨hWhole, -, hFraction⟩ := isDigits_positional (Or.inl hd)
    obtain ⟨hDigits, hPlaces⟩ := positional_of_neg (not_le.mp hExponent)
    have hSome : d.positional.2 ≠ [] := by
      intro hNone
      rw [hNone, List.length_nil] at hPlaces
      omega
    have hPoint : -(d.positional.2.length : Int) = d.exponent := by omega
    have hRead := readDecimal?_fraction hWhole (hFraction.resolve_left hSome)
    rw [hDigits, hPoint] at hRead
    exact ⟨d, by rw [text_of_fraction hSome, hRead], rfl, rfl⟩

/-- A positional text starts with a digit. -/
theorem exists_text_eq_cons {d : Decimal} (hd : d.digits ≠ 0) :
    ∃ c cs, d.text = c :: cs ∧ c.isDigit = true := by
  obtain ⟨hWhole, -, -⟩ := isDigits_positional (Or.inl hd)
  by_cases hNone : d.positional.2 = []
  · have hCons := hWhole.exists_append_eq_cons []
    rwa [List.append_nil, ← text_of_whole hNone] at hCons
  · rw [text_of_fraction hNone]
    exact hWhole.exists_append_eq_cons _

/-- There are no characters in a positional text but digits and the point. -/
theorem mem_text {d : Decimal} (hd : d.digits ≠ 0) {c : Char} (hc : c ∈ d.text) :
    c.isDigit = true ∨ c = '.' := by
  obtain ⟨hWhole, -, hFraction⟩ := isDigits_positional (Or.inl hd)
  by_cases hNone : d.positional.2 = []
  · rw [text_of_whole hNone] at hc
    exact Or.inl (hWhole.2 c hc)
  · rw [text_of_fraction hNone] at hc
    rcases List.mem_append.mp hc with hc | hc
    · exact Or.inl (hWhole.2 c hc)
    · rcases List.mem_cons.mp hc with rfl | hc
      · exact Or.inr rfl
      · exact Or.inl ((hFraction.resolve_left hNone).2 c hc)

end Decimal

/-! ## Signs and words -/

theorem splitSign_of_isDigit {c : Char} (hDigit : c.isDigit = true) (cs : List Char) :
    splitSign (c :: cs) = (false, c :: cs) := by
  unfold splitSign
  split
  · rename_i h
    cases h
    cases hDigit
  · rename_i h
    cases h
    cases hDigit
  · rfl

theorem toLower_of_isDigit {c : Char} (h : c.isDigit = true) : c.toLower = c := by
  rw [Char.isDigit_iff_toNat] at h
  have hUpper : c.toNat ≤ 57 := h.2
  unfold Char.toLower
  rw [dif_neg]
  rintro ⟨hLetter, -⟩
  have hLower : 65 ≤ c.toNat := hLetter
  omega

/-- A text with a digit after the sign, or at its start, is none of the words and is read as a
decimal. -/
theorem readFloatNumeral?_of_isDigit {s cs : List Char} {c : Char} {negative : Bool}
    (hSign : splitSign s = (negative, c :: cs)) (hDigit : c.isDigit = true) :
    readFloatNumeral? s = (readDecimal? (c :: cs)).map (.finite negative) := by
  have hN : c ≠ 'n' := by
    rintro rfl
    cases hDigit
  have hI : c ≠ 'i' := by
    rintro rfl
    cases hDigit
  unfold readFloatNumeral?
  simp [hSign, toLower_of_isDigit hDigit, hN, hI]

end ScriptValue.Numeral
