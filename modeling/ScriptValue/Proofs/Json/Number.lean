import ScriptValue.Json.Number
import ScriptValue.Json.Printer
import ScriptValue.Json.Reader
import ScriptValue.Proofs.Numeral.Digits

/-!
# Numbers of JSON, written and read

A number is read back from its text if its three runs of digits are ones that JSON admits
(`Number.WellFormed`) and the text after it does not go on with a number (`StopsNumber`).

* `readNumber?_numberText`: any such number.
* `Number.integer?_ofInteger`: the numbers that integers are written as.
-/

namespace ScriptValue.Json

open Numeral (IsDigits NoDigitAhead)

/-- A number with digits in all its parts, and with no leading zero. -/
structure Number.WellFormed (n : Number) : Prop where
  whole : IsDigits n.whole
  noLeadingZero : n.whole.head? = some '0' → n.whole = ['0']
  fraction : ∀ digits ∈ n.fraction, IsDigits digits
  exponent : ∀ e ∈ n.exponent, IsDigits e.digits

/-- A text that a number before it does not run into. -/
def StopsNumber (s : List Char) : Prop :=
  ∀ c ∈ s.head?, c.isDigit = false ∧ c ≠ '.' ∧ c ≠ 'e' ∧ c ≠ 'E'

theorem stopsNumber_nil : StopsNumber [] := by
  intro c hc
  cases hc

theorem StopsNumber.noDigitAhead {s : List Char} (h : StopsNumber s) : NoDigitAhead s :=
  fun c hc => (h c hc).1

/-! ## Parts of a number -/

theorem readDigits?_append {digits rest : List Char} (hDigits : IsDigits digits)
    (hRest : NoDigitAhead rest) : readDigits? (digits ++ rest) = some (digits, rest) := by
  unfold readDigits?
  rw [hDigits.takeWhile_append hRest, hDigits.dropWhile_append hRest]
  cases digits with
  | nil => exact absurd rfl hDigits.1
  | cons c cs => rfl

theorem readWhole?_append {digits rest : List Char} (hDigits : IsDigits digits)
    (hZero : digits.head? = some '0' → digits = ['0']) (hRest : NoDigitAhead rest) :
    readWhole? (digits ++ rest) = some (digits, rest) := by
  unfold readWhole?
  rw [readDigits?_append hDigits hRest]
  split
  · rename_i hMatch
    cases hMatch
    cases hZero rfl
  · rfl

theorem readFraction?_append {fraction : Option (List Char)} {rest : List Char}
    (hFraction : ∀ digits ∈ fraction, IsDigits digits) (hRest : NoDigitAhead rest)
    (hPoint : rest.head? ≠ some '.') :
    readFraction? (fractionText fraction ++ rest) = some (fraction, rest) := by
  cases fraction with
  | none =>
    unfold fractionText readFraction?
    split
    · rename_i hMatch
      rw [← List.nil_append rest, hMatch] at hPoint
      exact absurd rfl hPoint
    · rfl
  | some digits =>
    have hDigits := readDigits?_append (hFraction digits rfl) hRest
    simp [fractionText, readFraction?, hDigits]

theorem readExponent?_append {exponent : Option Exponent} {rest : List Char}
    (hExponent : ∀ e ∈ exponent, IsDigits e.digits) (hRest : StopsNumber rest) :
    readExponent? (exponentText exponent ++ rest) = some (exponent, rest) := by
  cases exponent with
  | none =>
    unfold exponentText
    cases rest with
    | nil => rfl
    | cons c cs =>
      obtain ⟨-, -, hLower, hUpper⟩ := hRest c rfl
      simp [readExponent?, hLower, hUpper]
  | some e =>
    have hDigits := readDigits?_append (hExponent e rfl) hRest.noDigitAhead
    rcases e with ⟨negative, digits⟩
    cases negative <;> simp_all [exponentText, readExponent?, splitExponentSign]

/-! ## Numbers -/

theorem head?_exponentText_append (exponent : Option Exponent) {rest : List Char}
    (hRest : StopsNumber rest) :
    ∀ c ∈ (exponentText exponent ++ rest).head?, c.isDigit = false ∧ c ≠ '.' := by
  cases exponent with
  | none => exact fun c hc => ⟨(hRest c hc).1, (hRest c hc).2.1⟩
  | some e =>
    rintro c ⟨⟩
    decide

theorem noDigitAhead_fractionText_append (fraction : Option (List Char)) {rest : List Char}
    (hRest : NoDigitAhead rest) : NoDigitAhead (fractionText fraction ++ rest) := by
  cases fraction with
  | none => exact hRest
  | some digits =>
    rintro c ⟨⟩
    decide

theorem readUnsigned?_append {n : Number} (hn : n.WellFormed) {rest : List Char}
    (hRest : StopsNumber rest) :
    readUnsigned? n.negative
      (n.whole ++ (fractionText n.fraction ++ (exponentText n.exponent ++ rest))) =
        some (n, rest) := by
  have hAhead := head?_exponentText_append n.exponent hRest
  have hNoDigit : NoDigitAhead (exponentText n.exponent ++ rest) := fun c hc => (hAhead c hc).1
  have hNoPoint : (exponentText n.exponent ++ rest).head? ≠ some '.' :=
    fun h => (hAhead '.' h).2 rfl
  have hWhole := readWhole?_append hn.whole hn.noLeadingZero
    (noDigitAhead_fractionText_append n.fraction hNoDigit)
  have hFraction := readFraction?_append hn.fraction hNoDigit hNoPoint
  have hExponent := readExponent?_append hn.exponent hRest
  simp [readUnsigned?, hWhole, hFraction, hExponent]

/-- What is written for a number is read as this number. -/
theorem readNumber?_numberText {n : Number} (hn : n.WellFormed) {rest : List Char}
    (hRest : StopsNumber rest) : readNumber? (numberText n ++ rest) = some (n, rest) := by
  have hUnsigned := readUnsigned?_append hn hRest
  unfold numberText
  simp only [List.append_assoc]
  cases hSign : n.negative with
  | true =>
    rw [hSign] at hUnsigned
    exact hUnsigned
  | false =>
    rw [hSign] at hUnsigned
    obtain ⟨c, cs, hWhole⟩ := List.exists_cons_of_ne_nil hn.whole.1
    have hMinus : c ≠ '-' := by
      rintro rfl
      have hDigit := hn.whole.2 '-' (by rw [hWhole]; exact List.mem_cons_self)
      revert hDigit
      decide
    rw [hWhole] at hUnsigned ⊢
    simpa [readNumber?, hMinus] using hUnsigned

/-! ## Integers -/

theorem Number.wellFormed_ofInteger (i : Int64) : (Number.ofInteger i).WellFormed where
  whole := Numeral.isDigits_toDigits _
  noLeadingZero := Numeral.toDigits_of_head?_zero
  fraction := fun _ h => by cases h
  exponent := fun _ h => by cases h

/-- The number that an integer is written as denotes this integer. -/
theorem Number.integer?_ofInteger (i : Int64) : (Number.ofInteger i).integer? = some i := by
  have hLower := i.minValue_le_toInt
  have hUpper := i.toInt_le
  have hValue : (if i.toInt < 0 then -(i.toInt.natAbs : Int) else i.toInt.natAbs) = i.toInt := by
    split <;> omega
  have hNotMinusZero : ¬(i.toInt < 0 ∧ i.toInt.natAbs = 0) := by omega
  unfold Number.integer? Number.ofInteger
  simp only [Nat.ofDigitChars_ten_toDigits, decide_eq_true_eq, hValue, hNotMinusZero, if_false,
    hLower, hUpper, and_self, if_true, Int64.ofInt_toInt]

end ScriptValue.Json
