import Mathlib
import ScriptValue.Proofs.Binary64.Shortest
import ScriptValue.Proofs.Numeral.Positional
import ScriptValue.Proofs.Pair.Grammar
import ScriptValue.Value.Basic

/-!
# Numbers in floating point as text, written and read

The text of a number is a sign and the positional text of its shortest decimal. It is read as a
decimal with the same quotient, and the number nearest to this quotient is the one that the
shortest decimal was made for. So every number comes back with all its bits, the two zeros with
their signs. What is not finite has words of its own.

* `Binary64.read_positional`: positional texts.
* `Binary64.read_text`: the texts of numbers.
* `float_text_reads_back`: their readings.
-/

namespace ScriptValue

namespace Binary64

open Numeral (Decimal readDecimal? readFloatNumeral? splitSign)

/-! ## Signs -/

theorem splitSign_signText (negative : Bool) {c : Char} (hDigit : c.isDigit = true)
    (cs : List Char) : splitSign (signText negative ++ c :: cs) = (negative, c :: cs) := by
  cases negative with
  | false => exact Numeral.splitSign_of_isDigit hDigit cs
  | true => rfl

theorem mem_signText {negative : Bool} {c : Char} (hc : c ∈ signText negative) : c = '-' := by
  cases negative with
  | false => cases hc
  | true => exact List.mem_singleton.mp hc

/-! ## Reading -/

theorem read_of_numeral {s : List Char} {n : Numeral.FloatNumeral}
    (h : readFloatNumeral? s = some n) : read s = .ok (ofNumeral n) := by
  unfold read
  rw [h]

/-- Two decimals with the same quotient are read as the same number. -/
theorem ofDecimal_congr (negative : Bool) {d e : Decimal} (hNumerator : e.numerator = d.numerator)
    (hDenominator : e.denominator = d.denominator) :
    ofDecimal negative e = ofDecimal negative d := by
  rw [ofDecimal_eq_nearest, ofDecimal_eq_nearest, hNumerator, hDenominator]

/-- A sign and the positional text of a decimal are read as the number nearest to it. -/
theorem read_positional (negative : Bool) {d : Decimal} (hd : d.digits ≠ 0) :
    read (signText negative ++ d.text) = .ok (ofDecimal negative d) := by
  obtain ⟨c, cs, hText, hDigit⟩ := Decimal.exists_text_eq_cons hd
  obtain ⟨e, hRead, hNumerator, hDenominator⟩ := Decimal.exists_readDecimal?_text hd
  rw [hText] at hRead ⊢
  have hNumeral := Numeral.readFloatNumeral?_of_isDigit (splitSign_signText negative hDigit cs)
    hDigit
  rw [hRead] at hNumeral
  rw [read_of_numeral hNumeral]
  exact congrArg Except.ok (ofDecimal_congr negative hNumerator hDenominator)

/-! ## Writing -/

theorem shortest_digits_ne_zero {m s : Nat} (hm : m ≠ 0) (tie : Tie) :
    (shortest tie m s).digits ≠ 0 :=
  (isWithin_shortest hm tie).digits_ne_zero hm

theorem text_of_shape {f : Float} {negative : Bool} {m s : Nat}
    (h : shape f = .finite negative m s) :
    text f = signText negative ++ (if m = 0 then ['0'] else (shortest .up m s).text) := by
  rw [text, h]

/-- The numbers without a magnitude are the two zeros. -/
theorem eq_zero_of_shape {f : Float} {negative : Bool} {s : Nat}
    (h : shape f = .finite negative 0 s) : f = zero negative := by
  obtain ⟨hCanonical, hMade⟩ := eq_ofMagnitude_of_shape h
  obtain rfl : s = 0 := hCanonical.normal.resolve_right (by omega)
  rw [hMade, zero, Nat.zero_mul]

/-- What is written for a number is read as this number. -/
theorem read_text (f : Float) : read (text f) = .ok f := by
  cases hShape : shape f with
  | nan =>
    rw [text, hShape, eq_nan_of_shape hShape]
    rfl
  | infinite negative =>
    rw [text, hShape, eq_infinity_of_shape hShape]
    cases negative <;> rfl
  | finite negative m s =>
    rw [text_of_shape hShape]
    by_cases hm : m = 0
    · subst hm
      rw [if_pos rfl, eq_zero_of_shape hShape]
      cases negative <;> rfl
    · rw [if_neg hm, read_positional negative (shortest_digits_ne_zero hm .up),
        ofDecimal_shortest hShape hm .up]

/-- There are no blanks in the text of a number. -/
theorem not_isBlank_of_mem_text {f : Float} {c : Char} (hc : c ∈ text f) :
    Text.isBlank c = false := by
  have hNaN : ∀ c ∈ ['N', 'a', 'N'], Text.isBlank c = false := by
    simp [Text.isBlank]
  have hInfinity : ∀ c ∈ ['I', 'n', 'f', 'i', 'n', 'i', 't', 'y'], Text.isBlank c = false := by
    simp [Text.isBlank]
  have hSign : ∀ negative, c ∈ signText negative → Text.isBlank c = false := by
    intro negative hc
    rw [mem_signText hc]
    rfl
  unfold text at hc
  split at hc
  · exact hNaN c hc
  · exact (List.mem_append.mp hc).elim (hSign _) (hInfinity c)
  · rcases List.mem_append.mp hc with hc | hc
    · exact hSign _ hc
    · split at hc
      · rw [List.mem_singleton.mp hc]
        rfl
      · rename_i hm
        rcases Decimal.mem_text (shortest_digits_ne_zero hm .up) hc with hDigit | rfl
        · exact isBlank_of_isDigit hDigit
        · rfl

end Binary64

/-! ## Readings -/

theorem floatReading_floatString (f : Float) : floatReading (floatString f) = f := by
  unfold floatReading floatString
  rw [String.toList_ofList,
    Text.trim_eq_self_of_forall fun _ hc => Binary64.not_isBlank_of_mem_text hc,
    Binary64.read_text]
  rfl

/-- The text of a number is a numeral of this number, and reads as a number with the same bits.
So a string or a pointer that is made of the text of a value in floating point has the same number
as this value. -/
theorem float_text_reads_back (f : Float) :
    Binary64.read (floatString f).toList = .ok f ∧
      (floatReading (floatString f)).toBits = f.toBits ∧
      (Value.ofString (Value.ofFloat f).string).float = (Value.ofFloat f).float ∧
      (Value.ofPointer (Value.ofFloat f).string).float = (Value.ofFloat f).float := by
  have hReading := floatReading_floatString f
  have hString (text : String) : (Value.ofString text).float = floatReading text := rfl
  have hPointer (name : String) : (Value.ofPointer name).float = floatReading name := rfl
  have hFloat : (Value.ofFloat f).float = f := rfl
  have hText : (Value.ofFloat f).string = floatString f := rfl
  refine ⟨?_, congrArg Float.toBits hReading, ?_, ?_⟩
  · rw [floatString, String.toList_ofList, Binary64.read_text]
  · rw [hString, hText, hReading, hFloat]
  · rw [hPointer, hText, hReading, hFloat]

/-- Large and small numbers are written without an exponent, and zero keeps its sign. -/
example : floatString (Float.ofBits 0x444B1AE4D6E2EF50) = "1000000000000000000000" ∧
    floatString (Float.ofBits 0x3E7AD7F29ABCAF48) = "0.0000001" ∧
    floatString (Binary64.zero true) = "-0" := by
  decide +kernel

end ScriptValue
