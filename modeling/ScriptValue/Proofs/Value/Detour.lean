import Mathlib
import ScriptValue.Proofs.Binary64.Text
import ScriptValue.Proofs.Binary64.Whole
import ScriptValue.Proofs.Pair.Text

/-!
# Integers by way of text and of floating point

An integer reads as the number in floating point that is nearest to it. Its text reads as a
decimal without an exponent, and the number that a decimal is read as is the nearest one too. So
both are the same number, whichever way the integer went.

From floating point an integer comes back by its integer part. What is nearest to an integer is
whole, so nothing is cut off, and 2^63 is the only number that leaves the range. The integers up to
2^53 are numbers of the format, and so are all multiples of 1024; that no number is nearer than
these is all that the bounds need.

* `Binary64.read_integerText`, `integer_text_same_number`: by way of text.
* `exists_throughFloat`: by way of floating point, as a whole number and the end of the range.
* `integers_through_float`: what this leaves of integers.
-/

namespace ScriptValue

open Binary64 (IsNearest IsWhole unitsPerOne exists_isWhole)
open Numeral (IsDigits integerText splitSign)

/-! ## By way of text -/

namespace Binary64

/-- Digits behind a sign or none are read as the number nearest to their value. -/
theorem read_of_isDigits {s digits : List Char} {negative : Bool}
    (hSign : splitSign s = (negative, digits)) (hDigits : IsDigits digits) :
    read s = .ok (ofDecimal negative ⟨Nat.ofDigitChars 10 digits 0, 0⟩) := by
  obtain ⟨c, cs, hCons, hDigit⟩ := hDigits.exists_append_eq_cons []
  rw [List.append_nil] at hCons
  rw [hCons] at hSign
  have hNumeral := Numeral.readFloatNumeral?_of_isDigit hSign hDigit
  rw [← hCons, Numeral.readDecimal?_whole hDigits] at hNumeral
  exact read_of_numeral hNumeral

/-- The text of an integer is read as the number nearest to this integer. -/
theorem read_integerText (i : Int64) : read (integerText i) = .ok (ofInteger i) := by
  have hDecimal := ofDecimal_natCast (decide (i.toInt < 0)) i.toInt.natAbs 0
  rw [Nat.pow_zero, Nat.mul_one] at hDecimal
  rw [read_of_isDigits (Numeral.splitSign_integerText i) (Numeral.isDigits_toDigits _),
    Nat.ofDigitChars_ten_toDigits]
  exact congrArg Except.ok hDecimal

end Binary64

theorem floatReading_integerString (i : Int64) :
    floatReading (integerString i) = Binary64.ofInteger i := by
  rw [floatReading, integerString, String.toList_ofList, trim_integerText,
    Binary64.read_integerText]
  rfl

/-- An integer and a string or a pointer of its text read as the same number in floating point. It
is the number nearest to the integer, and of two that are equally near the one with an even
mantissa. -/
theorem integer_text_same_number (i : Int64) :
    (Value.ofString (Value.ofInteger i).string).float.toBits = (Value.ofInteger i).float.toBits ∧
      (Value.ofPointer (Value.ofInteger i).string).float.toBits =
        (Value.ofInteger i).float.toBits ∧
      ∃ u, IsNearest (Value.ofInteger i).float u (i.toInt * unitsPerOne) := by
  have hString (text : String) : (Value.ofString text).float = floatReading text := rfl
  have hPointer (name : String) : (Value.ofPointer name).float = floatReading name := rfl
  have hText : (Value.ofInteger i).string = integerString i := rfl
  have hFloat : (Value.ofInteger i).float = Binary64.ofInteger i := rfl
  rw [hString, hPointer, hText, hFloat, floatReading_integerString]
  exact ⟨rfl, rfl, Binary64.exists_isNearest_ofInteger i⟩

/-! ## By way of floating point -/

namespace Value

/-- What is left of an integer that was written as a number in floating point. -/
def throughFloat (i : Int64) : Int64 :=
  (ofFloat (ofInteger i).float).integer

end Value

theorem toInt_ofIntClamp_eq (x : Int) :
    (Int64.ofIntClamp x).toInt = max (-2 ^ 63) (min x (2 ^ 63 - 1)) := by
  have hMin := Int64.toInt_minValue
  have hMax := Int64.toInt_maxValue
  unfold Int64.ofIntClamp
  split
  · split
    · rw [Int64.toInt_ofIntLE]
      omega
    · omega
  · omega

namespace Value

/-- The number nearest to an integer is whole, and comes back as it is, or as the greatest integer
where it is beyond it. -/
theorem exists_throughFloat (i : Int64) :
    ∃ w, IsWhole (ofInteger i).float w ∧
      IsNearest (ofInteger i).float (w * unitsPerOne) (i.toInt * unitsPerOne) ∧
      (throughFloat i).toInt = min w (2 ^ 63 - 1) := by
  obtain ⟨w, hWhole, hNearest⟩ := Binary64.exists_nearest_whole i
  have hClamp : (throughFloat i).toInt = (Int64.ofIntClamp w).toInt :=
    congrArg Int64.toInt (Binary64.truncate_of_isWhole hWhole)
  refine ⟨w, hWhole, hNearest, ?_⟩
  -- the least integer is a number of the format, so no integer is rounded below it
  obtain ⟨f, hf⟩ := exists_isWhole (i := -2 ^ 53) (k := 10) (by decide) (by decide)
  have hLeast := hNearest.natAbs_sub_le hf
  have hRange := i.le_toInt
  rw [hClamp, toInt_ofIntClamp_eq]
  omega

variable {i j : Int64}

theorem throughFloat_of_le (h : i.toInt.natAbs ≤ 2 ^ 53) : throughFloat i = i := by
  obtain ⟨w, -, hNearest, hBack⟩ := exists_throughFloat i
  obtain ⟨f, hf⟩ := exists_isWhole (k := 0) h (by decide)
  have hNear := hNearest.natAbs_sub_le hf
  apply Int64.toInt_inj.mp
  omega

/-- The nearest multiple of 1024 is 512 off at the most. -/
theorem natAbs_throughFloat_sub_le (i : Int64) :
    ((throughFloat i).toInt - i.toInt).natAbs ≤ 512 := by
  obtain ⟨w, -, hNearest, hBack⟩ := exists_throughFloat i
  have hLow := i.le_toInt
  have hHigh := i.toInt_lt
  obtain ⟨f, hf⟩ := exists_isWhole (i := (i.toInt + 512) / 1024) (k := 10) (by omega) (by decide)
  have hNear := hNearest.natAbs_sub_le hf
  omega

theorem throughFloat_mono (h : i ≤ j) : throughFloat i ≤ throughFloat j := by
  rw [Int64.le_iff_toInt_le] at h ⊢
  rcases h.eq_or_lt with hSame | hLess
  · rw [Int64.toInt_inj.mp hSame]
  · obtain ⟨v, -, hNearestI, hBackI⟩ := exists_throughFloat i
    obtain ⟨w, -, hNearestJ, hBackJ⟩ := exists_throughFloat j
    have hPos : (0 : Int) < unitsPerOne := by exact_mod_cast Binary64.unitsPerOne_pos
    have hUnits := hNearestI.units_le hNearestJ (Int.mul_lt_mul_of_pos_right hLess hPos)
    have hWhole := Int.le_of_mul_le_mul_right hUnits hPos
    omega

/-- One and its opposite are numbers of the format, and nearer to other integers than zero is. -/
theorem throughFloat_eq_zero_iff : throughFloat i = 0 ↔ i = 0 := by
  constructor
  · intro h
    obtain ⟨w, -, hNearest, hBack⟩ := exists_throughFloat i
    rw [h] at hBack
    obtain ⟨f, hf⟩ := exists_isWhole (i := 1) (k := 0) (by decide) (by decide)
    obtain ⟨g, hg⟩ := exists_isWhole (i := -1) (k := 0) (by decide) (by decide)
    have hOne := hNearest.natAbs_sub_le hf
    have hOpposite := hNearest.natAbs_sub_le hg
    have hZero : (0 : Int64).toInt = 0 := rfl
    apply Int64.toInt_inj.mp
    omega
  · rintro rfl
    exact throughFloat_of_le (by decide)

theorem boolean_ofFloat_float (i : Int64) :
    (ofFloat (ofInteger i).float).boolean = (ofInteger i).boolean := by
  change (throughFloat i != 0) = (i != 0)
  rw [Bool.eq_iff_iff, bne_iff_ne, bne_iff_ne, ne_eq, ne_eq, throughFloat_eq_zero_iff]

/-- Integers that are written in floating point and read back: up to 2^53 they come back as they
are, and all of them within 512. Their order stays, only zero comes back as zero, and so their
truth stays. The number in floating point is whole and comes back exactly, but for 2^63, which
comes back as the greatest integer. -/
theorem integers_through_float :
    (∀ i : Int64, i.toInt.natAbs ≤ 2 ^ 53 → throughFloat i = i) ∧
      (∀ i : Int64, ((throughFloat i).toInt - i.toInt).natAbs ≤ 512) ∧
      (∀ i j : Int64, i ≤ j → throughFloat i ≤ throughFloat j) ∧
      (∀ i : Int64, throughFloat i = 0 ↔ i = 0) ∧
      (∀ i : Int64, (ofFloat (ofInteger i).float).boolean = (ofInteger i).boolean) ∧
      (∀ i : Int64, ∃ w, IsWhole (ofInteger i).float w ∧
        (throughFloat i).toInt = min w Int64.maxValue.toInt) ∧
      (∀ i : Int64, IsWhole (ofInteger i).float (2 ^ 63) → throughFloat i = Int64.maxValue) := by
  have hMax := Int64.toInt_maxValue
  refine ⟨fun _ => throughFloat_of_le, natAbs_throughFloat_sub_le, fun _ _ => throughFloat_mono,
    fun _ => throughFloat_eq_zero_iff, boolean_ofFloat_float, ?_, ?_⟩
  · intro i
    obtain ⟨w, hWhole, -, hBack⟩ := exists_throughFloat i
    rw [hMax]
    exact ⟨w, hWhole, hBack⟩
  · intro i hTop
    obtain ⟨w, hWhole, -, hBack⟩ := exists_throughFloat i
    obtain rfl := hWhole.unique hTop
    apply Int64.toInt_inj.mp
    rw [hBack, hMax]
    rfl

/-- 2^53 comes back as it is. The integer after it is a tie and comes back as 2^53. The greatest
integer is rounded up to 2^63 and comes back as it is only because the range ends there. -/
theorem integers_through_float_bounds :
    ((2 ^ 53 : Int64).toInt.natAbs ≤ 2 ^ 53 ∧ throughFloat (2 ^ 53) = 2 ^ 53) ∧
      ((2 ^ 53 : Int64) ≤ 2 ^ 53 + 1 ∧ throughFloat (2 ^ 53) ≤ throughFloat (2 ^ 53 + 1) ∧
        throughFloat (2 ^ 53 + 1) = 2 ^ 53) ∧
      (IsWhole (ofInteger Int64.maxValue).float (2 ^ 63) ∧
        throughFloat Int64.maxValue = Int64.maxValue) := by
  obtain ⟨hExact, -, hMono, -, -, -, hTop⟩ := integers_through_float
  have hSmall : (2 ^ 53 : Int64).toInt.natAbs ≤ 2 ^ 53 := by decide
  have hOrder : (2 ^ 53 : Int64) ≤ 2 ^ 53 + 1 := by decide
  have hTie : throughFloat (2 ^ 53 + 1) = 2 ^ 53 := by decide +kernel
  have hWhole : IsWhole (ofInteger Int64.maxValue).float (2 ^ 63) := by
    unfold Binary64.IsWhole
    decide +kernel
  exact ⟨⟨hSmall, hExact _ hSmall⟩, ⟨hOrder, hMono _ _ hOrder, hTie⟩, hWhole, hTop _ hWhole⟩

end Value

end ScriptValue
