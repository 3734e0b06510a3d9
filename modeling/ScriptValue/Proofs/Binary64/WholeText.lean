import Mathlib
import ScriptValue.Proofs.Binary64.Text
import ScriptValue.Proofs.Binary64.Whole

/-!
# Whole numbers as text

The shortest decimal of a number is at most half a step away from it. Up to 2^53 a step is at most
one, so a decimal without a fraction that is as near as that is the number itself; and as the
exact value has no fraction, the search does not come to decimals that have one. At 2^53 the step
above is two, and the interval reaches to the next integer, but this is no multiple of ten.

So the text of a whole number up to 2^53 is a numeral of it, and reads as an integer as its integer
part does. Beyond 2^54 a step is four or more, and there are numbers with a shorter decimal beside
them, whose zeros are a different integer.

* `multiple?_of_eq`, `shortestFrom_of_zero`: where the search ends.
* `IsWithin.numerator_eq`: the decimals near a whole number.
* `shortest_of_whole`, `denotes_text`: its shortest decimal and its text.
* `whole_text_same_integer`: its readings.
-/

namespace ScriptValue

namespace Binary64

open Numeral (Decimal Denotes IsDigits signed natAbs_signed)

/-! ## The search -/

/-- If the value is a multiple of the step, this multiple is taken. -/
theorem multiple?_of_eq {i : Interval} {scale step k : Nat} (hStep : 0 < step)
    (hValue : i.value * scale = k * step) (hContains : i.contains scale (k * step) = true)
    (tie : Tie) : i.multiple? tie scale step = some k := by
  have hBelow : i.value * scale / step = k := by rw [hValue, Nat.mul_div_cancel k hStep]
  have hRest : i.value * scale % step = 0 := by rw [hValue, Nat.mul_mod_left]
  unfold Interval.multiple?
  simp only [hBelow, hRest, hContains]
  split
  · rw [if_pos (by omega)]
  · rfl
  · contradiction
  · contradiction

/-- A whole number is a multiple of ten to the power of zero. -/
theorem multipleOfPower?_zero {m s a : Nat} (hm : m ≠ 0) (hUnits : m * 2 ^ s = a * unitsPerOne)
    (tie : Tie) : (interval m s).multipleOfPower? tie 0 = some a := by
  have hPower : 10 ^ (0 : Int).toNat = 1 := rfl
  have hScale : 10 ^ (-(0 : Int)).toNat = 1 := rfl
  have hValue : (interval m s).value = 4 * m * 2 ^ s := rfl
  have hMultiple : 4 * (m * 2 ^ s) = a * (4 * unitsPerOne) := by
    rw [hUnits, Nat.mul_left_comm]
  have hContains := contains_value (s := s) hm Nat.one_pos
  rw [Nat.mul_one, hMultiple] at hContains
  rw [multipleOfPower?_eq, hPower, hScale, Nat.mul_one]
  refine multiple?_of_eq (Nat.mul_pos (by decide) unitsPerOne_pos) ?_ hContains tie
  rw [hValue, Nat.mul_one, Nat.mul_assoc, hMultiple]

/-- From a power of ten that is whole, the search does not go below ten to the power of zero. -/
theorem shortestFrom_of_zero {m s a : Nat} {tie : Tie}
    (hZero : (interval m s).multipleOfPower? tie 0 = some a) (steps : Nat) {e : Nat}
    (he : e < steps) :
    shortestFrom tie m s steps e = ⟨a, 0⟩ ∨ 0 < (shortestFrom tie m s steps e).exponent := by
  induction steps generalizing e with
  | zero => omega
  | succ steps ih =>
    unfold shortestFrom
    rcases Nat.eq_zero_or_pos e with rfl | hPos
    · left
      rw [Nat.cast_zero, hZero]
    · split
      · right
        exact Int.natCast_pos.mpr hPos
      · have hNext := ih (e := e - 1) (by omega)
        rwa [Nat.cast_sub hPos, Nat.cast_one] at hNext

/-! ## The interval -/

/-- Up to 2^53 a step is at most one, and two at 2^53 itself. -/
theorem Canonical.two_pow_le_of_whole {m s a : Nat} (h : Canonical m s)
    (hUnits : m * 2 ^ s = a * unitsPerOne) (ha : a ≤ 2 ^ 53) :
    2 ^ s ≤ unitsPerOne ∨ (2 ^ s = 2 * unitsPerOne ∧ a = 2 ^ 53) := by
  have hPower (j k : Nat) (h : j ≤ k) : 2 ^ j ≤ 2 ^ k := Nat.pow_le_pow_right (by decide) h
  by_cases hShift : s ≤ 1074
  · left
    rw [unitsPerOne_eq]
    exact hPower s _ hShift
  · right
    have hNormal := h.normal.resolve_left (by omega)
    have hStep : 2 * unitsPerOne ≤ 2 ^ s := by
      obtain ⟨t, rfl⟩ : ∃ t, s = t + 1 := ⟨s - 1, by omega⟩
      have hHalf : unitsPerOne ≤ 2 ^ t := by
        rw [unitsPerOne_eq]
        exact hPower _ t (by omega)
      rw [Nat.pow_succ]
      omega
    have hUpper : 2 ^ 52 * 2 ^ s ≤ 2 ^ 53 * unitsPerOne := by
      calc 2 ^ 52 * 2 ^ s ≤ m * 2 ^ s := Nat.mul_le_mul_right _ hNormal
        _ = a * unitsPerOne := hUnits
        _ ≤ 2 ^ 53 * unitsPerOne := Nat.mul_le_mul_right _ ha
    have hDouble : 2 ^ s = 2 * unitsPerOne := by omega
    have hTwice : m * 2 = a := by
      apply Nat.eq_of_mul_eq_mul_right unitsPerOne_pos
      rw [← hUnits, hDouble, Nat.mul_assoc]
    exact ⟨hDouble, by omega⟩

/-- The only multiple of ten that may be near a whole number is this number itself. -/
theorem IsWithin.numerator_eq {d : Decimal} {m s a : Nat} (h : IsWithin d m s)
    (hExponent : 0 ≤ d.exponent) (hTen : 10 ∣ d.numerator) (hCanonical : Canonical m s)
    (hUnits : m * 2 ^ s = a * unitsPerOne) (ha : a ≤ 2 ^ 53) : d.numerator = a := by
  have hPos := unitsPerOne_pos
  have hOne : d.denominator = 1 := by
    unfold Decimal.denominator
    rw [Int.toNat_of_nonpos (by omega), Nat.pow_zero]
  obtain ⟨c, hLowest, hc⟩ := interval_low m s
  have hHalf : c * 2 ^ s ≤ 2 * 2 ^ s := Nat.mul_le_mul_right _ (by omega)
  have hLow := h.low_le
  have hHigh := (interval_contains_iff.mp h).2.1
  rw [hOne, Nat.mul_one, hLowest, Nat.sub_mul, Nat.mul_assoc, hUnits] at hLow
  rw [hOne, Nat.mul_one, Nat.add_mul, Nat.mul_assoc, hUnits] at hHigh
  generalize d.numerator = p at *
  have hBetween (j k : Nat) (hj : a * unitsPerOne < (p + j) * unitsPerOne)
      (hk : p * unitsPerOne < (a + k) * unitsPerOne) : a < p + j ∧ p < a + k :=
    ⟨Nat.lt_of_mul_lt_mul_right hj, Nat.lt_of_mul_lt_mul_right hk⟩
  rcases hCanonical.two_pow_le_of_whole hUnits ha with hStep | ⟨hStep, rfl⟩
  · obtain ⟨hBelow, hAbove⟩ := hBetween 1 1 (by rw [Nat.add_one_mul]; omega)
      (by rw [Nat.add_one_mul]; omega)
    omega
  · -- the integers beside 2^53 are near too, but they are no multiples of ten
    obtain ⟨hBelow, hAbove⟩ := hBetween 2 2 (by rw [Nat.add_mul]; omega)
      (by rw [Nat.add_mul]; omega)
    omega

/-! ## Shortest decimals and texts -/

theorem decimalOrder_of_whole {a : Nat} (ha : 0 < a) :
    decimalOrder (a * unitsPerOne) unitsPerOne = (Nat.toDigits 10 a).length := by
  unfold decimalOrder
  rw [if_pos (Nat.le_mul_of_pos_left _ ha), Nat.mul_div_cancel a unitsPerOne_pos]

/-- The shortest decimal of a whole number up to 2^53 has no fraction and is this number. -/
theorem shortest_of_whole {m s a : Nat} (hCanonical : Canonical m s) (hm : m ≠ 0)
    (hUnits : m * 2 ^ s = a * unitsPerOne) (ha : a ≤ 2 ^ 53) (tie : Tie) :
    0 ≤ (shortest tie m s).exponent ∧ (shortest tie m s).numerator = a := by
  have hPos : 0 < a := by
    by_contra hZero
    obtain rfl : a = 0 := by omega
    rw [Nat.zero_mul] at hUnits
    exact (Nat.mul_pos (Nat.pos_of_ne_zero hm) (Nat.two_pow_pos s)).ne' hUnits
  have hLength : (Nat.toDigits 10 a).length ≤ 16 :=
    (Nat.length_toDigits_le_iff (by decide) (by decide)).mpr (by omega)
  have hWithin := isWithin_shortest (s := s) hm tie
  have hSearch := shortestFrom_of_zero (multipleOfPower?_zero hm hUnits tie) 18
    (e := (Nat.toDigits 10 a).length) (by omega)
  rw [← decimalOrder_of_whole hPos, ← hUnits] at hSearch
  change shortest tie m s = ⟨a, 0⟩ ∨ 0 < (shortest tie m s).exponent at hSearch
  generalize shortest tie m s = d at *
  rcases hSearch with rfl | hExponent
  · exact ⟨le_rfl, Nat.mul_one a⟩
  · have hTen : 10 ∣ d.numerator :=
      Dvd.dvd.mul_left (dvd_pow_self 10 (by omega)) _
    exact ⟨hExponent.le, hWithin.numerator_eq hExponent.le hTen hCanonical hUnits ha⟩

theorem denotes_signText (negative : Bool) {digits : List Char} (h : IsDigits digits) :
    Denotes (signText negative ++ digits) (signed negative (Nat.ofDigitChars 10 digits 0)) := by
  cases negative with
  | false => exact .unsigned h
  | true => exact .minus h

/-- The text of a whole number up to 2^53 is a numeral of this number. -/
theorem denotes_text {f : Float} {i : Int} (h : IsWhole f i) (hi : i.natAbs ≤ 2 ^ 53) :
    Denotes (text f) i := by
  obtain ⟨negative, m, s, a, hShape, hUnits, rfl⟩ := isWhole_iff.mp h
  rw [natAbs_signed] at hi
  rw [text_of_shape hShape]
  split
  · rename_i hZero
    have hNone : a = 0 := by
      rw [hZero, Nat.zero_mul] at hUnits
      exact (Nat.mul_eq_zero.mp hUnits.symm).resolve_right unitsPerOne_pos.ne'
    rw [hNone]
    exact denotes_signText negative Numeral.isDigits_zero
  · rename_i hm
    obtain ⟨hExponent, hNumerator⟩ := shortest_of_whole (bits_of_shape hShape).1 hm hUnits hi .up
    obtain ⟨hDigits, hValue⟩ :=
      Decimal.text_of_nonneg (shortest_digits_ne_zero hm .up) hExponent
    rw [← hNumerator, ← hValue]
    exact denotes_signText negative hDigits

end Binary64

/-! ## Readings -/

open Binary64 (IsWhole)

theorem integerReading_floatString {f : Float} {i : Int} (h : IsWhole f i)
    (hi : i.natAbs ≤ 2 ^ 53) :
    (Binary64.truncate f).toInt = i ∧ integerReading (floatString f) = Binary64.truncate f := by
  have hMin := Int64.toInt_minValue
  have hMax := Int64.toInt_maxValue
  have hTruncate : (Binary64.truncate f).toInt = i := by
    rw [Binary64.truncate_of_isWhole h]
    exact Int64.toInt_ofIntClamp (by omega) (by omega)
  refine ⟨hTruncate, integerReading_of_denotes ?_⟩
  rw [hTruncate]
  exact Binary64.denotes_text h hi

/-- Two steps above 2^54, the shortest decimal is a multiple of ten beside the number. -/
theorem exists_other_integer :
    ∃ (f : Float) (i : Int), IsWhole f i ∧ 2 ^ 53 < i ∧
      integerReading (floatString f) ≠ Binary64.truncate f := by
  have hWhole : IsWhole (Float.ofBits 0x4350000000000002) (2 ^ 54 + 8) := by
    unfold Binary64.IsWhole
    decide +kernel
  have hText : floatString (Float.ofBits 0x4350000000000002) = "18014398509481990" := by
    decide +kernel
  refine ⟨_, _, hWhole, by decide, ?_⟩
  rw [hText]
  decide +kernel

/-- Up to 2^53, the text of a whole number reads as the same integer as the number itself, and a
string of this text has the integer that the number has. Beyond that there are whole numbers whose
text reads as a different integer. -/
theorem whole_text_same_integer :
    (∀ (f : Float) (i : Int), IsWhole f i → i.natAbs ≤ 2 ^ 53 →
      integerReading (floatString f) = Binary64.truncate f ∧ (Binary64.truncate f).toInt = i ∧
        (Value.ofString (Value.ofFloat f).string).integer = (Value.ofFloat f).integer) ∧
      ∃ (f : Float) (i : Int), IsWhole f i ∧ 2 ^ 53 < i ∧
        integerReading (floatString f) ≠ Binary64.truncate f := by
  refine ⟨?_, exists_other_integer⟩
  intro f i hWhole hSmall
  obtain ⟨hTruncate, hReading⟩ := integerReading_floatString hWhole hSmall
  have hString (text : String) : (Value.ofString text).integer = integerReading text := rfl
  have hText : (Value.ofFloat f).string = floatString f := rfl
  have hInteger : (Value.ofFloat f).integer = Binary64.truncate f := rfl
  rw [hString, hText, hInteger]
  exact ⟨hReading, hTruncate, hReading⟩

/-- The zero with a sign, and the least number of the range. -/
theorem whole_text_same_integer_ends :
    (IsWhole (Binary64.zero true) 0 ∧
      integerReading (floatString (Binary64.zero true)) = Binary64.truncate (Binary64.zero true) ∧
      floatString (Binary64.zero true) = "-0") ∧
    (IsWhole (Float.ofBits 0xC340000000000000) (-2 ^ 53) ∧
      integerReading (floatString (Float.ofBits 0xC340000000000000)) =
        Binary64.truncate (Float.ofBits 0xC340000000000000) ∧
      floatString (Float.ofBits 0xC340000000000000) = "-9007199254740992") := by
  have hZero : IsWhole (Binary64.zero true) 0 := by
    unfold Binary64.IsWhole
    decide +kernel
  have hLeast : IsWhole (Float.ofBits 0xC340000000000000) (-2 ^ 53) := by
    unfold Binary64.IsWhole
    decide +kernel
  exact ⟨⟨hZero, (whole_text_same_integer.1 _ _ hZero (by decide)).1, by decide +kernel⟩,
    ⟨hLeast, (whole_text_same_integer.1 _ _ hLeast (by decide)).1, by decide +kernel⟩⟩

end ScriptValue
