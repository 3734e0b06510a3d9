import ScriptValue.Numeral.Integer
import ScriptValue.Proofs.Numeral.Digits

/-!
# Integers as text, written and read

The reader goes through the digits with the value of those before, and gives up as soon as this
value leaves the range. A value of more digits is never nearer to zero, so it gives up exactly if
the value of all digits is out of range.

* `readDigits_eq_ok_iff`, `readInteger_eq_ok_iff`: the texts that are read.
* `readInteger_eq_ok_iff_denotes`: these are the numerals of integers in range.
* `readInteger_integerText`: the texts that are written are among them.
-/

namespace ScriptValue.Numeral

/-! ## Reading -/

/-- The integer of a sign and a magnitude. -/
def signed (negative : Bool) (magnitude : Nat) : Int :=
  if negative then -magnitude else magnitude

/-- An integer of 64 bits. -/
def InRange (value : Int) : Prop :=
  Int64.minValue.toInt ≤ value ∧ value ≤ Int64.maxValue.toInt

theorem signed_natAbs (i : Int) : signed (decide (i < 0)) i.natAbs = i := by
  unfold signed
  by_cases hNegative : i < 0
  · rw [decide_eq_true hNegative, if_pos rfl]
    omega
  · rw [decide_eq_false hNegative, if_neg Bool.false_ne_true]
    omega

theorem natAbs_signed (negative : Bool) (n : Nat) : (signed negative n).natAbs = n := by
  cases negative <;> simp [signed]

theorem signed_mul (negative : Bool) (a b : Nat) :
    signed negative (a * b) = signed negative a * b := by
  unfold signed
  cases negative with
  | false => exact Int.natCast_mul a b
  | true => rw [if_pos rfl, if_pos rfl, Int.natCast_mul, Int.neg_mul]

theorem inRange_signed_zero (negative : Bool) : InRange (signed negative 0) := by
  unfold InRange
  cases negative <;> decide

theorem appendDigit_signed (negative : Bool) (magnitude digit : Nat) :
    appendDigit negative (signed negative magnitude) digit =
      signed negative (10 * magnitude + digit) := by
  cases negative with
  | false => simp [appendDigit, signed, Int.mul_comm]
  | true =>
    simp only [appendDigit, signed, if_true]
    omega

/-- The range holds all integers of the same sign that are nearer to zero. -/
theorem InRange.mono {negative : Bool} {m n : Nat} (h : InRange (signed negative n))
    (hLe : m ≤ n) : InRange (signed negative m) := by
  have hMin : Int64.minValue.toInt = -9223372036854775808 := by decide
  have hMax : Int64.maxValue.toInt = 9223372036854775807 := by decide
  unfold InRange at h ⊢
  rw [hMin, hMax] at h ⊢
  cases negative with
  | false =>
    simp only [signed, Bool.false_eq_true, if_false] at h ⊢
    omega
  | true =>
    simp only [signed, if_true] at h ⊢
    omega

/-- The digits are read if they are digits and their value is in range, starting from the value
`magnitude` of the digits before. -/
theorem readDigits_eq_ok_iff {negative : Bool} {magnitude : Nat} {digits : List Char} {i : Int64}
    (hStart : InRange (signed negative magnitude)) :
    readDigits negative (signed negative magnitude) digits = .ok i ↔
      (∀ c ∈ digits, c.isDigit = true) ∧
        InRange (signed negative (Nat.ofDigitChars 10 digits magnitude)) ∧
        i = Int64.ofInt (signed negative (Nat.ofDigitChars 10 digits magnitude)) := by
  induction digits generalizing magnitude with
  | nil =>
    have hRead : readDigits negative (signed negative magnitude) [] =
        .ok (Int64.ofInt (signed negative magnitude)) := rfl
    simp only [hRead, Nat.ofDigitChars_nil, Except.ok.injEq, eq_comm, hStart]
    simp
  | cons c cs ih =>
    unfold readDigits
    by_cases hDigit : c.isDigit = true
    · rw [if_pos hDigit, appendDigit_signed]
      have hValue : Nat.ofDigitChars 10 (c :: cs) magnitude =
          Nat.ofDigitChars 10 cs (10 * magnitude + digitValue c) := Nat.ofDigitChars_cons
      by_cases hRange : InRange (signed negative (10 * magnitude + digitValue c))
      · dsimp only
        rw [if_neg (Int.not_lt.mpr hRange.1), if_neg (Int.not_lt.mpr hRange.2), ih hRange, hValue]
        simp [hDigit]
      · have hOut : ¬InRange (signed negative (Nat.ofDigitChars 10 (c :: cs) magnitude)) := by
          rw [hValue]
          exact fun h => hRange (h.mono (le_ofDigitChars cs _))
        have hFails : Int64.minValue.toInt ≤ signed negative (10 * magnitude + digitValue c) →
            Int64.maxValue.toInt < signed negative (10 * magnitude + digitValue c) :=
          fun h => Int.not_le.mp fun h' => hRange ⟨h, h'⟩
        dsimp only
        split
        · simp [hOut]
        · rename_i hLower
          rw [if_pos (hFails (Int.not_lt.mp hLower))]
          simp [hOut]
    · rw [if_neg hDigit]
      simp [hDigit]

/-- A text is read if it has digits after an optional sign, and their value is in range. -/
theorem readInteger_eq_ok_iff {s : List Char} {i : Int64} :
    readInteger s = .ok i ↔
      IsDigits (splitSign s).2 ∧
        InRange (signed (splitSign s).1 (Nat.ofDigitChars 10 (splitSign s).2 0)) ∧
        i = Int64.ofInt (signed (splitSign s).1 (Nat.ofDigitChars 10 (splitSign s).2 0)) := by
  cases s with
  | nil => simp [readInteger, splitSign, IsDigits]
  | cons c cs =>
    unfold readInteger
    rcases hSplit : splitSign (c :: cs) with ⟨negative, _ | ⟨d, ds⟩⟩
    · simp [IsDigits]
    · have hZero : signed negative 0 = 0 := by cases negative <;> rfl
      dsimp only
      rw [← hZero, readDigits_eq_ok_iff (inRange_signed_zero negative)]
      simp [IsDigits]

/-! ## Numerals -/

theorem splitSign_of_isDigits {digits : List Char} (h : IsDigits digits) :
    splitSign digits = (false, digits) := by
  unfold splitSign
  split
  · cases h.2 '-' List.mem_cons_self
  · cases h.2 '+' List.mem_cons_self
  · rfl

/-- The numerals of an integer: one or more digits, with leading zeros or without, behind a sign
or none. -/
inductive Denotes : List Char → Int → Prop where
  | unsigned {digits : List Char} (h : IsDigits digits) :
      Denotes digits (Nat.ofDigitChars 10 digits 0)
  | plus {digits : List Char} (h : IsDigits digits) :
      Denotes ('+' :: digits) (Nat.ofDigitChars 10 digits 0)
  | minus {digits : List Char} (h : IsDigits digits) :
      Denotes ('-' :: digits) (-Nat.ofDigitChars 10 digits 0)

theorem denotes_iff {s : List Char} {value : Int} :
    Denotes s value ↔ IsDigits (splitSign s).2 ∧
      value = signed (splitSign s).1 (Nat.ofDigitChars 10 (splitSign s).2 0) := by
  constructor
  · rintro (h | h | h)
    · rw [splitSign_of_isDigits h]
      exact ⟨h, rfl⟩
    · exact ⟨h, rfl⟩
    · exact ⟨h, rfl⟩
  · rintro ⟨h, rfl⟩
    unfold splitSign at h ⊢
    split at h
    · exact .minus h
    · exact .plus h
    · exact .unsigned h

/-- A text is read as an integer if it is a numeral of this integer. The range is that of the
integers that there are. -/
theorem readInteger_eq_ok_iff_denotes {s : List Char} {i : Int64} :
    readInteger s = .ok i ↔ Denotes s i.toInt := by
  rw [readInteger_eq_ok_iff, denotes_iff]
  constructor
  · rintro ⟨hDigits, hRange, rfl⟩
    exact ⟨hDigits, Int64.toInt_ofInt_of_le hRange.1 (Int.lt_add_one_of_le hRange.2)⟩
  · rintro ⟨hDigits, hValue⟩
    rw [← hValue, Int64.ofInt_toInt]
    exact ⟨hDigits, ⟨i.minValue_le_toInt, i.toInt_le⟩, rfl⟩

theorem Denotes.mem {s : List Char} {value : Int} (h : Denotes s value) {c : Char} (hc : c ∈ s) :
    c.isDigit = true ∨ c = '+' ∨ c = '-' := by
  cases h with
  | unsigned h => exact Or.inl (h.2 c hc)
  | plus h =>
    rcases List.mem_cons.mp hc with rfl | hc
    · exact Or.inr (Or.inl rfl)
    · exact Or.inl (h.2 c hc)
  | minus h =>
    rcases List.mem_cons.mp hc with rfl | hc
    · exact Or.inr (Or.inr rfl)
    · exact Or.inl (h.2 c hc)

/-! ## Writing -/

theorem splitSign_integerText (i : Int64) :
    splitSign (integerText i) = (decide (i.toInt < 0), Nat.toDigits 10 i.toInt.natAbs) := by
  unfold integerText
  dsimp only
  split
  · rename_i hNegative
    simp [splitSign, hNegative]
  · rename_i hNegative
    rw [splitSign_of_isDigits (isDigits_toDigits _), decide_eq_false hNegative]

/-- What is written for an integer is read as this integer, at the ends of the range too. -/
theorem readInteger_integerText (i : Int64) : readInteger (integerText i) = .ok i := by
  rw [readInteger_eq_ok_iff, splitSign_integerText]
  simp only [Nat.ofDigitChars_ten_toDigits, signed_natAbs, Int64.ofInt_toInt, and_true]
  exact ⟨isDigits_toDigits _, i.minValue_le_toInt, i.toInt_le⟩

theorem denotes_integerText (i : Int64) : Denotes (integerText i) i.toInt :=
  readInteger_eq_ok_iff_denotes.mp (readInteger_integerText i)

end ScriptValue.Numeral
