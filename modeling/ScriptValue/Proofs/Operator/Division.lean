import ScriptValue.Proofs.Operator.Componentwise
import ScriptValue.Proofs.Operator.Fault

/-!
# Quotients and remainders

The quotient of two integers is truncated toward zero, and the remainder has the sign of the
dividend. The quotient times the divisor is the dividend up to the remainder, in the arithmetic of
64 bits. This holds for the least integer divided by minus one too, whose quotient is out of range:
it wraps around to the least integer, and so does its product with minus one.

The quotient is multiplied by the divisor as it was given, which need not be an integer. The
quotient is one, so the divisor is read in the same domain again.

* `IsDivided`: a quotient and a remainder of two integers.
* `div_mul_add_mod`: how they fit together.
* `governing?_left`: the governing kind of the product.
* `quotient_and_remainder`: the operators, on integers and on pairs.
-/

namespace ScriptValue

/-! ## Integers -/

/-- The quotient and the remainder of a division by what is not zero. -/
structure IsDivided (x y q r : Int64) : Prop where
  remainder_lt : r.toInt.natAbs < y.toInt.natAbs
  sign : r = 0 ∨ r.toInt.sign = x.toInt.sign
  quotient : ¬(x = Int64.minValue ∧ y = -1) → q.toInt = x.toInt.tdiv y.toInt
  overflow : x = Int64.minValue → y = -1 → q = Int64.minValue ∧ r = 0

theorem eq_zero_of_toInt {i : Int64} (h : i.toInt = 0) : i = 0 :=
  Int64.toInt_inj.mp h

theorem isDivided (x : Int64) {y : Int64} (hy : y ≠ 0) : IsDivided x y (x / y) (x % y) where
  remainder_lt := by
    have hDivisor : y.toInt ≠ 0 := fun h => hy (eq_zero_of_toInt h)
    rw [Int64.toInt_mod, Int.natAbs_tmod]
    exact Nat.mod_lt _ (Int.natAbs_pos.mpr hDivisor)
  sign := by
    have hSign := Int.sign_tmod x.toInt y.toInt
    rw [← Int64.toInt_mod] at hSign
    split at hSign
    · exact Or.inl (eq_zero_of_toInt (Int.sign_eq_zero_iff_zero.mp hSign))
    · exact Or.inr hSign
  quotient := by
    intro hInside
    by_cases hLeast : x = Int64.minValue
    · exact Int64.toInt_div_of_ne_right x y fun h => hInside ⟨hLeast, h⟩
    · exact Int64.toInt_div_of_ne_left x y hLeast
  overflow := by
    rintro rfl rfl
    exact ⟨rfl, rfl⟩

/-- Quotient and remainder as those of unbounded integers, reduced once. -/
theorem div_mul_add_mod (x y : Int64) : x / y * y + x % y = x := by
  have hDiv := Int64.ofInt_tdiv x.minValue_le_toInt x.toInt_le y.minValue_le_toInt y.toInt_le
  have hMod := Int64.ofInt_tmod x.minValue_le_toInt x.toInt_le y.minValue_le_toInt y.toInt_le
  simp only [Int64.ofInt_toInt] at hDiv hMod
  calc x / y * y + x % y
      = Int64.ofInt (x.toInt.tdiv y.toInt * y.toInt + x.toInt.tmod y.toInt) := by
        rw [Int64.ofInt_add, Int64.ofInt_mul, hDiv, hMod, Int64.ofInt_toInt]
    _ = Int64.ofInt x.toInt := by rw [Int.mul_comm, Int.mul_tdiv_add_tmod]
    _ = x := Int64.ofInt_toInt x

/-! ## Governing kinds -/

/-- The governing kind of two operands still governs when it takes the place of the first one. -/
theorem governing?_left {ladder : List Kind} {k l governing : Kind}
    (h : governing? ladder k l = some governing) :
    governing? ladder governing l = some governing := by
  unfold governing? at h ⊢
  obtain ⟨hCarried, before, after, rfl, hBefore⟩ := List.find?_eq_some_iff_append.mp h
  refine List.find?_eq_some_iff_append.mpr ⟨by simp, before, after, rfl, fun g hg => ?_⟩
  have hNone := hBefore g hg
  simp only [Bool.not_eq_true', decide_eq_false_iff_not, decide_eq_true_eq] at hNone hCarried ⊢
  rintro (rfl | hl)
  · exact hNone hCarried
  · exact hNone (Or.inr hl)

namespace Value

variable {v w : Value} {governing : Kind}

/-- The product of a value of the governing kind and the second operand. -/
theorem mul_of_governing (hGoverning : governing? arithmeticLadder v.kind w.kind = some governing)
    {q : Value} (hq : q.isNull = false) (hKind : q.kind = governing) (hw : w.isNull = false) :
    Value.binary .mul q w = BinaryOp.inDomain .mul governing q w := by
  refine binary_of_governing (by decide) hq hw ?_ rfl
  rw [hKind]
  exact governing?_left hGoverning

/-! ## Operators -/

/-- Where an integer governs, `/` and `%` give a quotient and a remainder that fit together, and so
they do in both components where a pair governs. The quotient times the divisor, plus the
remainder, is the dividend as it reads in the domain of the governing kind. Null counts as a
string, so that neither of these kinds governs it. -/
theorem quotient_and_remainder (hv : v.isNull = false) (hw : w.isNull = false) :
    (governing? arithmeticLadder v.kind w.kind = some .integer → w.integer ≠ 0 →
      ∃ q r, Value.binary .div v w = .ok (.ofInteger q) ∧
        Value.binary .rem v w = .ok (.ofInteger r) ∧
        (do Value.binary .add (← Value.binary .mul (.ofInteger q) w) (.ofInteger r)) =
          .ok (.ofInteger v.integer) ∧
        IsDivided v.integer w.integer q r) ∧
    (governing? arithmeticLadder v.kind w.kind = some .pair → w.pair.x ≠ 0 → w.pair.y ≠ 0 →
      ∃ q r, Value.binary .div v w = .ok (.ofPair q) ∧
        Value.binary .rem v w = .ok (.ofPair r) ∧
        (do Value.binary .add (← Value.binary .mul (.ofPair q) w) (.ofPair r)) =
          .ok (.ofPair v.pair) ∧
        IsDivided v.pair.x w.pair.x q.x r.x ∧ IsDivided v.pair.y w.pair.y q.y r.y) := by
  constructor
  · intro hGoverning hDivisor
    have hZero : w.isZeroDivisor .integer = false := by simpa [isZeroDivisor] using hDivisor
    have hProduct : Value.binary .mul (.ofInteger (v.integer / w.integer)) w =
        .ok (.ofInteger (v.integer / w.integer * w.integer)) :=
      mul_of_governing hGoverning rfl rfl hw
    refine ⟨v.integer / w.integer, v.integer % w.integer,
      binary_quotient_of_governing (.inl rfl) hv hw hGoverning (by decide) hZero,
      binary_quotient_of_governing (.inr rfl) hv hw hGoverning (by decide) hZero, ?_,
      isDivided v.integer hDivisor⟩
    rw [hProduct]
    calc Value.binary .add (.ofInteger (v.integer / w.integer * w.integer))
          (.ofInteger (v.integer % w.integer))
        = .ok (.ofInteger (v.integer / w.integer * w.integer + v.integer % w.integer)) :=
          binary_ofInteger (by decide) (by decide) _ _
      _ = .ok (.ofInteger v.integer) := by rw [div_mul_add_mod]
  · intro hGoverning hFirst hSecond
    have hZero : w.isZeroDivisor .pair = false := by simp [isZeroDivisor, hFirst, hSecond]
    have hProduct : Value.binary .mul (.ofPair (.zipWith (· / ·) v.pair w.pair)) w =
        .ok (.ofPair (.zipWith (· / ·) v.pair w.pair * w.pair)) :=
      mul_of_governing hGoverning rfl rfl hw
    refine ⟨.zipWith (· / ·) v.pair w.pair, .zipWith (· % ·) v.pair w.pair,
      binary_quotient_of_governing (.inl rfl) hv hw hGoverning (by decide) hZero,
      binary_quotient_of_governing (.inr rfl) hv hw hGoverning (by decide) hZero, ?_,
      isDivided v.pair.x hFirst, isDivided v.pair.y hSecond⟩
    rw [hProduct]
    calc Value.binary .add (.ofPair (.zipWith (· / ·) v.pair w.pair * w.pair))
          (.ofPair (.zipWith (· % ·) v.pair w.pair))
        = .ok (.ofPair ⟨v.pair.x / w.pair.x * w.pair.x + v.pair.x % w.pair.x,
            v.pair.y / w.pair.y * w.pair.y + v.pair.y % w.pair.y⟩) :=
          binary_ofPair (by decide) (by decide) _ _
      _ = .ok (.ofPair v.pair) := by rw [div_mul_add_mod, div_mul_add_mod]

/-- The least integer divided by a pointer to minus one, and a pair with it by a pointer to a
pair. -/
theorem quotient_and_remainder_least :
    (governing? arithmeticLadder Kind.integer Kind.pointer = some .integer ∧
      (ofPointer "-1").integer ≠ 0 ∧
      Value.binary .div (ofInteger Int64.minValue) (ofPointer "-1") =
        .ok (ofInteger Int64.minValue) ∧
      Value.binary .rem (ofInteger Int64.minValue) (ofPointer "-1") = .ok (ofInteger 0)) ∧
    (governing? arithmeticLadder Kind.pair Kind.pointer = some .pair ∧
      (ofPointer "(-1, 2)").pair.x ≠ 0 ∧ (ofPointer "(-1, 2)").pair.y ≠ 0 ∧
      ∃ q r, Value.binary .div (ofPair ⟨Int64.minValue, -7⟩) (ofPointer "(-1, 2)") =
          .ok (ofPair q) ∧
        Value.binary .rem (ofPair ⟨Int64.minValue, -7⟩) (ofPointer "(-1, 2)") = .ok (ofPair r) ∧
        q.x = Int64.minValue ∧ r.x = 0 ∧ q.y.toInt = -3) := by
  have hInteger : (ofPointer "-1").integer = -1 := by decide
  have hPair : (ofPointer "(-1, 2)").pair = ⟨-1, 2⟩ := by decide
  have hDivisor : (ofPointer "-1").integer ≠ 0 := by
    rw [hInteger]
    decide
  have hFirst : (ofPointer "(-1, 2)").pair.x ≠ 0 := by
    rw [hPair]
    decide
  have hSecond : (ofPointer "(-1, 2)").pair.y ≠ 0 := by
    rw [hPair]
    decide
  constructor
  · obtain ⟨q, r, hDiv, hRem, -, hDivided⟩ :=
      (@quotient_and_remainder (ofInteger Int64.minValue) (ofPointer "-1") rfl rfl).1 rfl hDivisor
    rw [hInteger] at hDivided
    obtain ⟨rfl, rfl⟩ := hDivided.overflow rfl rfl
    exact ⟨rfl, hDivisor, hDiv, hRem⟩
  · obtain ⟨q, r, hDiv, hRem, -, hDividedFirst, hDividedSecond⟩ :=
      (@quotient_and_remainder (ofPair ⟨Int64.minValue, -7⟩) (ofPointer "(-1, 2)") rfl rfl).2 rfl
        hFirst hSecond
    rw [hPair] at hDividedFirst hDividedSecond
    obtain ⟨hx, hr⟩ := hDividedFirst.overflow rfl rfl
    have hy := hDividedSecond.quotient (by decide)
    exact ⟨rfl, hFirst, hSecond, q, r, hDiv, hRem, hx, hr, hy⟩

end Value

end ScriptValue
