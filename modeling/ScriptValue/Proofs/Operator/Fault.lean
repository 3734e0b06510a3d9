import ScriptValue.Proofs.Operator.Outcome

/-!
# When binary operators fail

`BinaryOp.fault?` lists the faults of a binary operator in the order in which they count: a null
operand, a string that cannot take part, a number in floating point for `&` and `|`, and a zero
divisor.

* `Value.binary_quotient`: a division without a fault divides by what is no zero.
* `binary_error_iff_fault`: these faults are all errors there are, and the result is null for two
  pointers and for nothing else.
-/

namespace ScriptValue

/-- The fault of a binary operator on two operands, if there is one. The divisor is read in the
domain of the first of float, integer, boolean and pair that an operand has as its kind. -/
def BinaryOp.fault? (op : BinaryOp) (v w : Value) : Option OperatorError :=
  if v.isNull ∨ w.isNull then some (.nullOperand op.symbol)
  else if v.kind = .string ∨ w.kind = .string then
    if op = .equal ∨ op = .notEqual ∨ op = .add then none
    else some (.invalid (.binary op .string))
  else if (op = .bitAnd ∨ op = .bitOr) ∧ (v.kind = .float ∨ w.kind = .float) then
    some (.invalid (.binary op .float))
  else if op = .div ∨ op = .rem then
    match governing? [.float, .integer, .boolean, .pair] v.kind w.kind with
    | some governing =>
      if w.isZeroDivisor governing then some (.zeroDivisor op.symbol) else none
    | none => none
  else none

theorem BinaryOp.fault?_of_governing {op : BinaryOp} {v w : Value} (hv : v.isNull = false)
    (hw : w.isNull = false) {governing : Kind}
    (hGoverning : governing? op.ladder v.kind w.kind = some governing) :
    op.fault? v w = op.liveFault? governing v w := by
  have hString : governing = .string ↔ v.kind = .string ∨ w.kind = .string := by
    rw [← governing?_eq_string_iff, hGoverning, Option.some.injEq]
  unfold fault? liveFault? kindFault?
  simp only [hv, hw, hString, Bool.false_eq_true, or_self, if_false]
  split
  · rename_i hCarried
    rw [hString.mpr hCarried, divisionFault?_string, Option.or_none]
  · rename_i hNoString
    split
    · rfl
    · rw [Option.none_or]
      unfold divisionFault?
      by_cases hDivision : op = .div ∨ op = .rem
      · have hLadder : op.ladder = arithmeticLadder := by
          rcases hDivision with rfl | rfl <;> rfl
        rw [hLadder, governing?_arithmeticLadder hNoString] at hGoverning
        simp [hDivision, hGoverning]
      · simp [hDivision]

theorem BinaryOp.fault?_of_no_governing {op : BinaryOp} {v w : Value} (hv : v.isNull = false)
    (hw : w.isNull = false) (hGoverning : governing? op.ladder v.kind w.kind = none) :
    op.fault? v w = none := by
  obtain ⟨hk, hl⟩ := governing?_eq_none_iff.mp hGoverning
  simp [fault?, hv, hw, hk, hl, governing?]

/-! ## Division -/

/-- What `/` and `%` make in the domain of a kind: by one division, or by one of each component. -/
def BinaryOp.quotient (op : BinaryOp) (governing : Kind) (v w : Value) : Source :=
  let divide : Int64 → Int64 → Int64 := fun x y => if op = .div then x / y else x % y
  match governing with
  | .float => .float (if op = .div then v.float / w.float else Binary64.remainder v.float w.float)
  | .boolean => .boolean (divide v.integer w.integer != 0)
  | .pair => .pair ⟨divide v.pair.x w.pair.x, divide v.pair.y w.pair.y⟩
  | .integer | .string | .pointer => .integer (divide v.integer w.integer)

theorem BinaryOp.isZeroDivisor_of_liveFault?_eq_none {op : BinaryOp} {v w : Value}
    (hDivision : op = .div ∨ op = .rem) {governing : Kind}
    (hFault : op.liveFault? governing v w = none) : w.isZeroDivisor governing = false := by
  have hNone := (Option.or_eq_none_iff.mp hFault).2
  simpa [divisionFault?, hDivision] using hNone

theorem BinaryOp.inDomain_quotient {op : BinaryOp} (hDivision : op = .div ∨ op = .rem)
    {governing : Kind} (hString : governing ≠ .string) (hPointer : governing ≠ .pointer)
    {v w : Value} (hZero : w.isZeroDivisor governing = false) :
    op.inDomain governing v w = .ok (.ofSource (op.quotient governing v w)) := by
  cases governing with
  | string => exact absurd rfl hString
  | pointer => exact absurd rfl hPointer
  | float =>
    have hDivisor : (w.float == 0) = false := by
      rw [← w.isZeroDivisor_float, hZero]
    rcases hDivision with rfl | rfl <;> simp [inDomain, onFloats, hDivisor] <;> rfl
  | integer =>
    have hDivisor : w.integer ≠ 0 := by simpa [Value.isZeroDivisor] using hZero
    rcases hDivision with rfl | rfl <;>
      simp [inDomain, onIntegers, integerArithmetic, hDivisor, Except.map] <;> rfl
  | boolean =>
    have hDivisor : w.integer ≠ 0 := by simpa [Value.isZeroDivisor] using hZero
    rcases hDivision with rfl | rfl <;>
      simp [inDomain, onBooleans, integerArithmetic, hDivisor, Except.map] <;> rfl
  | pair =>
    have hDivisor : w.pair.hasZero = false := by
      rw [← w.isZeroDivisor_pair, hZero]
    rcases hDivision with rfl | rfl <;>
      simp [inDomain, onPairs, Pair.div, Pair.rem, hDivisor, Except.map] <;> rfl

/-- A division by what is no zero in the domain of the governing kind. -/
theorem Value.binary_quotient_of_governing {op : BinaryOp} (hDivision : op = .div ∨ op = .rem)
    {v w : Value} (hv : v.isNull = false) (hw : w.isNull = false) {governing : Kind}
    (hGoverning : governing? op.ladder v.kind w.kind = some governing)
    (hString : governing ≠ .string) (hZero : w.isZeroDivisor governing = false) :
    Value.binary op v w = .ok (.ofSource (op.quotient governing v w)) := by
  have hPointer : governing ≠ .pointer := fun h => BinaryOp.governing?_ne_pointer (h ▸ hGoverning)
  have hNe : op ≠ .notEqual := by rcases hDivision with rfl | rfl <;> decide
  have hAccepts : op.refusesFloat governing v.kind w.kind = false := by
    rcases hDivision with rfl | rfl <;> rfl
  rw [Value.binary_of_governing hNe hv hw hGoverning hAccepts]
  exact BinaryOp.inDomain_quotient hDivision hString hPointer hZero

/-- A division without a fault divides by what is no zero. -/
theorem Value.binary_quotient {op : BinaryOp} (hDivision : op = .div ∨ op = .rem) {v w : Value}
    (hv : v.isNull = false) (hw : w.isNull = false) {governing : Kind}
    (hGoverning : governing? op.ladder v.kind w.kind = some governing)
    (hFault : op.liveFault? governing v w = none) :
    Value.binary op v w = .ok (.ofSource (op.quotient governing v w)) := by
  have hString : governing ≠ .string := by
    rintro rfl
    have hNone := (Option.or_eq_none_iff.mp hFault).1
    rcases hDivision with rfl | rfl <;> cases hNone
  exact Value.binary_quotient_of_governing hDivision hv hw hGoverning hString
    (BinaryOp.isZeroDivisor_of_liveFault?_eq_none hDivision hFault)

/-! ## The errors of binary operators -/

/-- A binary operator fails exactly with the faults of `BinaryOp.fault?`. In every other case it
has a result, which is null exactly if both operands are pointers. What `/` and `%` make is then a
quotient in the domain of the governing kind, and no divisor in it is zero. -/
theorem binary_error_iff_fault (op : BinaryOp) (v w : Value) :
    (∀ e, Value.binary op v w = .error e ↔ op.fault? v w = some e) ∧
      (op.fault? v w = none →
        ∃ r, Value.binary op v w = .ok r ∧ (r.isNull = true ↔ r = .null) ∧
          (r = .null ↔ v.kind = .pointer ∧ w.kind = .pointer) ∧
          (op = .div ∨ op = .rem → ∀ governing,
            governing? op.ladder v.kind w.kind = some governing →
              r = .ofSource (op.quotient governing v w) ∧
                w.isZeroDivisor governing = false)) := by
  rcases Value.binary_cases op v w with
    ⟨hNull, hFails⟩ | ⟨hv, hw, hGoverning, hMakes⟩ | ⟨hv, hw, governing, hGoverning, hSettles⟩
  · have hFault : op.fault? v w = some (.nullOperand op.symbol) := by
      simp [BinaryOp.fault?, hNull]
    rw [hFails, hFault]
    simp
  · rw [hMakes, BinaryOp.fault?_of_no_governing hv hw hGoverning, hGoverning]
    simp [BinaryOp.governing?_eq_none_iff.mp hGoverning, Value.null]
  · rw [BinaryOp.fault?_of_governing hv hw hGoverning]
    refine ⟨hSettles.error_iff, fun hFault => ?_⟩
    rw [hFault] at hSettles
    obtain ⟨s, -, hRun⟩ := hSettles
    have hPointers : ¬(v.kind = .pointer ∧ w.kind = .pointer) := by
      rw [← BinaryOp.governing?_eq_none_iff, hGoverning]
      simp
    have hNotNull : Value.ofSource s ≠ .null := by
      intro h
      have hIsNull := congrArg Value.isNull h
      rw [Value.isNull_ofSource] at hIsNull
      cases hIsNull
    refine ⟨_, hRun, by simp [hNotNull], iff_of_false hNotNull hPointers, ?_⟩
    intro hDivision g hg
    cases hGoverning.symm.trans hg
    have hQuotient := Value.binary_quotient hDivision hv hw hGoverning hFault
    refine ⟨Except.ok.inj (hRun.symm.trans hQuotient), ?_⟩
    exact BinaryOp.isZeroDivisor_of_liveFault?_eq_none hDivision hFault

end ScriptValue
