import ScriptValue.Proofs.Operator.Outcome

/-!
# What an operator reads of its operands

A binary operator looks at the kinds of its operands to find the governing kind, and then at one
reading of each of them. Mostly this is the reading in the domain that governs. Only calculations
with integers and booleans go elsewhere: a power reads numbers in floating point, and the other
arithmetic on booleans reads integers.

* `BinaryOp.readKind`: the reading that counts.
* `Value.binary_eq_of_readings`: nothing else of the operands has an influence on the outcome.
-/

namespace ScriptValue

/-- The reading of a value that a kind picks out, whatever the kind of the value is. -/
def Value.reading (v : Value) (k : Kind) : Source :=
  .ofReadings k v.toReadings

namespace BinaryOp

/-- The reading that counts for booleans. -/
def booleanReadKind : BinaryOp → Kind
  | equal | notEqual | bitAnd | bitOr => .boolean
  | pow => .float
  | add | sub | mul | div | rem => .integer

/-- The reading of both operands that counts under a governing kind. -/
def readKind (op : BinaryOp) (governing : Kind) : Kind :=
  match governing with
  | .integer => if op = pow then .float else .integer
  | .boolean => op.booleanReadKind
  | .string | .float | .pair | .pointer => governing

/-! ## Domains -/

section Domains

variable {op : BinaryOp} {v w v' w' : Value}

theorem onStrings_eq_of_readings (hLeft : v.string = v'.string) (hRight : w.string = w'.string) :
    op.onStrings v w = op.onStrings v' w' := by
  simp only [onStrings, hLeft, hRight]

theorem onFloats_eq_of_readings (hLeft : v.float = v'.float) (hRight : w.float = w'.float) :
    op.onFloats v w = op.onFloats v' w' := by
  simp only [onFloats, hLeft, hRight]

theorem onPairs_eq_of_readings (hLeft : v.pair = v'.pair) (hRight : w.pair = w'.pair) :
    op.onPairs v w = op.onPairs v' w' := by
  simp only [onPairs, hLeft, hRight]

/-- Integer arithmetic reads numbers in floating point for a power, and integers otherwise. -/
theorem integerArithmetic_eq_of_readings
    (hLeft : v.reading (op.readKind .integer) = v'.reading (op.readKind .integer))
    (hRight : w.reading (op.readKind .integer) = w'.reading (op.readKind .integer)) :
    op.integerArithmetic v w = op.integerArithmetic v' w' := by
  cases op with
  | pow =>
    have hBase : v.float = v'.float := Source.float.inj hLeft
    have hExponent : w.float = w'.float := Source.float.inj hRight
    simp only [integerArithmetic, hBase, hExponent]
  | _ =>
    have hFirst : v.integer = v'.integer := Source.integer.inj hLeft
    have hSecond : w.integer = w'.integer := Source.integer.inj hRight
    simp only [integerArithmetic, hFirst, hSecond]

theorem onIntegers_eq_of_readings
    (hLeft : v.reading (op.readKind .integer) = v'.reading (op.readKind .integer))
    (hRight : w.reading (op.readKind .integer) = w'.reading (op.readKind .integer)) :
    op.onIntegers v w = op.onIntegers v' w' := by
  have hArithmetic := integerArithmetic_eq_of_readings hLeft hRight
  by_cases hEqual : op = .equal
  · subst hEqual
    have hFirst : v.integer = v'.integer := Source.integer.inj hLeft
    have hSecond : w.integer = w'.integer := Source.integer.inj hRight
    simp only [onIntegers, hFirst, hSecond, if_true]
  · simp only [onIntegers, hEqual, if_false, hArithmetic]

/-- The operator `!=` is left out: its arm, which no operands get to, calculates with integers. -/
theorem onBooleans_eq_of_readings (hNe : op ≠ .notEqual)
    (hLeft : v.reading (op.readKind .boolean) = v'.reading (op.readKind .boolean))
    (hRight : w.reading (op.readKind .boolean) = w'.reading (op.readKind .boolean)) :
    op.onBooleans v w = op.onBooleans v' w' := by
  have hArithmetic (hSame : op.readKind .boolean = op.readKind .integer) :
      op.integerArithmetic v w = op.integerArithmetic v' w' :=
    integerArithmetic_eq_of_readings (hSame ▸ hLeft) (hSame ▸ hRight)
  cases op with
  | notEqual => exact absurd rfl hNe
  | equal | bitAnd | bitOr =>
    have hFirst : v.boolean = v'.boolean := Source.boolean.inj hLeft
    have hSecond : w.boolean = w'.boolean := Source.boolean.inj hRight
    simp only [onBooleans, hFirst, hSecond]
  | _ => simp only [onBooleans, hArithmetic rfl]

theorem inDomain_eq_of_readings (hNe : op ≠ .notEqual) {governing : Kind}
    (hLeft : v.reading (op.readKind governing) = v'.reading (op.readKind governing))
    (hRight : w.reading (op.readKind governing) = w'.reading (op.readKind governing)) :
    op.inDomain governing v w = op.inDomain governing v' w' := by
  cases governing with
  | string =>
    exact onStrings_eq_of_readings (Source.string.inj hLeft) (Source.string.inj hRight)
  | float => exact onFloats_eq_of_readings (Source.float.inj hLeft) (Source.float.inj hRight)
  | integer => exact onIntegers_eq_of_readings hLeft hRight
  | boolean => exact onBooleans_eq_of_readings hNe hLeft hRight
  | pair => exact onPairs_eq_of_readings (Source.pair.inj hLeft) (Source.pair.inj hRight)
  | pointer => rfl

/-! ## Application -/

theorem refusesFloat_eq_false {governing k l : Kind}
    (hFloat : op.isLogical = true → k ≠ .float ∧ l ≠ .float) :
    op.refusesFloat governing k l = false := by
  cases hLogical : op.isLogical with
  | false => simp [refusesFloat, hLogical]
  | true => simp [refusesFloat, hFloat hLogical]

theorem dispatch_eq_of_readings (hNe : op ≠ .notEqual) {governing : Kind}
    (hGoverning : governing? op.ladder v.kind w.kind = some governing)
    (hGoverning' : governing? op.ladder v'.kind w'.kind = some governing)
    (hFloat : op.isLogical = true → v.kind ≠ .float ∧ w.kind ≠ .float)
    (hFloat' : op.isLogical = true → v'.kind ≠ .float ∧ w'.kind ≠ .float)
    (hLeft : v.reading (op.readKind governing) = v'.reading (op.readKind governing))
    (hRight : w.reading (op.readKind governing) = w'.reading (op.readKind governing)) :
    op.dispatch v w = op.dispatch v' w' := by
  rw [dispatch_of_governing hGoverning (refusesFloat_eq_false hFloat),
    dispatch_of_governing hGoverning' (refusesFloat_eq_false hFloat'),
    inDomain_eq_of_readings hNe hLeft hRight]

end Domains

end BinaryOp

/-- Two pairs of operands with the same governing kind have the same outcome, a value with all its
readings or an error, if they agree on the reading that counts. For `&` and `|` no operand may be
a number in floating point, since these operators refuse it by its kind. -/
theorem Value.binary_eq_of_readings {op : BinaryOp} {v w v' w' : Value} {governing : Kind}
    (hv : v.isNull = false) (hw : w.isNull = false)
    (hv' : v'.isNull = false) (hw' : w'.isNull = false)
    (hGoverning : governing? op.ladder v.kind w.kind = some governing)
    (hGoverning' : governing? op.ladder v'.kind w'.kind = some governing)
    (hFloat : op.isLogical = true → v.kind ≠ .float ∧ w.kind ≠ .float)
    (hFloat' : op.isLogical = true → v'.kind ≠ .float ∧ w'.kind ≠ .float)
    (hLeft : v.reading (op.readKind governing) = v'.reading (op.readKind governing))
    (hRight : w.reading (op.readKind governing) = w'.reading (op.readKind governing)) :
    Value.binary op v w = Value.binary op v' w' := by
  unfold Value.binary
  simp only [hv, hw, hv', hw', Bool.or_self, Bool.false_eq_true, if_false]
  by_cases hNe : op = .notEqual
  · subst hNe
    -- `!=` is `==` negated, which has the same ladder and reads the same
    have hEqual : BinaryOp.dispatch .equal v w = BinaryOp.dispatch .equal v' w' := by
      refine BinaryOp.dispatch_eq_of_readings (by decide) hGoverning hGoverning' hFloat hFloat'
        ?_ ?_
      · cases governing <;> exact hLeft
      · cases governing <;> exact hRight
    simp only [hEqual, if_true]
  · simp only [hNe, if_false,
      BinaryOp.dispatch_eq_of_readings hNe hGoverning hGoverning' hFloat hFloat' hLeft hRight]

/-- In a power with an integer, pointers to `0.5` and to ` 0.50 ` both count as a half, though
their names differ and read as the integer zero. -/
theorem Value.binary_eq_of_readings_half :
    Value.binary .pow (.ofInteger 9) (.ofPointer "0.5") =
      Value.binary .pow (.ofInteger 9) (.ofPointer " 0.50 ") :=
  have hInteger : governing? (BinaryOp.ladder .pow) .integer .pointer = some .integer := rfl
  Value.binary_eq_of_readings rfl rfl rfl rfl hInteger hInteger (by decide) (by decide) rfl
    (by decide +kernel)

end ScriptValue
