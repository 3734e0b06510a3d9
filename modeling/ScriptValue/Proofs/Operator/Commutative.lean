import ScriptValue.Proofs.Binary64.Symmetry
import ScriptValue.Proofs.Operator.Outcome

/-!
# Operators that do not depend on the order of their operands

The governing kind of two operands is the same in either order, and so is the refusal of numbers
in floating point. What is left is one law for each domain: comparison, `*`, `&` and `|` give the
same result or the same error in either order, and `+` does too, but for the concatenation of
strings.

* `Value.binary_comm`: the law for all values, null and pointers included.
-/

namespace ScriptValue

/-! ## Pairs -/

namespace Pair

theorem zipWith_comm {f : Int64 → Int64 → Int64} (hComm : ∀ i j, f i j = f j i) (p q : Pair) :
    zipWith f p q = zipWith f q p := by
  simp only [zipWith, hComm p.x, hComm p.y]

theorem add_comm (p q : Pair) : p + q = q + p :=
  zipWith_comm Int64.add_comm p q

theorem mul_comm (p q : Pair) : p * q = q * p :=
  zipWith_comm Int64.mul_comm p q

theorem and_comm (p q : Pair) : p &&& q = q &&& p :=
  zipWith_comm Int64.and_comm p q

theorem or_comm (p q : Pair) : p ||| q = q ||| p :=
  zipWith_comm Int64.or_comm p q

end Pair

namespace BinaryOp

/-- The operators whose result does not depend on the order of the operands. A sum does if its
operands are strings. -/
def Commutes (op : BinaryOp) (governing : Kind) : Prop :=
  op ∈ [equal, notEqual, mul, bitAnd, bitOr] ∨ (op = add ∧ governing ≠ .string)

/-! ## Kinds -/

theorem governing?_comm (ladder : List Kind) (k l : Kind) :
    governing? ladder k l = governing? ladder l k := by
  simp only [governing?, Or.comm]

theorem refusesFloat_comm (op : BinaryOp) (governing k l : Kind) :
    op.refusesFloat governing k l = op.refusesFloat governing l k := by
  rw [Bool.eq_iff_iff, refusesFloat_eq, refusesFloat_eq, @Or.comm (k = .float)]

/-! ## Domains -/

theorem closeTo_comm (x y : Float) : closeTo x y = closeTo y x := by
  unfold closeTo
  rw [Binary64.abs_sub_comm]

theorem onStrings_comm {op : BinaryOp} (hCommutes : op.Commutes .string) (v w : Value) :
    op.onStrings v w = op.onStrings w v := by
  cases op with
  | equal => simp only [onStrings, BEq.comm]
  | add => simp [Commutes] at hCommutes
  | _ => rfl

theorem onFloats_comm {op : BinaryOp} (hCommutes : op.Commutes .float) (v w : Value) :
    op.onFloats v w = op.onFloats w v := by
  cases op with
  | equal => simp only [onFloats, closeTo_comm v.float]
  | add => simp only [onFloats, Binary64.add_comm v.float]
  | mul => simp only [onFloats, Binary64.mul_comm v.float]
  | notEqual | bitAnd | bitOr => rfl
  | sub | div | rem | pow => simp [Commutes] at hCommutes

theorem integerArithmetic_comm {op : BinaryOp} {governing : Kind}
    (hCommutes : op.Commutes governing) (v w : Value) :
    op.integerArithmetic v w = op.integerArithmetic w v := by
  cases op with
  | equal | notEqual => simp only [integerArithmetic, eq_comm]
  | add => simp only [integerArithmetic, Int64.add_comm v.integer]
  | mul => simp only [integerArithmetic, Int64.mul_comm v.integer]
  | bitAnd => simp only [integerArithmetic, Int64.and_comm v.integer]
  | bitOr => simp only [integerArithmetic, Int64.or_comm v.integer]
  | sub | div | rem | pow => simp [Commutes] at hCommutes

theorem onIntegers_comm {op : BinaryOp} (hCommutes : op.Commutes .integer) (v w : Value) :
    op.onIntegers v w = op.onIntegers w v := by
  unfold onIntegers
  rw [integerArithmetic_comm hCommutes, BEq.comm]

theorem onBooleans_comm {op : BinaryOp} (hCommutes : op.Commutes .boolean) (v w : Value) :
    op.onBooleans v w = op.onBooleans w v := by
  have hArithmetic := integerArithmetic_comm hCommutes v w
  cases op with
  | equal => simp only [onBooleans, BEq.comm]
  | bitAnd => simp only [onBooleans, Bool.and_comm]
  | bitOr => simp only [onBooleans, Bool.or_comm]
  | _ => simp only [onBooleans, hArithmetic]

theorem onPairs_comm {op : BinaryOp} (hCommutes : op.Commutes .pair) (v w : Value) :
    op.onPairs v w = op.onPairs w v := by
  cases op with
  | equal | notEqual => simp only [onPairs, BEq.comm]
  | add => simp only [onPairs, Pair.add_comm v.pair]
  | mul => simp only [onPairs, Pair.mul_comm v.pair]
  | bitAnd => simp only [onPairs, Pair.and_comm v.pair]
  | bitOr => simp only [onPairs, Pair.or_comm v.pair]
  | sub | div | rem | pow => simp [Commutes] at hCommutes

theorem inDomain_comm {op : BinaryOp} {governing : Kind} (hCommutes : op.Commutes governing)
    (v w : Value) : op.inDomain governing v w = op.inDomain governing w v := by
  cases governing with
  | string => exact onStrings_comm hCommutes v w
  | float => exact onFloats_comm hCommutes v w
  | integer => exact onIntegers_comm hCommutes v w
  | boolean => exact onBooleans_comm hCommutes v w
  | pair => exact onPairs_comm hCommutes v w
  | pointer => rfl

/-! ## Application -/

theorem dispatch_comm {op : BinaryOp} {v w : Value}
    (hCommutes : ∀ governing, governing? op.ladder v.kind w.kind = some governing →
      op.Commutes governing) :
    op.dispatch v w = op.dispatch w v := by
  unfold dispatch
  rw [governing?_comm op.ladder w.kind]
  cases hGoverning : governing? op.ladder v.kind w.kind with
  | none => rfl
  | some governing =>
    simp only [refusesFloat_comm op governing w.kind,
      inDomain_comm (hCommutes governing hGoverning) v w]

end BinaryOp

/-- Comparison, `*`, `&` and `|` give the same value or the same error in either order of the
operands, and so does `+` if neither operand is a string. Null counts as a string, but fails in
either order. -/
theorem Value.binary_comm {op : BinaryOp} {v w : Value}
    (hOp : op ∈ [.equal, .notEqual, .mul, .bitAnd, .bitOr] ∨
      (op = .add ∧ (v.kind = .string → v.isNull = true) ∧ (w.kind = .string → w.isNull = true))) :
    Value.binary op v w = Value.binary op w v := by
  by_cases hNull : v.isNull = true ∨ w.isNull = true
  · rw [Value.binary_of_null op hNull, Value.binary_of_null op hNull.symm]
  · obtain ⟨hv, hw⟩ : v.isNull = false ∧ w.isNull = false := by simpa using hNull
    have hDispatch : op.dispatch v w = op.dispatch w v := by
      refine BinaryOp.dispatch_comm fun governing hGoverning => hOp.imp_right ?_
      rintro ⟨hAdd, hLeft, hRight⟩
      refine ⟨hAdd, ?_⟩
      rintro rfl
      -- an operand that makes strings govern would be null
      rcases BinaryOp.governing?_carried hGoverning with hString | hString
      · exact absurd (hLeft hString) (by simp [hv])
      · exact absurd (hRight hString) (by simp [hw])
    have hEqual : BinaryOp.dispatch .equal v w = BinaryOp.dispatch .equal w v :=
      BinaryOp.dispatch_comm fun _ _ => Or.inl (by decide)
    simp only [Value.binary, hv, hw, hDispatch, hEqual]

/-- A pointer whose name reads as a number, and a number in floating point. -/
theorem Value.binary_comm_pointer_float :
    Value.binary .add (.ofPointer "7") (.ofFloat Binary64.nan) =
      Value.binary .add (.ofFloat Binary64.nan) (.ofPointer "7") :=
  Value.binary_comm (Or.inr ⟨rfl, by decide, by decide⟩)

end ScriptValue
