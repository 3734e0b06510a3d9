import ScriptValue.Proofs.Binary64.Equality
import ScriptValue.Proofs.Operator.Componentwise

/-!
# Comparison

The operator `==` reads both operands in the domain of their governing kind and tells whether they
agree there. It fails on null only, and `!=` gives the opposite. Two pointers have no governing
kind and are not compared at all.

Values with the same representation agree, and so compare equal, but for infinities: numbers in
floating point agree if they are close to each other, and an infinity has no distance to itself.

* `Value.binary_comparison`: both operators on operands with a governing kind.
* `Value.comparison_cases`: all that the two operators can do.
* `Value.agrees_of_same`, `Value.equal_of_same`: values with the same representation.
-/

namespace ScriptValue

/-- Numbers that compare equal are close to each other, unless they are infinite. -/
theorem closeTo_of_beq {x y : Float} (h : (x == y) = true) : closeTo x y = !x.isInf := by
  rw [closeTo, Binary64.abs_sub_of_beq h]
  cases x.isInf <;> rfl

namespace Value

/-! ## Both operators -/

/-- Whether two values agree in the domain of a kind. Pointers are not compared. -/
def agrees (governing : Kind) (v w : Value) : Bool :=
  match governing with
  | .string => v.string == w.string
  | .float => closeTo v.float w.float
  | .integer => v.integer == w.integer
  | .boolean => v.boolean == w.boolean
  | .pair => v.pair == w.pair
  | .pointer => false

variable {v w : Value} {governing : Kind}

theorem dispatch_equal (hGoverning : governing? arithmeticLadder v.kind w.kind = some governing) :
    BinaryOp.dispatch .equal v w = .ok (.ofBoolean (agrees governing v w)) := by
  have hLadder : governing? (BinaryOp.ladder .equal) v.kind w.kind = some governing := hGoverning
  rw [BinaryOp.dispatch_of_governing hLadder rfl]
  cases governing with
  | pointer => exact absurd hLadder BinaryOp.governing?_ne_pointer
  | _ => rfl

/-- Operands with a governing kind compare by what they are in its domain. -/
theorem binary_comparison (hv : v.isNull = false) (hw : w.isNull = false)
    (hGoverning : governing? arithmeticLadder v.kind w.kind = some governing) :
    Value.binary .equal v w = .ok (.ofBoolean (agrees governing v w)) ∧
      Value.binary .notEqual v w = .ok (.ofBoolean (!agrees governing v w)) := by
  have hEqual := dispatch_equal hGoverning
  unfold Value.binary
  simp only [hv, hw, Bool.or_self, Bool.false_eq_true, if_false, hEqual]
  exact ⟨rfl, rfl⟩

/-- Comparison fails on null, makes null of two pointers, and otherwise makes opposite truth
values of two operands, whatever these are. -/
theorem comparison_cases (v w : Value) :
    ((v.isNull = true ∨ w.isNull = true) ∧
        Value.binary .equal v w = .error (.nullOperand "==") ∧
        Value.binary .notEqual v w = .error (.nullOperand "!=")) ∨
      ((v.isNull = false ∧ w.isNull = false) ∧ (v.kind = .pointer ∧ w.kind = .pointer) ∧
        Value.binary .equal v w = .ok .null ∧ Value.binary .notEqual v w = .ok .null) ∨
      ((v.isNull = false ∧ w.isNull = false) ∧ ¬(v.kind = .pointer ∧ w.kind = .pointer) ∧
        ∃ b, Value.binary .equal v w = .ok (.ofBoolean b) ∧
          Value.binary .notEqual v w = .ok (.ofBoolean (!b))) := by
  by_cases hNull : v.isNull = true ∨ w.isNull = true
  · exact .inl ⟨hNull, Value.binary_of_null .equal hNull, Value.binary_of_null .notEqual hNull⟩
  · obtain ⟨hv, hw⟩ : v.isNull = false ∧ w.isNull = false := by simpa using hNull
    have hNone : governing? arithmeticLadder v.kind w.kind = none ↔
        v.kind = .pointer ∧ w.kind = .pointer := @BinaryOp.governing?_eq_none_iff .equal _ _
    right
    cases hGoverning : governing? arithmeticLadder v.kind w.kind with
    | none =>
      exact .inl ⟨⟨hv, hw⟩, hNone.mp hGoverning, Value.binary_of_no_governing hv hw hGoverning,
        Value.binary_of_no_governing hv hw hGoverning⟩
    | some governing =>
      have hKinds : ¬(v.kind = .pointer ∧ w.kind = .pointer) := by
        rw [← hNone, hGoverning]
        exact Option.some_ne_none governing
      exact .inr ⟨⟨hv, hw⟩, hKinds, agrees governing v w, binary_comparison hv hw hGoverning⟩

/-! ## Values with the same representation -/

def isNaN (v : Value) : Bool :=
  v.kind == .float && v.float.isNaN

def isInfinity (v : Value) : Bool :=
  v.kind == .float && v.float.isInf

/-- The same representation is agreement in the domain of the kind, but for infinities. -/
theorem agrees_of_same (hv : v.isNull = false) (hPointer : v.kind ≠ .pointer)
    (hSame : v.same w = true) :
    w.isNull = false ∧ w.kind = v.kind ∧ agrees v.kind v w = !v.isInfinity := by
  unfold same at hSame
  cases hw : w.isNull with
  | true => simp [hv, hw] at hSame
  | false =>
    simp only [hv, hw, Bool.or_self, Bool.false_eq_true, if_false, Bool.and_eq_true,
      beq_iff_eq] at hSame
    obtain ⟨hKind, hSource⟩ := hSame
    refine ⟨rfl, hKind.symm, ?_⟩
    unfold agrees isInfinity
    cases hCase : v.kind with
    | pointer => exact absurd hCase hPointer
    | float =>
      rw [hCase] at hSource
      exact closeTo_of_beq hSource
    | _ =>
      rw [hCase] at hSource
      exact hSource

theorem same_self (hNaN : v.isNaN = false) : v.same v = true := by
  unfold same
  cases v.isNull with
  | true => rfl
  | false =>
    cases hKind : v.kind with
    | float =>
      rw [isNaN, hKind] at hNaN
      exact Binary64.beq_iff.mpr (Or.inl ⟨rfl, hNaN⟩)
    | _ => simp

/-- Values with the same representation compare equal, except infinities, which do not even
compare equal to themselves. So `==` is reflexive on all values that are neither null nor pointers
nor numbers that are not finite. -/
theorem equal_of_same (hv : v.isNull = false) (hPointer : v.kind ≠ .pointer) :
    (∀ w, v.same w = true →
      Value.binary .equal v w = .ok (.ofBoolean (!v.isInfinity)) ∧
        Value.binary .notEqual v w = .ok (.ofBoolean v.isInfinity)) ∧
    (v.isNaN = false → v.isInfinity = false →
      Value.binary .equal v v = .ok (.ofBoolean true)) := by
  have hCompare : ∀ w, v.same w = true →
      Value.binary .equal v w = .ok (.ofBoolean (!v.isInfinity)) ∧
        Value.binary .notEqual v w = .ok (.ofBoolean v.isInfinity) := by
    intro w hSame
    obtain ⟨hw, hKind, hAgrees⟩ := agrees_of_same hv hPointer hSame
    have hGoverning : governing? arithmeticLadder v.kind w.kind = some v.kind := by
      rw [hKind]
      exact BinaryOp.governing?_self .equal hPointer
    have hRun := binary_comparison hv hw hGoverning
    rwa [hAgrees, Bool.not_not] at hRun
  refine ⟨hCompare, fun hNaN hInfinity => ?_⟩
  have hRun := (hCompare v (same_self hNaN)).1
  rwa [hInfinity] at hRun

/-- The two zeros have the same representation. -/
theorem equal_of_same_zeros :
    Value.binary .equal (.ofFloat (Binary64.zero false)) (.ofFloat (Binary64.zero true)) =
        .ok (.ofBoolean true) ∧
      Value.binary .notEqual (.ofFloat (Binary64.zero false)) (.ofFloat (Binary64.zero true)) =
        .ok (.ofBoolean false) ∧
      Value.binary .equal (.ofFloat (Binary64.zero true)) (.ofFloat (Binary64.zero true)) =
        .ok (.ofBoolean true) :=
  have hPositive := (@equal_of_same (.ofFloat (Binary64.zero false)) rfl (by decide)).1
    (.ofFloat (Binary64.zero true)) rfl
  have hNegative := (@equal_of_same (.ofFloat (Binary64.zero true)) rfl (by decide)).2 rfl rfl
  ⟨hPositive.1, hPositive.2, hNegative⟩

/-- An infinity has its own representation, but does not compare equal to itself. -/
theorem not_equal_infinity :
    (ofFloat (Binary64.infinity false)).isNull = false ∧
      (ofFloat (Binary64.infinity false)).kind = .float ∧
      (ofFloat (Binary64.infinity false)).isNaN = false ∧
      (ofFloat (Binary64.infinity false)).same (ofFloat (Binary64.infinity false)) = true ∧
      Value.binary .equal (ofFloat (Binary64.infinity false)) (ofFloat (Binary64.infinity false)) =
        .ok (.ofBoolean false) ∧
      Value.binary .notEqual (ofFloat (Binary64.infinity false))
        (ofFloat (Binary64.infinity false)) = .ok (.ofBoolean true) :=
  ⟨rfl, rfl, rfl, rfl, rfl, rfl⟩

end Value

end ScriptValue
