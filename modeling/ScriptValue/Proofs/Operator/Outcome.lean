import ScriptValue.Operator.Binary
import ScriptValue.Operator.Unary
import ScriptValue.Proofs.Binary64.Special

/-!
# Outcomes of operators

An operator on operands that are not null either fails with a fault that is told from the kinds
and the divisor alone, or makes a value of a kind that is told from the kinds alone. For binary
operators this is said once for each domain (`onStrings_settles`, …, `onPairs_settles`) and put
together for all of them.

* `Value.binary_cases`: all that a binary operator can do.
* `Value.unary_cases`: all that a unary operator can do.

The operations in one domain have arms for operators that never get there, and these arms answer
with errors and values of their own. So the lemmas on the domains leave out `!=`, and the one on
numbers in floating point also `&` and `|`.
-/

namespace ScriptValue

/-! ## Outcomes -/

/-- A run that fails with the given fault or, if there is none, makes a value of the given kind
from a source. -/
def Settles (x : Except OperatorError Value) (fault : Option OperatorError) (kind : Kind) : Prop :=
  match fault with
  | some e => x = .error e
  | none => ∃ s : Source, s.kind = kind ∧ x = .ok (.ofSource s)

theorem settles_ok (s : Source) : Settles (.ok (.ofSource s)) none s.kind :=
  ⟨s, rfl, rfl⟩

theorem Settles.error_iff {x : Except OperatorError Value} {fault : Option OperatorError}
    {kind : Kind} (h : Settles x fault kind) (e : OperatorError) :
    x = .error e ↔ fault = some e := by
  cases fault with
  | some e' =>
    have hx : x = .error e' := h
    simp [hx]
  | none =>
    obtain ⟨s, -, rfl⟩ := h
    simp

theorem Settles.source_of_ok {x : Except OperatorError Value} {fault : Option OperatorError}
    {kind : Kind} (h : Settles x fault kind) {r : Value} (hRun : x = .ok r) :
    ∃ s : Source, s.kind = kind ∧ r = .ofSource s := by
  cases fault with
  | some e =>
    have hx : x = .error e := h
    cases hx.symm.trans hRun
  | none =>
    obtain ⟨s, hKind, hx⟩ := h
    cases hx.symm.trans hRun
    exact ⟨s, hKind, rfl⟩

/-! ## Division -/

/-- Whether a value is a zero divisor when it is read in the domain of a kind. -/
def Value.isZeroDivisor (w : Value) (governing : Kind) : Bool :=
  match governing with
  | .float => w.float = Binary64.zero false ∨ w.float = Binary64.zero true
  | .integer | .boolean => w.integer = 0
  | .pair => w.pair.x = 0 ∨ w.pair.y = 0
  | .string | .pointer => false

theorem Value.isZeroDivisor_float (w : Value) : w.isZeroDivisor .float = (w.float == 0) := by
  rw [Bool.eq_iff_iff, Binary64.beq_zero_iff]
  simp [isZeroDivisor]

theorem Value.isZeroDivisor_pair (w : Value) : w.isZeroDivisor .pair = w.pair.hasZero := by
  rw [Bool.eq_iff_iff]
  simp [isZeroDivisor, Pair.hasZero]

namespace BinaryOp

def divisionFault? (op : BinaryOp) (governing : Kind) (w : Value) : Option OperatorError :=
  if (op = .div ∨ op = .rem) ∧ w.isZeroDivisor governing then some (.zeroDivisor op.symbol)
  else none

/-- The kind of the result in the domain of a kind: a comparison gives a boolean. -/
def resultKind (op : BinaryOp) (governing : Kind) : Kind :=
  if op = .equal ∨ op = .notEqual then .boolean else governing

/-! ## Domains -/

theorem onStrings_settles (op : BinaryOp) (v w : Value) :
    Settles (op.onStrings v w)
      (if op = .equal ∨ op = .add then none else some (.invalid (.binary op .string)))
      (op.resultKind .string) := by
  cases op with
  | equal => exact settles_ok (.boolean _)
  | add => exact settles_ok (.string _)
  | _ => rfl

theorem onFloats_settles {op : BinaryOp} (hNe : op ≠ .notEqual) (hLogical : op.isLogical = false)
    (v w : Value) :
    Settles (op.onFloats v w) (op.divisionFault? .float w) (op.resultKind .float) := by
  have hZero := w.isZeroDivisor_float
  cases op with
  | notEqual => exact absurd rfl hNe
  | bitAnd | bitOr => cases hLogical
  | equal => exact settles_ok (.boolean _)
  | add | sub | mul | pow => exact settles_ok (.float _)
  | div | rem =>
    simp only [onFloats, divisionFault?, hZero, true_or, or_true, true_and]
    split
    · rfl
    · exact settles_ok (.float _)

theorem integerArithmetic_eq (op : BinaryOp) (v w : Value) :
    (∃ e, op.divisionFault? .integer w = some e ∧ op.integerArithmetic v w = .error e) ∨
      (op.divisionFault? .integer w = none ∧ ∃ n, op.integerArithmetic v w = .ok n) := by
  cases op with
  | div | rem =>
    by_cases hZero : w.integer = 0
    · refine Or.inl ⟨_, by simp [divisionFault?, Value.isZeroDivisor, hZero]; rfl, ?_⟩
      simp [integerArithmetic, hZero, divideByZero]
    · refine Or.inr ⟨by simp [divisionFault?, Value.isZeroDivisor, hZero], ?_⟩
      simp [integerArithmetic, hZero]
  | _ => exact Or.inr ⟨rfl, _, rfl⟩

/-- What is made of the number that integer arithmetic gives has the kind of what is made. -/
theorem settles_map_integerArithmetic (op : BinaryOp) (v w : Value) {kind : Kind}
    (make : Int64 → Source) (hMake : ∀ n, (make n).kind = kind) :
    Settles ((op.integerArithmetic v w).map fun n => .ofSource (make n))
      (op.divisionFault? .integer w) kind := by
  rcases op.integerArithmetic_eq v w with ⟨e, hFault, hRun⟩ | ⟨hFault, n, hRun⟩
  · rw [hFault, hRun]
    rfl
  · rw [hFault, hRun]
    exact ⟨make n, hMake n, rfl⟩

theorem onIntegers_settles {op : BinaryOp} (hNe : op ≠ .notEqual) (v w : Value) :
    Settles (op.onIntegers v w) (op.divisionFault? .integer w) (op.resultKind .integer) := by
  by_cases hEqual : op = .equal
  · subst hEqual
    exact settles_ok (.boolean _)
  · simp only [onIntegers, resultKind, hEqual, hNe, if_false, or_self]
    exact op.settles_map_integerArithmetic v w .integer fun _ => rfl

theorem onBooleans_settles {op : BinaryOp} (hNe : op ≠ .notEqual) (v w : Value) :
    Settles (op.onBooleans v w) (op.divisionFault? .boolean w) (op.resultKind .boolean) := by
  have hArithmetic := op.settles_map_integerArithmetic v w (fun n => .boolean (n != 0))
    fun _ => rfl
  cases op with
  | notEqual => exact absurd rfl hNe
  | equal | bitAnd | bitOr => exact settles_ok (.boolean _)
  | _ => exact hArithmetic

theorem onPairs_settles {op : BinaryOp} (hNe : op ≠ .notEqual) (v w : Value) :
    Settles (op.onPairs v w) (op.divisionFault? .pair w) (op.resultKind .pair) := by
  have hZero := w.isZeroDivisor_pair
  cases op with
  | notEqual => exact absurd rfl hNe
  | equal => exact settles_ok (.boolean _)
  | div | rem =>
    simp only [onPairs, Pair.div, Pair.rem, divisionFault?, hZero, true_or, or_true, true_and]
    split
    · rfl
    · exact settles_ok (.pair _)
  | _ => exact settles_ok (.pair _)

/-! ## Governing kinds -/

theorem governing?_eq_none_iff {op : BinaryOp} {k l : Kind} :
    governing? op.ladder k l = none ↔ k = .pointer ∧ l = .pointer := by
  unfold ladder
  split <;> cases k <;> cases l <;> decide

theorem governing?_eq_string_iff {op : BinaryOp} {k l : Kind} :
    governing? op.ladder k l = some .string ↔ k = .string ∨ l = .string := by
  unfold ladder
  split <;> cases k <;> cases l <;> decide

theorem governing?_ne_pointer {op : BinaryOp} {k l : Kind} :
    governing? op.ladder k l ≠ some .pointer := by
  unfold ladder
  split <;> cases k <;> cases l <;> decide

/-- Without a string, the ladder of arithmetic starts with the numbers in floating point. -/
theorem governing?_arithmeticLadder {k l : Kind} (h : ¬(k = .string ∨ l = .string)) :
    governing? arithmeticLadder k l = governing? [.float, .integer, .boolean, .pair] k l := by
  simp [governing?, arithmeticLadder, List.find?_cons, h]

/-! ## Operands that are not null -/

/-- The fault of two kinds under a governing kind. -/
def kindFault? (op : BinaryOp) (governing k l : Kind) : Option OperatorError :=
  if governing = .string then
    if op = .equal ∨ op = .notEqual ∨ op = .add then none
    else some (.invalid (.binary op .string))
  else if (op = .bitAnd ∨ op = .bitOr) ∧ (k = .float ∨ l = .float) then
    some (.invalid (.binary op .float))
  else none

/-- The fault of an operator on two operands that are not null, under a governing kind. A fault of
the kinds counts before a zero divisor. -/
def liveFault? (op : BinaryOp) (governing : Kind) (v w : Value) : Option OperatorError :=
  (op.kindFault? governing v.kind w.kind).or (op.divisionFault? governing w)

@[simp]
theorem divisionFault?_string (op : BinaryOp) (w : Value) :
    op.divisionFault? .string w = none := by
  simp [divisionFault?, Value.isZeroDivisor]

theorem refusesFloat_eq (op : BinaryOp) (governing k l : Kind) :
    op.refusesFloat governing k l = true ↔
      governing ≠ .string ∧ (op = .bitAnd ∨ op = .bitOr) ∧ (k = .float ∨ l = .float) := by
  cases op <;> simp [refusesFloat, isLogical]

theorem inDomain_settles {op : BinaryOp} (hNe : op ≠ .notEqual) {governing : Kind}
    (hPointer : governing ≠ .pointer) (hString : governing ≠ .string)
    (hFloat : op.isLogical = true → governing ≠ .float) (v w : Value) :
    Settles (op.inDomain governing v w) (op.divisionFault? governing w)
      (op.resultKind governing) := by
  cases governing with
  | pointer => exact absurd rfl hPointer
  | string => exact absurd rfl hString
  | float =>
    have hLogical : op.isLogical = false := by
      rw [← Bool.not_eq_true]
      exact fun h => hFloat h rfl
    exact onFloats_settles hNe hLogical v w
  | integer => exact onIntegers_settles hNe v w
  | boolean => exact onBooleans_settles hNe v w
  | pair => exact onPairs_settles hNe v w

theorem governing?_carried {ladder : List Kind} {k l governing : Kind}
    (h : governing? ladder k l = some governing) : k = governing ∨ l = governing := by
  simpa [governing?] using List.find?_some h

/-- An operator that accepts the kinds of its operands works in the domain of the governing one. -/
theorem dispatch_of_governing {op : BinaryOp} {v w : Value} {governing : Kind}
    (hGoverning : governing? op.ladder v.kind w.kind = some governing)
    (hAccepts : op.refusesFloat governing v.kind w.kind = false) :
    op.dispatch v w = op.inDomain governing v w := by
  simp only [dispatch, hGoverning, hAccepts, Bool.false_eq_true, if_false]

theorem dispatch_settles {op : BinaryOp} (hNe : op ≠ .notEqual) {governing : Kind} {v w : Value}
    (hGoverning : governing? op.ladder v.kind w.kind = some governing) :
    Settles (op.dispatch v w) (op.liveFault? governing v w) (op.resultKind governing) := by
  unfold dispatch liveFault? kindFault?
  simp only [hGoverning, refusesFloat_eq]
  by_cases hString : governing = .string
  · subst hString
    simpa [hNe, inDomain] using op.onStrings_settles v w
  · simp only [hString, if_false, ne_eq, not_false_eq_true, true_and]
    split
    · rfl
    · rename_i hFloat
      refine inDomain_settles hNe (fun h => governing?_ne_pointer (h ▸ hGoverning)) hString ?_ v w
      -- a governing kind is carried by an operand, so a float would have been refused
      rintro hLogical rfl
      refine hFloat ⟨?_, governing?_carried hGoverning⟩
      cases op <;> simp_all [isLogical]

end BinaryOp

/-! ## Binary operators -/

theorem Value.binary_of_null (op : BinaryOp) {v w : Value} (h : v.isNull = true ∨ w.isNull = true) :
    Value.binary op v w = .error (.nullOperand op.symbol) := by
  simp [Value.binary, h]

theorem Value.binary_of_governing {op : BinaryOp} (hNe : op ≠ .notEqual) {v w : Value}
    (hv : v.isNull = false) (hw : w.isNull = false) {governing : Kind}
    (hGoverning : governing? op.ladder v.kind w.kind = some governing)
    (hAccepts : op.refusesFloat governing v.kind w.kind = false) :
    Value.binary op v w = op.inDomain governing v w := by
  unfold Value.binary
  simp only [hv, hw, hNe, Bool.or_self, Bool.false_eq_true, if_false]
  exact BinaryOp.dispatch_of_governing hGoverning hAccepts

/-- Two operands with a governing kind: the operator fails with its fault under this kind, or
makes a value of its kind. -/
theorem Value.binary_settles {op : BinaryOp} {v w : Value} (hv : v.isNull = false)
    (hw : w.isNull = false) {governing : Kind}
    (hGoverning : governing? op.ladder v.kind w.kind = some governing) :
    Settles (Value.binary op v w) (op.liveFault? governing v w) (op.resultKind governing) := by
  unfold Value.binary
  simp only [hv, hw, Bool.or_self, Bool.false_eq_true, if_false]
  by_cases hNe : op = .notEqual
  · subst hNe
    -- `==` has the same ladder and no faults
    have hEqual := @BinaryOp.dispatch_settles .equal (by decide) _ v w hGoverning
    have hNone : ∀ op : BinaryOp, op = .equal ∨ op = .notEqual →
        op.liveFault? governing v w = none := by
      rintro op (rfl | rfl) <;>
        simp [BinaryOp.liveFault?, BinaryOp.kindFault?, BinaryOp.divisionFault?]
    rw [hNone _ (Or.inl rfl)] at hEqual
    rw [hNone _ (Or.inr rfl)]
    obtain ⟨s, -, hRun⟩ := hEqual
    refine ⟨.boolean (!(Value.ofSource s).boolean), rfl, ?_⟩
    simp only [hRun, bind, Except.bind, pure, Except.pure, isNull_ofSource, if_true,
      Bool.false_eq_true, if_false]
    rfl
  · simp only [hNe, if_false]
    exact BinaryOp.dispatch_settles hNe hGoverning

theorem Value.binary_of_no_governing {op : BinaryOp} {v w : Value} (hv : v.isNull = false)
    (hw : w.isNull = false) (hGoverning : governing? op.ladder v.kind w.kind = none) :
    Value.binary op v w = .ok .null := by
  unfold Value.binary
  simp only [hv, hw, Bool.or_self, Bool.false_eq_true, if_false]
  by_cases hNe : op = .notEqual
  · subst hNe
    have hEqual : governing? (BinaryOp.ladder .equal) v.kind w.kind = none := hGoverning
    simp [BinaryOp.dispatch, hEqual, bind, Except.bind, pure, Except.pure, Value.null]
  · simp [hNe, BinaryOp.dispatch, hGoverning]

/-- A binary operator fails on null, makes null of two kinds without a governing kind, or works in
the domain of their governing kind. -/
theorem Value.binary_cases (op : BinaryOp) (v w : Value) :
    ((v.isNull = true ∨ w.isNull = true) ∧
        Value.binary op v w = .error (.nullOperand op.symbol)) ∨
      (v.isNull = false ∧ w.isNull = false ∧ governing? op.ladder v.kind w.kind = none ∧
        Value.binary op v w = .ok .null) ∨
      (v.isNull = false ∧ w.isNull = false ∧ ∃ governing,
        governing? op.ladder v.kind w.kind = some governing ∧
          Settles (Value.binary op v w) (op.liveFault? governing v w)
            (op.resultKind governing)) := by
  by_cases hNull : v.isNull = true ∨ w.isNull = true
  · exact Or.inl ⟨hNull, Value.binary_of_null op hNull⟩
  · obtain ⟨hv, hw⟩ : v.isNull = false ∧ w.isNull = false := by simpa using hNull
    right
    cases hGoverning : governing? op.ladder v.kind w.kind with
    | none => exact Or.inl ⟨hv, hw, rfl, Value.binary_of_no_governing hv hw hGoverning⟩
    | some governing =>
      exact Or.inr ⟨hv, hw, governing, rfl, Value.binary_settles hv hw hGoverning⟩

/-! ## Unary operators -/

/-- The fault of a unary operator on an operand that is not null, which is told from its kind. -/
def UnaryOp.fault? (op : UnaryOp) (kind : Kind) : Option OperatorError :=
  match op, kind with
  | .not, .boolean => none
  | .not, _ => some (.invalid .notOfNonBoolean)
  | .negate, .string => some (.invalid .negateString)
  | .complement, .string => some (.invalid .complementString)
  | .complement, .float => some (.invalid .complementFloat)
  | .increment, .string => some (.invalid .incrementString)
  | .decrement, .string => some (.invalid .decrementString)
  | _, _ => none

/-- The fault of a calculation by the kind of its operand. -/
def UnaryOp.calculationFault? (onString : InvalidOperation)
    (onFloat : Except InvalidOperation (Float → Float)) (kind : Kind) : Option OperatorError :=
  match kind, onFloat with
  | .string, _ => some (.invalid onString)
  | .float, .error fault => some (.invalid fault)
  | _, _ => none

theorem UnaryOp.calculate_settles (onString : InvalidOperation)
    (onFloat : Except InvalidOperation (Float → Float)) (onInteger : Int64 → Int64)
    (onPair : Pair → Pair) {v : Value} (hKind : v.kind ≠ .pointer) :
    Settles (calculate onString onFloat onInteger onPair v)
      (calculationFault? onString onFloat v.kind) v.kind := by
  unfold calculate
  cases hCase : v.kind with
  | pointer => exact absurd hCase hKind
  | string => rfl
  | float =>
    cases onFloat with
    | ok f => exact settles_ok (.float _)
    | error fault => rfl
  | integer => exact settles_ok (.integer _)
  | boolean => exact settles_ok (.boolean _)
  | pair => exact settles_ok (.pair _)

theorem UnaryOp.calculate_pointer (onString : InvalidOperation)
    (onFloat : Except InvalidOperation (Float → Float)) (onInteger : Int64 → Int64)
    (onPair : Pair → Pair) {v : Value} (hKind : v.kind = .pointer) :
    calculate onString onFloat onInteger onPair v = .ok .null := by
  simp [calculate, hKind]

theorem Value.unary_of_null (op : UnaryOp) {v : Value} (h : v.isNull = true) :
    Value.unary op v = .error (.nullOperand op.symbol) := by
  simp [Value.unary, h]

theorem Value.unary_identity {v : Value} (hv : v.isNull = false) :
    Value.unary .identity v = .ok v := by
  simp [Value.unary, hv]

theorem Value.unary_pointer {op : UnaryOp} (hIdentity : op ≠ .identity) (hNot : op ≠ .not)
    {v : Value} (hv : v.isNull = false) (hKind : v.kind = .pointer) :
    Value.unary op v = .ok .null := by
  unfold Value.unary
  rw [if_neg (Bool.eq_false_iff.mp hv)]
  cases op with
  | identity => exact absurd rfl hIdentity
  | not => exact absurd rfl hNot
  | _ => exact UnaryOp.calculate_pointer _ _ _ _ hKind

/-- Every operator but identity fails with its fault or makes a value of the kind of its operand,
if that is no pointer. -/
theorem Value.unary_settles {op : UnaryOp} (hIdentity : op ≠ .identity) {v : Value}
    (hv : v.isNull = false) (hKind : v.kind = .pointer → op = .not) :
    Settles (Value.unary op v) (op.fault? v.kind) v.kind := by
  have hCalculation : op ≠ .not → v.kind ≠ .pointer := fun hNot hPointer => hNot (hKind hPointer)
  unfold Value.unary
  rw [if_neg (Bool.eq_false_iff.mp hv)]
  cases op with
  | identity => exact absurd rfl hIdentity
  | not =>
    unfold UnaryOp.invert
    cases v.kind with
    | boolean => exact settles_ok (.boolean _)
    | _ => rfl
  | negate =>
    have hSettles := UnaryOp.calculate_settles .negateString (.ok (- ·)) (- ·) (- ·)
      (hCalculation (by decide))
    cases hCase : v.kind <;> rwa [hCase] at hSettles
  | complement =>
    have hSettles := UnaryOp.calculate_settles .complementString (.error .complementFloat)
      (~~~ ·) (~~~ ·) (hCalculation (by decide))
    cases hCase : v.kind <;> rwa [hCase] at hSettles
  | increment =>
    have hSettles := UnaryOp.calculate_settles .incrementString (.ok (· + 1)) (· + 1)
      Pair.increment (hCalculation (by decide))
    cases hCase : v.kind <;> rwa [hCase] at hSettles
  | decrement =>
    have hSettles := UnaryOp.calculate_settles .decrementString (.ok (· - 1)) (· - 1)
      Pair.decrement (hCalculation (by decide))
    cases hCase : v.kind <;> rwa [hCase] at hSettles

/-- A unary operator fails on null, gives its operand back, makes null of a pointer, or works in
the domain of the kind of its operand. -/
theorem Value.unary_cases (op : UnaryOp) (v : Value) :
    (v.isNull = true ∧ Value.unary op v = .error (.nullOperand op.symbol)) ∨
      (v.isNull = false ∧ op = .identity ∧ Value.unary op v = .ok v) ∨
      (v.isNull = false ∧ op ≠ .identity ∧ (v.kind = .pointer ∧ op ≠ .not) ∧
        Value.unary op v = .ok .null) ∨
      (v.isNull = false ∧ op ≠ .identity ∧ ¬(v.kind = .pointer ∧ op ≠ .not) ∧
        Settles (Value.unary op v) (op.fault? v.kind) v.kind) := by
  cases hv : v.isNull with
  | true => exact Or.inl ⟨rfl, Value.unary_of_null op hv⟩
  | false =>
    right
    by_cases hIdentity : op = .identity
    · subst hIdentity
      exact Or.inl ⟨rfl, rfl, Value.unary_identity hv⟩
    · right
      by_cases hPointer : v.kind = .pointer ∧ op ≠ .not
      · have hMakes := Value.unary_pointer hIdentity hPointer.2 hv hPointer.1
        exact Or.inl ⟨rfl, hIdentity, hPointer, hMakes⟩
      · have hKind : v.kind = .pointer → op = .not := by simpa using hPointer
        exact Or.inr ⟨rfl, hIdentity, hPointer, Value.unary_settles hIdentity hv hKind⟩

end ScriptValue
