import ScriptValue.Proofs.Operator.Outcome

/-!
# Pairs calculate componentwise

Operators on pairs do to both components what they do to integers. Integers and pairs have their
arithmetic written down apart, so for each operator the two are compared: a pair of results on
the one side, and the two results on the other. A pair fails as a whole where one component
would, which only a division can, and both components fail with the same error.

* `Value.binary_ofInteger`, `Value.binary_ofPair`: both are made of one operation on components.
* `Value.pairs_componentwise`: what this means for the values of pairs and of their components.
-/

namespace ScriptValue

/-! ## Operations on components -/

namespace BinaryOp

/-- The operator on two integers that were written as integers, so that their readings in
floating point are the nearest numbers. -/
def onComponents (op : BinaryOp) (i j : Int64) : Except OperatorError Int64 :=
  op.integerArithmetic (.ofInteger i) (.ofInteger j)

/-- The operator on both components of two pairs. -/
def componentwise (op : BinaryOp) (p q : Pair) : Except OperatorError Pair := do
  let x ← op.onComponents p.x q.x
  let y ← op.onComponents p.y q.y
  return ⟨x, y⟩

/-- Only a division fails, and its error does not depend on the operands. -/
theorem onComponents_error {op : BinaryOp} {i j : Int64} {e : OperatorError}
    (h : op.onComponents i j = .error e) : e = .zeroDivisor op.symbol := by
  rcases op.integerArithmetic_eq (.ofInteger i) (.ofInteger j) with
    ⟨e', hFault, hRun⟩ | ⟨-, n, hRun⟩
  · obtain rfl : e' = e := Except.error.inj (hRun.symm.trans h)
    unfold divisionFault? at hFault
    split at hFault
    · exact (Option.some.inj hFault).symm
    · cases hFault
  · cases hRun.symm.trans h

theorem componentwise_eq_ok_iff {op : BinaryOp} {p q r : Pair} :
    op.componentwise p q = .ok r ↔
      op.onComponents p.x q.x = .ok r.x ∧ op.onComponents p.y q.y = .ok r.y := by
  unfold componentwise
  cases op.onComponents p.x q.x with
  | error e => simp [bind, Except.bind]
  | ok x =>
    cases op.onComponents p.y q.y with
    | error e => simp [bind, Except.bind]
    | ok y =>
      simp only [bind, Except.bind, pure, Except.pure, Except.ok.injEq]
      constructor
      · rintro rfl
        exact ⟨rfl, rfl⟩
      · rintro ⟨rfl, rfl⟩
        rfl

theorem componentwise_eq_error_iff {op : BinaryOp} {p q : Pair} {e : OperatorError} :
    op.componentwise p q = .error e ↔
      op.onComponents p.x q.x = .error e ∨ op.onComponents p.y q.y = .error e := by
  unfold componentwise
  cases hx : op.onComponents p.x q.x with
  | error e₁ =>
    -- the error of the first component hides that of the second, but they are the same
    have hSame (h : op.onComponents p.y q.y = .error e) : e₁ = e :=
      (onComponents_error hx).trans (onComponents_error h).symm
    simp only [bind, Except.bind, Except.error.injEq]
    exact ⟨Or.inl, fun h => h.elim id hSame⟩
  | ok x =>
    cases op.onComponents p.y q.y with
    | error e₂ => simp [bind, Except.bind]
    | ok y => simp [bind, Except.bind, pure, Except.pure]

/-! ## Pairs -/

theorem hasZero_eq_true_iff {q : Pair} : q.hasZero = true ↔ q.x = 0 ∨ q.y = 0 := by
  simp [Pair.hasZero]

/-- A division of components checks each divisor on its own, one of pairs checks both first. -/
theorem componentwise_of_division {op : BinaryOp} {f : Int64 → Int64 → Int64} {e : OperatorError}
    (hDivision : ∀ i j, op.onComponents i j = if j = 0 then .error e else .ok (f i j))
    (p q : Pair) :
    op.componentwise p q = if q.hasZero then .error e else .ok (Pair.zipWith f p q) := by
  unfold componentwise
  simp only [hDivision, hasZero_eq_true_iff]
  by_cases hx : q.x = 0
  · simp [hx, bind, Except.bind]
  · by_cases hy : q.y = 0
    · simp [hx, hy, bind, Except.bind]
    · simp [hx, hy, bind, Except.bind, pure, Except.pure, Pair.zipWith]

theorem onPairs_ofPair {op : BinaryOp} (hEqual : op ≠ .equal) (hNe : op ≠ .notEqual)
    (p q : Pair) :
    op.onPairs (.ofPair p) (.ofPair q) = (op.componentwise p q).map .ofPair := by
  cases op with
  | equal => exact absurd rfl hEqual
  | notEqual => exact absurd rfl hNe
  | div | rem =>
    rw [componentwise_of_division fun _ _ => rfl]
    rfl
  | _ => rfl

/-! ## Application -/

theorem governing?_self (op : BinaryOp) {k : Kind} (hPointer : k ≠ .pointer) :
    governing? op.ladder k k = some k := by
  unfold ladder
  cases k with
  | pointer => exact absurd rfl hPointer
  | _ => split <;> rfl

end BinaryOp

namespace Value

/-- Two operands of one kind are worked on in the domain of this kind. -/
theorem binary_of_kind_eq {op : BinaryOp} (hNe : op ≠ .notEqual) {v w : Value} {k : Kind}
    (hvNull : v.isNull = false) (hwNull : w.isNull = false) (hv : v.kind = k) (hw : w.kind = k)
    (hPointer : k ≠ .pointer) (hFloat : op.isLogical = false ∨ k ≠ .float) :
    Value.binary op v w = op.inDomain k v w := by
  refine binary_of_governing hNe hvNull hwNull ?_ ?_
  · rw [hv, hw]
    exact BinaryOp.governing?_self op hPointer
  · rcases hFloat with hLogical | hFloat
    · simp [BinaryOp.refusesFloat, hLogical]
    · simp [BinaryOp.refusesFloat, hv, hw, hFloat]

theorem ofInteger_inj {i j : Int64} (h : ofInteger i = ofInteger j) : i = j :=
  congrArg (·.integer) h

theorem ofPair_inj {p q : Pair} (h : ofPair p = ofPair q) : p = q :=
  congrArg (·.pair) h

theorem binary_ofInteger {op : BinaryOp} (hEqual : op ≠ .equal) (hNe : op ≠ .notEqual)
    (i j : Int64) :
    Value.binary op (.ofInteger i) (.ofInteger j) = (op.onComponents i j).map .ofInteger := by
  have hDomain : Value.binary op (.ofInteger i) (.ofInteger j) =
      op.onIntegers (.ofInteger i) (.ofInteger j) :=
    binary_of_kind_eq (k := .integer) hNe rfl rfl rfl rfl (by decide) (.inr (by decide))
  simp only [hDomain, BinaryOp.onIntegers, hEqual, if_false, BinaryOp.onComponents]

theorem binary_ofPair {op : BinaryOp} (hEqual : op ≠ .equal) (hNe : op ≠ .notEqual)
    (p q : Pair) :
    Value.binary op (.ofPair p) (.ofPair q) = (op.componentwise p q).map .ofPair := by
  have hDomain : Value.binary op (.ofPair p) (.ofPair q) = op.onPairs (.ofPair p) (.ofPair q) :=
    binary_of_kind_eq (k := .pair) hNe rfl rfl rfl rfl (by decide) (.inr (by decide))
  rw [hDomain, BinaryOp.onPairs_ofPair hEqual hNe]

theorem binary_ofInteger_eq_ok_iff {op : BinaryOp} (hEqual : op ≠ .equal) (hNe : op ≠ .notEqual)
    {i j n : Int64} :
    Value.binary op (.ofInteger i) (.ofInteger j) = .ok (.ofInteger n) ↔
      op.onComponents i j = .ok n := by
  rw [binary_ofInteger hEqual hNe]
  cases op.onComponents i j with
  | error e => simp [Except.map]
  | ok m =>
    simp only [Except.map, Except.ok.injEq]
    exact ⟨ofInteger_inj, congrArg _⟩

theorem binary_ofInteger_eq_error_iff {op : BinaryOp} (hEqual : op ≠ .equal)
    (hNe : op ≠ .notEqual) {i j : Int64} {e : OperatorError} :
    Value.binary op (.ofInteger i) (.ofInteger j) = .error e ↔ op.onComponents i j = .error e := by
  rw [binary_ofInteger hEqual hNe]
  cases op.onComponents i j <;> simp [Except.map]

theorem binary_ofPair_eq_ok_iff {op : BinaryOp} (hEqual : op ≠ .equal) (hNe : op ≠ .notEqual)
    {p q r : Pair} :
    Value.binary op (.ofPair p) (.ofPair q) = .ok (.ofPair r) ↔
      Value.binary op (.ofInteger p.x) (.ofInteger q.x) = .ok (.ofInteger r.x) ∧
        Value.binary op (.ofInteger p.y) (.ofInteger q.y) = .ok (.ofInteger r.y) := by
  rw [binary_ofInteger_eq_ok_iff hEqual hNe, binary_ofInteger_eq_ok_iff hEqual hNe,
    ← BinaryOp.componentwise_eq_ok_iff, binary_ofPair hEqual hNe]
  cases op.componentwise p q with
  | error e => simp [Except.map]
  | ok s =>
    simp only [Except.map, Except.ok.injEq]
    exact ⟨ofPair_inj, congrArg _⟩

theorem binary_ofPair_eq_error_iff {op : BinaryOp} (hEqual : op ≠ .equal) (hNe : op ≠ .notEqual)
    {p q : Pair} {e : OperatorError} :
    Value.binary op (.ofPair p) (.ofPair q) = .error e ↔
      Value.binary op (.ofInteger p.x) (.ofInteger q.x) = .error e ∨
        Value.binary op (.ofInteger p.y) (.ofInteger q.y) = .error e := by
  rw [binary_ofInteger_eq_error_iff hEqual hNe, binary_ofInteger_eq_error_iff hEqual hNe,
    ← BinaryOp.componentwise_eq_error_iff, binary_ofPair hEqual hNe]
  cases op.componentwise p q <;> simp [Except.map]

theorem binary_ofPair_settles {op : BinaryOp} (hEqual : op ≠ .equal) (hNe : op ≠ .notEqual)
    (p q : Pair) :
    (∃ r : Pair, Value.binary op (.ofPair p) (.ofPair q) = .ok (.ofPair r)) ∨
      Value.binary op (.ofPair p) (.ofPair q) = .error (.zeroDivisor op.symbol) := by
  rw [binary_ofPair hEqual hNe]
  cases hRun : op.componentwise p q with
  | ok r => exact Or.inl ⟨r, rfl⟩
  | error e =>
    right
    rcases BinaryOp.componentwise_eq_error_iff.mp hRun with hx | hy
    · rw [BinaryOp.onComponents_error hx]
      rfl
    · rw [BinaryOp.onComponents_error hy]
      rfl

/-! ## Comparison -/

theorem ofBoolean_inj {b c : Bool} (h : ofBoolean b = ofBoolean c) : b = c :=
  congrArg (·.boolean) h

theorem equal_ofInteger_iff {i j : Int64} :
    Value.binary .equal (.ofInteger i) (.ofInteger j) = .ok (.ofBoolean true) ↔ i = j := by
  have hRun : Value.binary .equal (.ofInteger i) (.ofInteger j) = .ok (.ofBoolean (i == j)) := rfl
  rw [hRun, Except.ok.injEq]
  exact ⟨fun h => eq_of_beq (ofBoolean_inj h), fun h => by rw [h, beq_self_eq_true]⟩

theorem equal_ofPair_iff {p q : Pair} :
    Value.binary .equal (.ofPair p) (.ofPair q) = .ok (.ofBoolean true) ↔ p = q := by
  have hRun : Value.binary .equal (.ofPair p) (.ofPair q) = .ok (.ofBoolean (p == q)) := rfl
  rw [hRun, Except.ok.injEq]
  exact ⟨fun h => eq_of_beq (ofBoolean_inj h), fun h => by rw [h, beq_self_eq_true]⟩

/-! ## Unary operators -/

theorem unary_ofPair {op : UnaryOp} (hOp : op ∈ [.negate, .complement, .increment, .decrement])
    (p : Pair) :
    ∃ r : Pair, Value.unary op (.ofInteger p.x) = .ok (.ofInteger r.x) ∧
      Value.unary op (.ofInteger p.y) = .ok (.ofInteger r.y) ∧
      Value.unary op (.ofPair p) = .ok (.ofPair r) := by
  cases op with
  | identity | not => simp at hOp
  | negate => exact ⟨-p, rfl, rfl, rfl⟩
  | complement => exact ⟨~~~p, rfl, rfl, rfl⟩
  | increment => exact ⟨p.increment, rfl, rfl, rfl⟩
  | decrement => exact ⟨p.decrement, rfl, rfl, rfl⟩

/-! ## All operators -/

/-- Pairs calculate as their components do. The result of arithmetic is the pair of both results;
it fails if one component does, with the same error, and only over a zero divisor. Two pairs are
equal if both components are, and a unary operator gives the pair of both results. -/
theorem pairs_componentwise (p q : Pair) :
    (∀ op : BinaryOp, op ≠ .equal → op ≠ .notEqual →
      (∀ r : Pair, Value.binary op (.ofPair p) (.ofPair q) = .ok (.ofPair r) ↔
        Value.binary op (.ofInteger p.x) (.ofInteger q.x) = .ok (.ofInteger r.x) ∧
          Value.binary op (.ofInteger p.y) (.ofInteger q.y) = .ok (.ofInteger r.y)) ∧
      (∀ e, Value.binary op (.ofPair p) (.ofPair q) = .error e ↔
        Value.binary op (.ofInteger p.x) (.ofInteger q.x) = .error e ∨
          Value.binary op (.ofInteger p.y) (.ofInteger q.y) = .error e) ∧
      ((∃ r : Pair, Value.binary op (.ofPair p) (.ofPair q) = .ok (.ofPair r)) ∨
        Value.binary op (.ofPair p) (.ofPair q) = .error (.zeroDivisor op.symbol))) ∧
    (Value.binary .equal (.ofPair p) (.ofPair q) = .ok (.ofBoolean true) ↔
      Value.binary .equal (.ofInteger p.x) (.ofInteger q.x) = .ok (.ofBoolean true) ∧
        Value.binary .equal (.ofInteger p.y) (.ofInteger q.y) = .ok (.ofBoolean true)) ∧
    (∀ op : UnaryOp, op ∈ [.negate, .complement, .increment, .decrement] →
      ∃ r : Pair, Value.unary op (.ofInteger p.x) = .ok (.ofInteger r.x) ∧
        Value.unary op (.ofInteger p.y) = .ok (.ofInteger r.y) ∧
        Value.unary op (.ofPair p) = .ok (.ofPair r)) := by
  refine ⟨fun op hEqual hNe => ⟨fun r => ?_, fun e => ?_, ?_⟩, ?_, fun op hOp => ?_⟩
  · exact binary_ofPair_eq_ok_iff hEqual hNe
  · exact binary_ofPair_eq_error_iff hEqual hNe
  · exact binary_ofPair_settles hEqual hNe p q
  · rw [equal_ofPair_iff, equal_ofInteger_iff, equal_ofInteger_iff, Pair.mk.injEq]
  · exact unary_ofPair hOp p

/-- A quotient that wraps around in the first component fails for the zero in the second. -/
theorem pairs_componentwise_zero_divisor :
    Value.binary .div (.ofPair ⟨Int64.minValue, 7⟩) (.ofPair ⟨-1, 0⟩) =
      .error (.zeroDivisor "/") :=
  (((pairs_componentwise ⟨Int64.minValue, 7⟩ ⟨-1, 0⟩).1 .div (by decide) (by decide)).2.1 _).mpr
    (Or.inr rfl)

end Value

end ScriptValue
