import ScriptValue.Proofs.Operator.Componentwise

/-!
# Steps and negation as sums and differences

A unary operator works in the domain of the kind of its operand, and so does a binary operator on
two operands of this kind. So to increment and to decrement are to add and to subtract the one of
the kind, and to negate is to subtract from its zero. Truth values count as one and zero either
way, and integers wrap around. Negation in floating point is no difference: it gives zero the other
sign, but zero less zero is zero.

* `Value.step_eq`, `Value.negate_eq`: the operators on operands of one kind.
* `Value.steps_are_sums`: what they make.
-/

namespace ScriptValue

/-! ## One and zero -/

namespace Source

/-- The one of every kind that has numbers or truth values. -/
def ones : List Source :=
  [.integer 1, .boolean true, .pair ⟨1, 1⟩, .float 1]

/-- The zero of every kind where negation is a difference. -/
def zeros : List Source :=
  [.integer 0, .boolean false, .pair ⟨0, 0⟩]

theorem kind_of_mem_ones : ∀ s ∈ ones, s.kind ≠ .string ∧ s.kind ≠ .pointer := by
  decide

theorem kind_of_mem_zeros : ∀ s ∈ zeros, s.kind ≠ .string ∧ s.kind ≠ .pointer := by
  decide

end Source

theorem Pair.zero_sub (p : Pair) : ⟨0, 0⟩ - p = -p := by
  change Pair.mk (0 - p.x) (0 - p.y) = Pair.mk (-p.x) (-p.y)
  rw [Int64.zero_sub, Int64.zero_sub]

namespace Value

variable {v : Value} {s : Source}

/-! ## Operands of one kind -/

theorem step_eq (hv : v.isNull = false) (hOne : s ∈ Source.ones) (hKind : s.kind = v.kind) :
    Value.unary .increment v = Value.binary .add v (.ofSource s) ∧
      Value.unary .decrement v = Value.binary .sub v (.ofSource s) := by
  have hPointer := (Source.kind_of_mem_ones s hOne).2
  have hDomain : ∀ op : BinaryOp, op ≠ .notEqual → op.isLogical = false →
      Value.binary op v (.ofSource s) = op.inDomain s.kind v (.ofSource s) :=
    fun op hNe hLogical => binary_of_kind_eq hNe hv (isNull_ofSource s) hKind.symm
      (kind_ofSource s) hPointer (.inl hLogical)
  rw [hDomain .add (by decide) rfl, hDomain .sub (by decide) rfl]
  simp only [Value.unary, hv, Bool.false_eq_true, if_false, UnaryOp.calculate, ← hKind]
  simp only [Source.ones, List.mem_cons, List.not_mem_nil, or_false] at hOne
  rcases hOne with rfl | rfl | rfl | rfl <;> exact ⟨rfl, rfl⟩

theorem negate_eq (hv : v.isNull = false) (hZero : s ∈ Source.zeros) (hKind : s.kind = v.kind) :
    Value.unary .negate v = Value.binary .sub (.ofSource s) v := by
  have hPointer := (Source.kind_of_mem_zeros s hZero).2
  rw [binary_of_kind_eq (by decide) (isNull_ofSource s) hv (kind_ofSource s) hKind.symm hPointer
    (.inl rfl)]
  simp only [Value.unary, hv, Bool.false_eq_true, if_false, UnaryOp.calculate, ← hKind]
  simp only [Source.zeros, List.mem_cons, List.not_mem_nil, or_false] at hZero
  rcases hZero with rfl | rfl | rfl
  · change Except.ok (ofInteger (-v.integer)) = Except.ok (ofInteger (0 - v.integer))
    rw [Int64.zero_sub]
  · change Except.ok (ofBoolean (-v.integer != 0)) = Except.ok (ofBoolean (0 - v.integer != 0))
    rw [Int64.zero_sub]
  · change Except.ok (ofPair (-v.pair)) = Except.ok (ofPair (⟨0, 0⟩ - v.pair))
    rw [Pair.zero_sub]

/-! ## Results -/

/-- A calculation with numbers or truth values makes a value of the same kind. -/
theorem exists_calculated {op : UnaryOp} (hOp : op = .increment ∨ op = .decrement ∨ op = .negate)
    (hv : v.isNull = false) (hString : v.kind ≠ .string) (hPointer : v.kind ≠ .pointer) :
    ∃ s : Source, s.kind = v.kind ∧ Value.unary op v = .ok (.ofSource s) := by
  have hIdentity : op ≠ .identity := by rcases hOp with rfl | rfl | rfl <;> decide
  have hSettles := unary_settles hIdentity hv fun h => absurd h hPointer
  have hFault : op.fault? v.kind = none := by
    rcases hOp with rfl | rfl | rfl <;> cases hCase : v.kind <;> first | rfl | contradiction
  rwa [hFault] at hSettles

/-- Two runs that make the same value of a kind. -/
def MakeSame (kind : Kind) (x y : Except OperatorError Value) : Prop :=
  ∃ s : Source, s.kind = kind ∧ x = .ok (.ofSource s) ∧ y = .ok (.ofSource s)

/-- To increment an operand is to add the one of its kind, and to decrement it is to subtract this
one. To negate it is to subtract it from the zero of its kind. All of them succeed, and give the
same value of this kind. -/
theorem steps_are_sums (hv : v.isNull = false) :
    (∀ one ∈ Source.ones, one.kind = v.kind →
      MakeSame v.kind (Value.unary .increment v) (Value.binary .add v (.ofSource one)) ∧
        MakeSame v.kind (Value.unary .decrement v) (Value.binary .sub v (.ofSource one))) ∧
    (∀ zero ∈ Source.zeros, zero.kind = v.kind →
      MakeSame v.kind (Value.unary .negate v) (Value.binary .sub (.ofSource zero) v)) := by
  constructor
  · intro one hOne hKind
    obtain ⟨hString, hPointer⟩ := Source.kind_of_mem_ones one hOne
    rw [hKind] at hString hPointer
    obtain ⟨hSum, hDifference⟩ := step_eq hv hOne hKind
    obtain ⟨s, hs, hIncrement⟩ := exists_calculated (.inl rfl) hv hString hPointer
    obtain ⟨t, ht, hDecrement⟩ := exists_calculated (.inr (.inl rfl)) hv hString hPointer
    exact ⟨⟨s, hs, hIncrement, hSum ▸ hIncrement⟩, ⟨t, ht, hDecrement, hDifference ▸ hDecrement⟩⟩
  · intro zero hZero hKind
    obtain ⟨hString, hPointer⟩ := Source.kind_of_mem_zeros zero hZero
    rw [hKind] at hString hPointer
    obtain ⟨s, hs, hNegate⟩ := exists_calculated (.inr (.inr rfl)) hv hString hPointer
    exact ⟨s, hs, hNegate, negate_eq hv hZero hKind ▸ hNegate⟩

/-- The greatest integer is incremented to the least one, false is decremented to true, and the
least integer in a pair is its own opposite. -/
theorem steps_are_sums_bounds :
    (Source.integer 1 ∈ Source.ones ∧
      MakeSame .integer (Value.unary .increment (ofInteger Int64.maxValue))
        (Value.binary .add (ofInteger Int64.maxValue) (ofInteger 1)) ∧
      Value.unary .increment (ofInteger Int64.maxValue) = .ok (ofInteger Int64.minValue)) ∧
    (Source.boolean true ∈ Source.ones ∧
      MakeSame .boolean (Value.unary .decrement (ofBoolean false))
        (Value.binary .sub (ofBoolean false) (ofBoolean true)) ∧
      Value.unary .decrement (ofBoolean false) = .ok (ofBoolean true)) ∧
    (Source.pair ⟨0, 0⟩ ∈ Source.zeros ∧
      MakeSame .pair (Value.unary .negate (ofPair ⟨Int64.minValue, 1⟩))
        (Value.binary .sub (ofPair ⟨0, 0⟩) (ofPair ⟨Int64.minValue, 1⟩)) ∧
      Value.unary .negate (ofPair ⟨Int64.minValue, 1⟩) =
        .ok (ofPair ⟨Int64.minValue, -1⟩)) := by
  have hInteger : Source.integer 1 ∈ Source.ones := by decide
  have hBoolean : Source.boolean true ∈ Source.ones := by decide
  have hPair : Source.pair ⟨0, 0⟩ ∈ Source.zeros := by decide
  have hIncrement := (steps_are_sums (v := ofInteger Int64.maxValue) rfl).1 _ hInteger rfl
  have hDecrement := (steps_are_sums (v := ofBoolean false) rfl).1 _ hBoolean rfl
  have hNegate := (steps_are_sums (v := ofPair ⟨Int64.minValue, 1⟩) rfl).2 _ hPair rfl
  exact ⟨⟨hInteger, hIncrement.1, rfl⟩, ⟨hBoolean, hDecrement.2, rfl⟩, ⟨hPair, hNegate, rfl⟩⟩

end Value

end ScriptValue
