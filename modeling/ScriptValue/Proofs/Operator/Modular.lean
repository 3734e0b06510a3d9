import Mathlib
import ScriptValue.Proofs.Operator.Componentwise
import ScriptValue.Proofs.Operator.Expression

/-!
# Expressions modulo 2^64

Sums, differences and products of integers wrap around, and so do the negative, the complement and
the two steps by one. An expression of these operators, over integers or over pairs, comes to the
number that it has over the unbounded integers, reduced modulo 2^64 once at the end.

* `Expression.unbounded?`: the number of an expression over the unbounded integers.
* `Component.exists_unary`, `Component.exists_binary`: one operator.
* `Expression.exists_eval_of_unbounded?`: an expression.
* `ring_expression_exact`: integers, and pairs in both components.

An integer has one component and a pair has two. The induction is on the expression, for one
component at a time.
-/

namespace ScriptValue

/-! ## Exact values -/

/-- The operator on unbounded integers, where `~n` is `-n - 1`. -/
def UnaryOp.unbounded? : UnaryOp → Option (Int → Int)
  | identity => some fun n => n
  | negate => some fun n => -n
  | complement => some fun n => -n - 1
  | increment => some fun n => n + 1
  | decrement => some fun n => n - 1
  | not => none

/-- The operator on unbounded integers, if it is one of a ring. -/
def BinaryOp.unbounded? : BinaryOp → Option (Int → Int → Int)
  | add => some fun m n => m + n
  | sub => some fun m n => m - n
  | mul => some fun m n => m * n
  | _ => none

namespace Expression

variable {α : Type}

/-- The number of an expression whose operands are unbounded integers. -/
def unbounded? (ν : α → Int) : Expression α → Option Int
  | operand a => some (ν a)
  | unary op e => do
    let f ← op.unbounded?
    let n ← e.unbounded? ν
    return f n
  | binary op l r => do
    let f ← op.unbounded?
    let m ← l.unbounded? ν
    let n ← r.unbounded? ν
    return f m n

/-- All operators of an expression are among the given ones. -/
def Uses (unaries : List UnaryOp) (binaries : List BinaryOp) : Expression α → Prop
  | operand _ => True
  | unary op e => op ∈ unaries ∧ e.Uses unaries binaries
  | binary op l r => op ∈ binaries ∧ l.Uses unaries binaries ∧ r.Uses unaries binaries

theorem exists_unbounded? {unaries : List UnaryOp} {binaries : List BinaryOp}
    (hUnaries : ∀ op ∈ unaries, op.unbounded?.isSome)
    (hBinaries : ∀ op ∈ binaries, op.unbounded?.isSome) {e : Expression α}
    (h : e.Uses unaries binaries) (ν : α → Int) : ∃ n, e.unbounded? ν = some n := by
  induction e with
  | operand a => exact ⟨ν a, rfl⟩
  | unary op e ih =>
    obtain ⟨f, hf⟩ := Option.isSome_iff_exists.mp (hUnaries op h.1)
    obtain ⟨n, hn⟩ := ih h.2
    exact ⟨f n, by simp [unbounded?, hf, hn]⟩
  | binary op l r ihl ihr =>
    obtain ⟨f, hf⟩ := Option.isSome_iff_exists.mp (hBinaries op h.1)
    obtain ⟨m, hm⟩ := ihl h.2.1
    obtain ⟨n, hn⟩ := ihr h.2.2
    exact ⟨f m n, by simp [unbounded?, hf, hm, hn]⟩

end Expression

/-- Reducing modulo 2^64 gives the one 64-bit integer that is congruent. -/
theorem eq_ofInt_iff {i : Int64} {n : Int} : i = Int64.ofInt n ↔ i.toInt ≡ n [ZMOD 2 ^ 64] := by
  rw [eq_comm, Int64.ofInt_eq_iff_bmod_eq_toInt]
  have hModulus : ((2 ^ 64 : Nat) : Int) = 2 ^ 64 := by norm_num
  unfold Int.ModEq
  rw [← hModulus]
  constructor
  · intro h
    rw [← h]
    exact Int.bmod_emod
  · intro h
    calc n.bmod (2 ^ 64)
        = (n % (2 ^ 64 : Nat)).bmod (2 ^ 64) := (Int.emod_bmod n _).symm
      _ = (i.toInt % (2 ^ 64 : Nat)).bmod (2 ^ 64) := by rw [h]
      _ = i.toInt.bmod (2 ^ 64) := Int.emod_bmod i.toInt _
      _ = i.toInt := i.toInt_bmod

/-! ## Components -/

/-- A place in a value where a number stands. -/
inductive Component where
  | integer
  | first
  | second

namespace Component

/-- The kind of the values that the component is looked for in. -/
def kind : Component → Kind
  | integer => .integer
  | first | second => .pair

def get (c : Component) (v : Value) : Int64 :=
  match c with
  | integer => v.integer
  | first => v.pair.x
  | second => v.pair.y

/-- A value of the kind of the component that has the number, modulo 2^64, in this component. -/
structure Holds (c : Component) (v : Value) (n : Int) : Prop where
  live : v.isNull = false
  kind : v.kind = c.kind
  get : c.get v = Int64.ofInt n

/-! ## Unary operators -/

theorem exists_calculate {c : Component} {v : Value} {n : Int} (hv : c.Holds v n)
    {f : Int → Int} {g : Int64 → Int64} (hg : ∀ n, g (Int64.ofInt n) = Int64.ofInt (f n))
    (onString : InvalidOperation) (onFloat : Except InvalidOperation (Float → Float)) :
    ∃ r, UnaryOp.calculate onString onFloat g (Pair.map g) v = .ok r ∧ c.Holds r (f n) := by
  have hKind := hv.kind
  have hResult : g (c.get v) = Int64.ofInt (f n) := by rw [hv.get, hg]
  unfold UnaryOp.calculate
  cases c with
  | integer => exact ⟨.ofInteger (g v.integer), by rw [hKind]; rfl, rfl, rfl, hResult⟩
  | first | second => exact ⟨.ofPair (v.pair.map g), by rw [hKind]; rfl, rfl, rfl, hResult⟩

theorem exists_unary {c : Component} {op : UnaryOp} {f : Int → Int} (hf : op.unbounded? = some f)
    {v : Value} {n : Int} (hv : c.Holds v n) :
    ∃ r, Value.unary op v = .ok r ∧ c.Holds r (f n) := by
  unfold Value.unary
  rw [if_neg (Bool.eq_false_iff.mp hv.live)]
  cases op with
  | not => cases hf
  | identity =>
    cases hf
    exact ⟨v, rfl, hv⟩
  | negate =>
    cases hf
    exact exists_calculate hv (fun n => (Int64.ofInt_neg n).symm) _ _
  | complement =>
    cases hf
    have hNot (n : Int) : ~~~Int64.ofInt n = Int64.ofInt (-n - 1) := by
      rw [Int64.not_eq_neg_add, Int64.ofInt_sub, Int64.ofInt_neg]
      rfl
    exact exists_calculate hv hNot _ _
  | increment =>
    cases hf
    exact exists_calculate (g := (· + 1)) hv (fun n => (Int64.ofInt_add n 1).symm) _ _
  | decrement =>
    cases hf
    exact exists_calculate (g := (· - 1)) hv (fun n => (Int64.ofInt_sub n 1).symm) _ _

/-! ## Binary operators -/

/-- An operator that calculates on integers, and on pairs componentwise, without faults. -/
theorem exists_binary_of {c : Component} {op : BinaryOp} (hNe : op ≠ .notEqual)
    {f : Int → Int → Int} {g : Int64 → Int64 → Int64}
    (hg : ∀ m n, g (Int64.ofInt m) (Int64.ofInt n) = Int64.ofInt (f m n))
    (hIntegers : ∀ v w, op.onIntegers v w = .ok (.ofInteger (g v.integer w.integer)))
    (hPairs : ∀ v w, op.onPairs v w = .ok (.ofPair (Pair.zipWith g v.pair w.pair)))
    {v w : Value} {m n : Int} (hv : c.Holds v m) (hw : c.Holds w n) :
    ∃ r, Value.binary op v w = .ok r ∧ c.Holds r (f m n) := by
  have hResult : g (c.get v) (c.get w) = Int64.ofInt (f m n) := by rw [hv.get, hw.get, hg]
  have hDomain : Value.binary op v w = op.inDomain c.kind v w :=
    Value.binary_of_kind_eq hNe hv.live hw.live hv.kind hw.kind (by cases c <;> decide)
      (.inr (by cases c <;> decide))
  rw [hDomain]
  cases c with
  | integer => exact ⟨_, hIntegers v w, rfl, rfl, hResult⟩
  | first | second => exact ⟨_, hPairs v w, rfl, rfl, hResult⟩

theorem exists_binary {c : Component} {op : BinaryOp} {f : Int → Int → Int}
    (hf : op.unbounded? = some f) {v w : Value} {m n : Int} (hv : c.Holds v m) (hw : c.Holds w n) :
    ∃ r, Value.binary op v w = .ok r ∧ c.Holds r (f m n) := by
  cases op with
  | add =>
    cases hf
    exact exists_binary_of (by decide) (fun m n => (Int64.ofInt_add m n).symm) (fun _ _ => rfl)
      (fun _ _ => rfl) hv hw
  | sub =>
    cases hf
    exact exists_binary_of (by decide) (fun m n => (Int64.ofInt_sub m n).symm) (fun _ _ => rfl)
      (fun _ _ => rfl) hv hw
  | mul =>
    cases hf
    exact exists_binary_of (by decide) (fun m n => (Int64.ofInt_mul m n).symm) (fun _ _ => rfl)
      (fun _ _ => rfl) hv hw
  | _ => cases hf

end Component

/-! ## Expressions -/

namespace Expression

variable {α : Type}

/-- In one component, an expression that has an exact number comes to this number, if its operands
hold their numbers. -/
theorem exists_eval_of_unbounded? {c : Component} {σ : α → Value} {ν : α → Int} {e : Expression α}
    {n : Int} (hNumber : e.unbounded? ν = some n)
    (hOperands : ∀ a ∈ e.operands, c.Holds (σ a) (ν a)) :
    ∃ v, e.eval σ = .ok v ∧ c.Holds v n := by
  induction e generalizing n with
  | operand a =>
    cases hNumber
    exact ⟨σ a, rfl, hOperands a (List.mem_singleton_self a)⟩
  | unary op e ih =>
    obtain ⟨f, hf, m, hm, rfl⟩ : ∃ f, op.unbounded? = some f ∧
        ∃ m, e.unbounded? ν = some m ∧ f m = n := by
      simpa [unbounded?, Option.bind_eq_some_iff] using hNumber
    obtain ⟨v, hEval, hv⟩ := ih hm hOperands
    rw [eval_unary_of_ok hEval]
    exact Component.exists_unary hf hv
  | binary op l r ihl ihr =>
    obtain ⟨f, hf, m, hm, k, hk, rfl⟩ : ∃ f, op.unbounded? = some f ∧
        ∃ m, l.unbounded? ν = some m ∧ ∃ k, r.unbounded? ν = some k ∧ f m k = n := by
      simpa [unbounded?, Option.bind_eq_some_iff] using hNumber
    obtain ⟨v, hEvalL, hv⟩ := ihl hm fun a ha => hOperands a (List.mem_append_left _ ha)
    obtain ⟨w, hEvalR, hw⟩ := ihr hk fun a ha => hOperands a (List.mem_append_right _ ha)
    rw [eval_binary_of_ok hEvalL hEvalR]
    exact Component.exists_binary hf hv hw

/-- The same for operands that hold their own numbers. -/
theorem exists_eval_unbounded {c : Component} {σ : α → Value} {e : Expression α}
    (hOperators : e.Uses [.identity, .negate, .complement, .increment, .decrement]
      [.add, .sub, .mul])
    (hOperands : ∀ a ∈ e.operands, (σ a).isNull = false ∧ (σ a).kind = c.kind) :
    ∃ n v, e.unbounded? (fun a => (c.get (σ a)).toInt) = some n ∧ e.eval σ = .ok v ∧
      v.isNull = false ∧ v.kind = c.kind ∧
        ∀ i : Int64, i.toInt ≡ n [ZMOD 2 ^ 64] ↔ i = c.get v := by
  obtain ⟨n, hn⟩ := exists_unbounded? (by decide) (by decide) hOperators
    fun a => (c.get (σ a)).toInt
  obtain ⟨v, hEval, hv⟩ := exists_eval_of_unbounded? (c := c) hn fun a ha =>
    ⟨(hOperands a ha).1, (hOperands a ha).2, (Int64.ofInt_toInt _).symm⟩
  refine ⟨n, v, hn, hEval, hv.live, hv.kind, fun i => ?_⟩
  rw [hv.get, eq_ofInt_iff]

end Expression

/-- An expression of `+`, `-`, `*` and the unary `+`, `-`, `~`, `++`, `--` over integers always
comes to an integer: the one 64-bit integer that is congruent modulo 2^64 to the number of the
expression over the unbounded integers. Over pairs it always comes to a pair, and the same holds in
both components. -/
theorem ring_expression_exact {α : Type} (σ : α → Value) (e : Expression α)
    (hOperators : e.Uses [.identity, .negate, .complement, .increment, .decrement]
      [.add, .sub, .mul]) :
    ((∀ a ∈ e.operands, (σ a).isNull = false ∧ (σ a).kind = .integer) →
      ∃ n v, e.unbounded? (fun a => (σ a).integer.toInt) = some n ∧ e.eval σ = .ok v ∧
        v.isNull = false ∧ v.kind = .integer ∧
        ∀ i : Int64, i.toInt ≡ n [ZMOD 2 ^ 64] ↔ i = v.integer) ∧
    ((∀ a ∈ e.operands, (σ a).isNull = false ∧ (σ a).kind = .pair) →
      ∃ x y v, e.unbounded? (fun a => (σ a).pair.x.toInt) = some x ∧
        e.unbounded? (fun a => (σ a).pair.y.toInt) = some y ∧ e.eval σ = .ok v ∧
        v.isNull = false ∧ v.kind = .pair ∧
        (∀ i : Int64, i.toInt ≡ x [ZMOD 2 ^ 64] ↔ i = v.pair.x) ∧
        ∀ i : Int64, i.toInt ≡ y [ZMOD 2 ^ 64] ↔ i = v.pair.y) := by
  constructor
  · intro hOperands
    exact Expression.exists_eval_unbounded (c := .integer) hOperators hOperands
  · intro hOperands
    obtain ⟨x, v, hx, hEval, hLive, hKind, hFirst⟩ :=
      Expression.exists_eval_unbounded (c := .first) hOperators hOperands
    obtain ⟨y, w, hy, hEval', -, -, hSecond⟩ :=
      Expression.exists_eval_unbounded (c := .second) hOperators hOperands
    cases hEval.symm.trans hEval'
    exact ⟨x, y, v, hx, hy, hEval, hLive, hKind, hFirst, hSecond⟩

/-- A product of which both factors leave the range in the first component. -/
theorem ring_expression_exact_overflow :
    let e : Expression Bool :=
      .binary .mul (.unary .negate (.operand true)) (.unary .increment (.operand false))
    let σ := fun b => Value.ofPair (cond b ⟨Int64.minValue, 3⟩ ⟨Int64.maxValue, -5⟩)
    e.Uses [.identity, .negate, .complement, .increment, .decrement] [.add, .sub, .mul] ∧
      (∀ a ∈ e.operands, (σ a).isNull = false ∧ (σ a).kind = .pair) ∧
      e.unbounded? (fun a => (σ a).pair.x.toInt) = some (2 ^ 126) ∧
      e.unbounded? (fun a => (σ a).pair.y.toInt) = some 12 ∧
      ∃ v, e.eval σ = .ok v ∧ v.kind = .pair ∧ v.pair = ⟨0, 12⟩ := by
  intro e σ
  have hOperators : e.Uses [.identity, .negate, .complement, .increment, .decrement]
      [.add, .sub, .mul] := by simp [e, Expression.Uses]
  have hOperands : ∀ a ∈ e.operands, (σ a).isNull = false ∧ (σ a).kind = .pair :=
    fun a _ => ⟨rfl, rfl⟩
  have hFirst : e.unbounded? (fun a => (σ a).pair.x.toInt) = some (2 ^ 126) := by decide
  have hSecond : e.unbounded? (fun a => (σ a).pair.y.toInt) = some 12 := by decide
  obtain ⟨x, y, v, hx, hy, hEval, -, hKind, hvx, hvy⟩ :=
    (ring_expression_exact σ e hOperators).2 hOperands
  cases hx.symm.trans hFirst
  cases hy.symm.trans hSecond
  have hPair : v.pair = ⟨0, 12⟩ :=
    congrArg₂ Pair.mk ((hvx 0).mp (by decide)).symm ((hvy 12).mp (by decide)).symm
  exact ⟨hOperators, hOperands, hFirst, hSecond, v, hEval, hKind, hPair⟩

end ScriptValue
