import ScriptValue.Proofs.Operator.Outcome

/-!
# Kinds of expressions

An expression is a tree of operators over operands. What it comes to, an error or a value of some
kind, is told from the kinds of its operands alone, up to division by zero.

`Expression.profile` calculates with kinds instead of values: with a `Profile` for each value, which
says its kind and whether it is null. `Expression.profile_eval` says that it follows the evaluation
unless that divides by zero, and `expression_kinds_sound` compares two evaluations over operands
of the same profiles.
-/

namespace ScriptValue

/-! ## Expressions -/

inductive Expression (α : Type) where
  | operand (a : α)
  | unary (op : UnaryOp) (e : Expression α)
  | binary (op : BinaryOp) (l r : Expression α)

namespace Expression

variable {α : Type}

/-- The operands of an expression from left to right. -/
def operands : Expression α → List α
  | operand a => [a]
  | unary _ e => e.operands
  | binary _ l r => l.operands ++ r.operands

/-- The value of an expression. Operands are evaluated from left to right, and the first error
ends the evaluation. -/
def eval (σ : α → Value) : Expression α → Except OperatorError Value
  | operand a => .ok (σ a)
  | unary op e => do
    let v ← e.eval σ
    Value.unary op v
  | binary op l r => do
    let v ← l.eval σ
    let w ← r.eval σ
    Value.binary op v w

end Expression

/-- A run that ends with a division by zero. -/
def DividesByZero (x : Except OperatorError Value) : Prop :=
  ∃ symbol, x = .error (.zeroDivisor symbol)

/-! ## Profiles -/

/-- What a calculation with kinds knows of a value. -/
structure Profile where
  isNull : Bool
  kind : Kind
deriving DecidableEq

def Value.profile (v : Value) : Profile :=
  ⟨v.isNull, v.kind⟩

/-- The profile of a run that fails with the given fault or makes a value of the given kind. -/
def Profile.settled (fault : Option OperatorError) (kind : Kind) : Except OperatorError Profile :=
  match fault with
  | some e => .error e
  | none => .ok ⟨false, kind⟩

def UnaryOp.profile (op : UnaryOp) (p : Profile) : Except OperatorError Profile :=
  if p.isNull then .error (.nullOperand op.symbol)
  else if op = .identity then .ok p
  else if p.kind = .pointer ∧ op ≠ .not then .ok Value.null.profile
  else Profile.settled (op.fault? p.kind) p.kind

/-- The profile of the result of a binary operator, if the divisor is not zero. -/
def BinaryOp.profile (op : BinaryOp) (p q : Profile) : Except OperatorError Profile :=
  if p.isNull ∨ q.isNull then .error (.nullOperand op.symbol)
  else match governing? op.ladder p.kind q.kind with
    | none => .ok Value.null.profile
    | some governing =>
      Profile.settled (op.kindFault? governing p.kind q.kind) (op.resultKind governing)

/-- The profile of an expression, from the profiles of its operands. -/
def Expression.profile {α : Type} (π : α → Profile) :
    Expression α → Except OperatorError Profile
  | operand a => .ok (π a)
  | unary op e => do
    let p ← e.profile π
    op.profile p
  | binary op l r => do
    let p ← l.profile π
    let q ← r.profile π
    op.profile p q

/-! ## Operators -/

theorem Settles.map_profile {x : Except OperatorError Value} {fault : Option OperatorError}
    {kind : Kind} (h : Settles x fault kind) :
    x.map Value.profile = Profile.settled fault kind := by
  cases fault with
  | some e =>
    have hx : x = .error e := h
    rw [hx]
    rfl
  | none =>
    obtain ⟨s, rfl, rfl⟩ := h
    simp [Except.map, Value.profile, Profile.settled]

theorem Value.profile_unary (op : UnaryOp) (v : Value) :
    (Value.unary op v).map Value.profile = op.profile v.profile := by
  have hProfile : v.profile = ⟨v.isNull, v.kind⟩ := rfl
  unfold UnaryOp.profile
  rw [hProfile]
  rcases Value.unary_cases op v with
    ⟨hv, hFails⟩ | ⟨hv, hIdentity, hKeeps⟩ | ⟨hv, hIdentity, hPointer, hMakes⟩ |
    ⟨hv, hIdentity, hPointer, hSettles⟩
  · rw [hFails]
    simp [Except.map, hv]
  · rw [hKeeps]
    simp [Except.map, Value.profile, hv, hIdentity]
  · rw [hMakes]
    simp [Except.map, hv, hIdentity, hPointer]
  · rw [hSettles.map_profile]
    simp [hv, hIdentity, hPointer]

/-- Either the divisor is zero, or the profile of the result is told from the profiles of the
operands. -/
theorem Value.profile_binary (op : BinaryOp) (v w : Value) :
    Value.binary op v w = .error (.zeroDivisor op.symbol) ∨
      (Value.binary op v w).map Value.profile = op.profile v.profile w.profile := by
  have hProfiles : v.profile = ⟨v.isNull, v.kind⟩ ∧ w.profile = ⟨w.isNull, w.kind⟩ := ⟨rfl, rfl⟩
  unfold BinaryOp.profile
  rw [hProfiles.1, hProfiles.2]
  rcases Value.binary_cases op v w with
    ⟨hNull, hFails⟩ | ⟨hv, hw, hGoverning, hMakes⟩ | ⟨hv, hw, governing, hGoverning, hSettles⟩
  · right
    rw [hFails]
    simp [Except.map, hNull]
  · right
    rw [hMakes]
    simp [Except.map, hv, hw, hGoverning]
  · unfold BinaryOp.liveFault? at hSettles
    simp only [hv, hw, hGoverning, Bool.false_eq_true, or_self, if_false]
    cases hKindFault : op.kindFault? governing v.kind w.kind with
    | some e =>
      rw [hKindFault] at hSettles
      exact Or.inr hSettles.map_profile
    | none =>
      rw [hKindFault, Option.none_or] at hSettles
      by_cases hDivision : (op = .div ∨ op = .rem) ∧ w.isZeroDivisor governing
      · left
        simp only [BinaryOp.divisionFault?, hDivision, and_self, if_true] at hSettles
        exact hSettles
      · right
        simp only [BinaryOp.divisionFault?, hDivision, if_false] at hSettles
        exact hSettles.map_profile

/-! ## Evaluation -/

theorem map_profile_bind {x : Except OperatorError Value}
    {f : Value → Except OperatorError Value} {y : Except OperatorError Profile}
    {g : Profile → Except OperatorError Profile} (hZero : ¬DividesByZero (x >>= f))
    (hx : ¬DividesByZero x → x.map Value.profile = y)
    (hf : ∀ v, ¬DividesByZero (f v) → (f v).map Value.profile = g v.profile) :
    (x >>= f).map Value.profile = y >>= g := by
  cases x with
  | error e =>
    rw [← hx hZero]
    rfl
  | ok v =>
    have hNoZero : ¬DividesByZero (.ok v) := fun ⟨_, h⟩ => by cases h
    rw [← hx hNoZero]
    exact hf v hZero

namespace Expression

variable {α : Type}

/-- Up to division by zero, calculating with profiles follows the evaluation. -/
theorem profile_eval {σ : α → Value} {e : Expression α} (hZero : ¬DividesByZero (e.eval σ)) :
    (e.eval σ).map Value.profile = e.profile fun a => (σ a).profile := by
  induction e with
  | operand a => rfl
  | unary op e ih => exact map_profile_bind hZero ih fun v _ => Value.profile_unary op v
  | binary op l r ihl ihr =>
    refine map_profile_bind hZero ihl fun v hZero => ?_
    refine map_profile_bind hZero ihr fun w hZero => ?_
    rcases Value.profile_binary op v w with hDivides | hProfile
    · exact absurd ⟨_, hDivides⟩ hZero
    · exact hProfile

theorem profile_congr {π ρ : α → Profile} {e : Expression α} (h : ∀ a ∈ e.operands, π a = ρ a) :
    e.profile π = e.profile ρ := by
  induction e with
  | operand a => exact congrArg Except.ok (h a (List.mem_singleton_self a))
  | unary op e ih =>
    unfold profile
    rw [ih h]
  | binary op l r ihl ihr =>
    unfold profile
    rw [ihl fun a ha => h a (List.mem_append_left _ ha),
      ihr fun a ha => h a (List.mem_append_right _ ha)]

theorem eval_unary_of_ok {σ : α → Value} {e : Expression α} {v : Value} (he : e.eval σ = .ok v)
    (op : UnaryOp) : (unary op e).eval σ = Value.unary op v := by
  unfold eval
  rw [he]
  rfl

theorem eval_binary_of_ok {σ : α → Value} {l r : Expression α} {v w : Value}
    (hl : l.eval σ = .ok v) (hr : r.eval σ = .ok w) (op : BinaryOp) :
    (binary op l r).eval σ = Value.binary op v w := by
  unfold eval
  rw [hl, hr]
  rfl

end Expression

/-! ## Results -/

theorem Value.eq_null_or_kind_of_binary {op : BinaryOp} {v w res : Value}
    (hRun : Value.binary op v w = .ok res) :
    res = .null ∨ res.isNull = false ∧ ∃ governing,
      governing? op.ladder v.kind w.kind = some governing ∧ res.kind = op.resultKind governing := by
  rcases Value.binary_cases op v w with
    ⟨-, hFails⟩ | ⟨-, -, -, hMakes⟩ | ⟨-, -, governing, hGoverning, hSettles⟩
  · cases hFails.symm.trans hRun
  · cases hMakes.symm.trans hRun
    exact Or.inl rfl
  · obtain ⟨s, hKind, rfl⟩ := hSettles.source_of_ok hRun
    exact Or.inr ⟨Value.isNull_ofSource s, governing, hGoverning, by
      rw [Value.kind_ofSource, hKind]⟩

/-- Take two evaluations of an expression, with operands of the same kinds that are null in the
same places. Unless one of them divides by zero, both come to the same error, or to values of the
same kind that are both null or both not.

A comparison makes a boolean or null, and any other binary operator makes a value of the governing
kind or null. A null that two pointers make lets every operator fail that is applied to it. -/
theorem expression_kinds_sound {α : Type} (σ τ : α → Value) :
    (∀ e : Expression α,
      (∀ a ∈ e.operands, (σ a).kind = (τ a).kind ∧ (σ a).isNull = (τ a).isNull) →
        ¬DividesByZero (e.eval σ) → ¬DividesByZero (e.eval τ) →
          (e.eval σ).map Value.profile = (e.eval τ).map Value.profile) ∧
      (∀ (op : BinaryOp) (l r : Expression α) (v w res : Value), l.eval σ = .ok v →
        r.eval σ = .ok w → (Expression.binary op l r).eval σ = .ok res →
          res = .null ∨ res.isNull = false ∧ ∃ governing,
            governing? op.ladder v.kind w.kind = some governing ∧
              res.kind = if op = .equal ∨ op = .notEqual then .boolean else governing) ∧
      ∀ (op : BinaryOp) (l r : Expression α) (v w : Value), l.eval σ = .ok v →
        r.eval σ = .ok w → v.profile = ⟨false, .pointer⟩ → w.profile = ⟨false, .pointer⟩ →
          (Expression.binary op l r).eval σ = .ok .null ∧
            (∀ op' : UnaryOp, (Expression.unary op' (.binary op l r)).eval σ =
              .error (.nullOperand op'.symbol)) ∧
            ∀ (op' : BinaryOp) (other : Expression α) (x : Value), other.eval σ = .ok x →
              (Expression.binary op' (.binary op l r) other).eval σ =
                  .error (.nullOperand op'.symbol) ∧
                (Expression.binary op' other (.binary op l r)).eval σ =
                  .error (.nullOperand op'.symbol) := by
  refine ⟨fun e hOperands hσ hτ => ?_, fun op l r v w res hl hr hRun => ?_,
    fun op l r v w hl hr hv hw => ?_⟩
  · have hProfiles : ∀ a ∈ e.operands, (σ a).profile = (τ a).profile := by
      intro a ha
      obtain ⟨hKind, hNull⟩ := hOperands a ha
      simp [Value.profile, hKind, hNull]
    calc (e.eval σ).map Value.profile
        = e.profile fun a => (σ a).profile := Expression.profile_eval hσ
      _ = e.profile fun a => (τ a).profile := Expression.profile_congr hProfiles
      _ = (e.eval τ).map Value.profile := (Expression.profile_eval hτ).symm
  · rw [Expression.eval_binary_of_ok hl hr] at hRun
    exact Value.eq_null_or_kind_of_binary hRun
  · obtain ⟨hvNull, hvKind⟩ : v.isNull = false ∧ v.kind = .pointer := by
      simpa [Value.profile] using hv
    obtain ⟨hwNull, hwKind⟩ : w.isNull = false ∧ w.kind = .pointer := by
      simpa [Value.profile] using hw
    have hEval : (Expression.binary op l r).eval σ = .ok .null := by
      rw [Expression.eval_binary_of_ok hl hr]
      exact Value.binary_of_no_governing hvNull hwNull
        (BinaryOp.governing?_eq_none_iff.mpr ⟨hvKind, hwKind⟩)
    refine ⟨hEval, fun op' => ?_, fun op' other x hOther => ⟨?_, ?_⟩⟩
    · rw [Expression.eval_unary_of_ok hEval, Value.unary_of_null op' rfl]
    · rw [Expression.eval_binary_of_ok hEval hOther, Value.binary_of_null op' (Or.inl rfl)]
    · rw [Expression.eval_binary_of_ok hOther hEval, Value.binary_of_null op' (Or.inr rfl)]

/-- A quotient by the number that the name of a pointer reads as. -/
theorem expression_kinds_sound_quotient :
    let e : Expression Bool := .binary .div (.operand true) (.operand false)
    let σ := fun b => cond b (Value.ofInteger 7) (Value.ofPointer "2")
    let τ := fun b => cond b (Value.ofInteger 1) (Value.ofPointer "-3")
    ¬DividesByZero (e.eval σ) ∧ ¬DividesByZero (e.eval τ) ∧
      (e.eval σ).map Value.profile = (e.eval τ).map Value.profile := by
  intro e σ τ
  have hσ : ¬DividesByZero (e.eval σ) := by
    rintro ⟨symbol, h⟩
    cases h
  have hτ : ¬DividesByZero (e.eval τ) := by
    rintro ⟨symbol, h⟩
    cases h
  refine ⟨hσ, hτ, (expression_kinds_sound σ τ).1 e ?_ hσ hτ⟩
  intro a _
  cases a <;> exact ⟨rfl, rfl⟩

end ScriptValue
