import ScriptValue.Proofs.Operator.Expression
import ScriptValue.Proofs.Session.Reachable

/-!
# Concatenation

A string lets `+` concatenate, whatever the other operand is: both are read as texts, and the
result is a string again. So a tree of sums joins the texts of its operands from left to right, in
whichever way it is grouped, as long as no two operands meet that are not strings. These would be
added in the domain of another kind.

* `Value.add_of_string`: one sum.
* `Expression.JoinsTexts`: the trees of sums in which a string takes part in every sum.
* `Value.foldlM_add_ofString`: sums one after the other.
* `concatenation_in_any_grouping`: trees, lists and the two groupings of three operands.
-/

namespace ScriptValue

/-! ## One sum -/

namespace Value

/-- A sum with a string fails on null only, and otherwise joins both texts. -/
theorem add_of_string {v w : Value} (hString : v.kind = .string ∨ w.kind = .string) :
    Value.binary .add v w =
      if v.isNull || w.isNull then .error (.nullOperand "+")
      else .ok (.ofString (v.string ++ w.string)) := by
  by_cases hNull : v.isNull = true ∨ w.isNull = true
  · rw [binary_of_null .add hNull, if_pos (by simpa using hNull)]
    rfl
  · obtain ⟨hv, hw⟩ : v.isNull = false ∧ w.isNull = false := by simpa using hNull
    have hGoverning := (@BinaryOp.governing?_eq_string_iff .add _ _).mpr hString
    rw [binary_of_governing (by decide) hv hw hGoverning rfl, if_neg (by simp [hv, hw])]
    rfl

theorem add_of_live {v w : Value} (hString : v.kind = .string ∨ w.kind = .string)
    (hv : v.isNull = false) (hw : w.isNull = false) :
    Value.binary .add v w = .ok (.ofString (v.string ++ w.string)) := by
  rw [add_of_string hString, hv, hw]
  rfl

end Value

/-! ## Trees of sums -/

namespace Expression

variable {α : Type} {σ : α → Value}

/-- The trees of sums over operands that are not null, in which every sum has an operand that
comes to a string. -/
inductive JoinsTexts (σ : α → Value) : Expression α → Prop where
  | operand {a : α} (hLive : (σ a).isNull = false) : JoinsTexts σ (.operand a)
  | sum {l r : Expression α} (hl : JoinsTexts σ l) (hr : JoinsTexts σ r)
      (hString : ∃ v, (l.eval σ = .ok v ∨ r.eval σ = .ok v) ∧ v.kind = .string) :
      JoinsTexts σ (.binary .add l r)

/-- The texts of the operands from left to right. -/
def joinedTexts (σ : α → Value) (e : Expression α) : String :=
  String.join (e.operands.map fun a => (σ a).string)

theorem joinedTexts_binary (op : BinaryOp) (l r : Expression α) :
    (binary op l r).joinedTexts σ = l.joinedTexts σ ++ r.joinedTexts σ := by
  simp only [joinedTexts, operands, List.map_append, String.join_append]

/-- An expression that comes to a value with this text, which is not null. -/
def HasText (σ : α → Value) (e : Expression α) (text : String) : Prop :=
  ∃ v, e.eval σ = .ok v ∧ v.isNull = false ∧ v.string = text

/-- A sum joins the texts of both sides. -/
theorem eval_sum {l r : Expression α} (hl : l.HasText σ (l.joinedTexts σ))
    (hr : r.HasText σ (r.joinedTexts σ))
    (hString : ∃ v, (l.eval σ = .ok v ∨ r.eval σ = .ok v) ∧ v.kind = .string) :
    (binary .add l r).eval σ = .ok (.ofString ((binary .add l r).joinedTexts σ)) := by
  obtain ⟨v, hEvalLeft, hv, hTextLeft⟩ := hl
  obtain ⟨w, hEvalRight, hw, hTextRight⟩ := hr
  have hKind : v.kind = .string ∨ w.kind = .string := by
    obtain ⟨u, hEval, hu⟩ := hString
    rw [hEvalLeft, hEvalRight, Except.ok.injEq, Except.ok.injEq] at hEval
    rcases hEval with rfl | rfl
    · exact Or.inl hu
    · exact Or.inr hu
  rw [eval_binary_of_ok hEvalLeft hEvalRight, Value.add_of_live hKind hv hw, hTextLeft,
    hTextRight, joinedTexts_binary]

/-- Such a tree comes to a value with the joined text of its operands. -/
theorem JoinsTexts.hasText {e : Expression α} (h : e.JoinsTexts σ) :
    e.HasText σ (e.joinedTexts σ) := by
  induction h with
  | @operand a hLive =>
    have hText : (Expression.operand a).joinedTexts σ = (σ a).string := by
      simp [joinedTexts, operands, String.join_cons]
    exact ⟨σ a, rfl, hLive, hText.symm⟩
  | sum _ _ hString ihl ihr => exact ⟨_, eval_sum ihl ihr hString, rfl, rfl⟩

end Expression

/-! ## Sums one after the other -/

namespace Value

theorem foldlM_add_ofString {vs : List Value} (hvs : ∀ v ∈ vs, v.isNull = false)
    (text : String) :
    vs.foldlM (Value.binary .add) (ofString text) =
      .ok (ofString (text ++ String.join (vs.map (·.string)))) := by
  induction vs generalizing text with
  | nil => simp; rfl
  | cons v vs ih =>
    have hv : v.isNull = false := hvs v List.mem_cons_self
    have hSum : Value.binary .add (ofString text) v = .ok (ofString (text ++ v.string)) :=
      add_of_live (Or.inl rfl) rfl hv
    rw [List.foldlM_cons, hSum, List.map_cons, String.join_cons, ← String.append_assoc]
    exact ih (fun w hw => hvs w (List.mem_cons_of_mem v hw)) _

/-- A string that a session reaches is made of its text. -/
theorem eq_ofString {v : Value} (hv : Reachable v) (hLive : v.isNull = false)
    (hKind : v.kind = .string) : v = ofString v.string := by
  have hLiteral : v.literal = some (.string v.string) := by
    simp [literal, hLive, hKind, Source.ofReadings]
  calc v = ofLiteral v.literal := hv.synthesized.ofLiteral_literal.symm
    _ = ofString v.string := by rw [hLiteral, ofLiteral, ofSource]

/-! ## Two groupings -/

section

variable {a b c : Value}

/-- What three operands with a string among them come to: an error if one of them is null. -/
def sumOfThree (a b c : Value) : Except OperatorError Value :=
  if a.isNull || b.isNull || c.isNull then .error (.nullOperand "+")
  else .ok (.ofString (a.string ++ b.string ++ c.string))

theorem sum_grouped_left (hb : b.kind = .string) :
    (do Value.binary .add (← Value.binary .add a b) c) = sumOfThree a b c := by
  unfold sumOfThree
  rw [add_of_string (Or.inr hb)]
  cases a.isNull || b.isNull with
  | true => rfl
  | false => exact add_of_string (Or.inl rfl)

theorem sum_grouped_right (hb : b.kind = .string) :
    (do Value.binary .add a (← Value.binary .add b c)) = sumOfThree a b c := by
  unfold sumOfThree
  rw [add_of_string (Or.inl hb), Bool.or_assoc, String.append_assoc]
  cases b.isNull || c.isNull with
  | true =>
    rw [Bool.or_true]
    rfl
  | false => exact add_of_string (Or.inr rfl)

theorem sumOfThree_of_live (ha : a.isNull = false) (hb : b.isNull = false) (hc : c.isNull = false) :
    sumOfThree a b c = .ok (.ofString (a.string ++ b.string ++ c.string)) := by
  rw [sumOfThree, ha, hb, hc]
  rfl

end

end Value

/-- A tree of sums over operands that are not null makes a string of all their texts, from left to
right, if every sum in it has a string on one side. So do sums one after the other that start with
a string; a list of this string alone leaves it as it is. Three operands with a string in the
middle come to the same in both groupings, and to a string unless one of them is null. -/
theorem concatenation_in_any_grouping {α : Type} (σ : α → Value) :
    (∀ l r : Expression α, (Expression.binary .add l r).JoinsTexts σ →
      (Expression.binary .add l r).eval σ =
        .ok (.ofString (String.join ((l.operands ++ r.operands).map fun a => (σ a).string)))) ∧
    (∀ (v : Value) (vs : List Value), Reachable v → v.kind = .string →
      (∀ w ∈ v :: vs, w.isNull = false) →
        vs.foldlM (Value.binary .add) v =
          .ok (.ofString (String.join ((v :: vs).map (·.string))))) ∧
    (∀ a b c : Value, b.kind = .string →
      (do Value.binary .add (← Value.binary .add a b) c) =
          (do Value.binary .add a (← Value.binary .add b c)) ∧
        ((∀ v ∈ [a, b, c], v.isNull = false) →
          (do Value.binary .add (← Value.binary .add a b) c) =
            .ok (.ofString (a.string ++ b.string ++ c.string)))) := by
  refine ⟨fun l r hTree => ?_, fun v vs hv hKind hLive => ?_, fun a b c hb => ⟨?_, fun hLive => ?_⟩⟩
  · cases hTree with
    | sum hl hr hString => exact Expression.eval_sum hl.hasText hr.hasText hString
  · obtain ⟨hvLive, hvsLive⟩ := List.forall_mem_cons.mp hLive
    rw [List.map_cons, String.join_cons]
    calc vs.foldlM (Value.binary .add) v
        = vs.foldlM (Value.binary .add) (.ofString v.string) := by
          rw [← Value.eq_ofString hv hvLive hKind]
      _ = .ok (.ofString (v.string ++ String.join (vs.map (·.string)))) :=
          Value.foldlM_add_ofString hvsLive v.string
  · rw [Value.sum_grouped_left hb, Value.sum_grouped_right hb]
  · rw [Value.sum_grouped_left hb]
    exact Value.sumOfThree_of_live (hLive a (by simp)) (hLive b (by simp)) (hLive c (by simp))

/-- A string on the right of one sum and on the left of the other one, a string followed by a
boolean and a pointer, and a string between an integer and a pair. -/
theorem concatenation_in_any_grouping_mixed :
    let three := Value.ofInteger (-3)
    let text := Value.ofString "a"
    let pair := Value.ofPair ⟨1, 2⟩
    let l : Expression Value := .binary .add (.operand three) (.operand text)
    let r : Expression Value := .binary .add (.operand text) (.operand pair)
    (Expression.binary .add l r).JoinsTexts id ∧
      (Expression.binary .add l r).eval id = .ok (.ofString "-3aa(1, 2)") ∧
      Reachable text ∧ text.kind = .string ∧
      [.ofBoolean true, .ofPointer "b"].foldlM (Value.binary .add) text =
        .ok (.ofString "aTrueb") ∧
      (do Value.binary .add (← Value.binary .add three text) pair) =
        .ok (.ofString "-3a(1, 2)") ∧
      (do Value.binary .add three (← Value.binary .add text pair)) =
        .ok (.ofString "-3a(1, 2)") := by
  intro three text pair l r
  have hReachable : Reachable text := ⟨[.put 0 (.write (.string "a"))], 0, rfl⟩
  have hTree : (Expression.binary .add l r).JoinsTexts id :=
    .sum (.sum (.operand rfl) (.operand rfl) ⟨text, Or.inr rfl, rfl⟩)
      (.sum (.operand rfl) (.operand rfl) ⟨text, Or.inl rfl, rfl⟩) ⟨_, Or.inl rfl, rfl⟩
  obtain ⟨hTrees, hLists, hGroupings⟩ := concatenation_in_any_grouping (id : Value → Value)
  obtain ⟨hSame, hSum⟩ := hGroupings three text pair rfl
  have hLeft : (do Value.binary .add (← Value.binary .add three text) pair) =
      .ok (.ofString "-3a(1, 2)") := hSum (by decide)
  refine ⟨hTree, hTrees l r hTree, hReachable, rfl, ?_, hLeft, hSame.symm.trans hLeft⟩
  exact hLists text _ hReachable rfl (by decide)

/-- Integers that meet before the string are added as such. -/
example :
    (do Value.binary .add (← Value.binary .add (.ofInteger 1) (.ofInteger 2)) (.ofString "a")) =
        .ok (.ofString "3a") ∧
      (do Value.binary .add (.ofInteger 1) (← Value.binary .add (.ofInteger 2) (.ofString "a"))) =
        .ok (.ofString "12a") :=
  ⟨rfl, rfl⟩

end ScriptValue
