import ScriptValue.Proofs.Operator.Outcome

/-!
# The synthesis of readings

`Source.readings` is the table of the five readings that belong to a source. A value is
synthesized if it is null with the fields that null has, or if its fields are those that the table
has for a source.

* `Value.synthesized_iff`: the synthesized values are those made from literals.
* `Value.Synthesized.refresh_eq`: refreshing leaves a synthesized value as it is.
* `Value.synthesized_binary`, `Value.synthesized_unary`: the results of operators are synthesized.
-/

namespace ScriptValue

/-! ## The table -/

/-- The readings that belong to a source. -/
def Source.readings : Source → Readings
  | .string text | .pointer text =>
    ⟨text, integerReading text, floatReading text, booleanReading text, pairReading text⟩
  | .integer i => ⟨toString i.toInt, i, Binary64.ofInteger i, i != 0, ⟨i, 0⟩⟩
  | .float f =>
    ⟨String.ofList (Binary64.text f), Binary64.truncate f, f, Binary64.truncate f != 0,
      ⟨Binary64.truncate f, 0⟩⟩
  | .boolean true => ⟨"True", 1, 1.0, true, ⟨1, 0⟩⟩
  | .boolean false => ⟨"False", 0, 0.0, false, ⟨0, 0⟩⟩
  | .pair p =>
    ⟨"(" ++ toString p.x.toInt ++ ", " ++ toString p.y.toInt ++ ")", p.x, Binary64.ofInteger p.x,
      p.x != 0, p⟩

/-- A value whose seven fields belong together. -/
inductive Value.Synthesized : Value → Prop where
  | null :
    Synthesized
      { string := "", integer := 0, float := Binary64.nan, boolean := false, pair := ⟨0, 0⟩,
        isNull := true, kind := .string }
  | live (s : Source) : Synthesized ⟨s.readings, false, s.kind⟩

/-! ## Texts of integers -/

theorem integerString_eq (i : Int64) : integerString i = toString i.toInt := by
  unfold integerString Numeral.integerText
  cases h : i.toInt with
  | ofNat n =>
    have hNatural : ¬(n : Int) < 0 := by omega
    simp [hNatural, Int.toString_eq_repr, Int.repr, Nat.repr]
  | negSucc n =>
    have hNegative : Int.negSucc n < 0 := Int.negSucc_lt_zero n
    simp [hNegative, Int.toString_eq_repr, Int.repr, Nat.repr]

theorem pairString_eq (p : Pair) :
    pairString p = "(" ++ toString p.x.toInt ++ ", " ++ toString p.y.toInt ++ ")" := by
  rw [← integerString_eq, ← integerString_eq]
  apply String.toList_inj.mp
  simp [pairString, Pair.text, integerString]

/-! ## Writing -/

namespace Value

theorem ofSource_eq (s : Source) : ofSource s = ⟨s.readings, false, s.kind⟩ := by
  cases s with
  | string | pointer | float => rfl
  | integer i =>
    have hText := integerString_eq i
    simp [ofSource, ofInteger, setInteger, Source.readings, Source.kind, hText]
  | boolean b =>
    have hOne : Binary64.ofInteger 1 = 1.0 := by decide +kernel
    have hZero : Binary64.ofInteger 0 = 0.0 := by decide +kernel
    unfold ofSource ofBoolean setBoolean booleanString
    cases b with
    | true => simp [Source.readings, Source.kind, hOne]
    | false => simp [Source.readings, Source.kind, hZero]
  | pair p =>
    have hText := pairString_eq p
    simp [ofSource, ofPair, setPair, Source.readings, Source.kind, hText]

/-- Strings and pointers have the readings of their texts. -/
theorem readings_of_text {make : String → Value} (hMake : make ∈ [ofString, ofPointer])
    (text : String) :
    (make text).integer = integerReading text ∧ (make text).float = floatReading text ∧
      (make text).boolean = booleanReading text ∧ (make text).pair = pairReading text := by
  have hReadings : (make text).toReadings = (Source.string text).readings := by
    simp only [List.mem_cons, List.not_mem_nil, or_false] at hMake
    rcases hMake with rfl | rfl <;> rfl
  exact ⟨congrArg (·.integer) hReadings, congrArg (·.float) hReadings,
    congrArg (·.boolean) hReadings, congrArg (·.pair) hReadings⟩

theorem synthesized_ofSource (s : Source) : (ofSource s).Synthesized := by
  rw [ofSource_eq]
  exact .live s

theorem synthesized_ofLiteral (l : Option Source) : (ofLiteral l).Synthesized := by
  cases l with
  | none => exact .null
  | some s => exact synthesized_ofSource s

theorem synthesized_iff {v : Value} : v.Synthesized ↔ ∃ l, v = ofLiteral l := by
  constructor
  · intro h
    cases h with
    | null => exact ⟨none, rfl⟩
    | live s => exact ⟨some s, (ofSource_eq s).symm⟩
  · rintro ⟨l, rfl⟩
    exact synthesized_ofLiteral l

/-- A synthesized value is the one made from its literal. -/
theorem Synthesized.ofLiteral_literal {v : Value} (h : v.Synthesized) :
    ofLiteral v.literal = v := by
  obtain ⟨l, rfl⟩ := synthesized_iff.mp h
  rw [literal_ofLiteral]

theorem synthesized_write (v : Value) (s : Source) : (v.write s).Synthesized := by
  rw [write_eq_ofSource]
  exact synthesized_ofSource s

theorem Synthesized.refresh_eq {v : Value} (h : v.Synthesized) : v.refresh = v := by
  obtain ⟨l, rfl⟩ := synthesized_iff.mp h
  cases l with
  | none => exact refresh_of_isNull rfl
  | some s =>
    have hLive : (ofSource s).isNull = false := isNull_ofSource s
    calc (ofSource s).refresh
        = (ofSource s).write (.ofReadings (ofSource s).kind (ofSource s).toReadings) :=
          refresh_of_live hLive
      _ = ofSource (.ofReadings (ofSource s).kind (ofSource s).toReadings) :=
          write_eq_ofSource _ _
      _ = ofSource s := by cases s <;> rfl

/-! ## Operators -/

theorem synthesized_of_settles {x : Except OperatorError Value} {fault : Option OperatorError}
    {kind : Kind} (hSettles : Settles x fault kind) {r : Value} (hRun : x = .ok r) :
    r.Synthesized := by
  obtain ⟨s, -, rfl⟩ := hSettles.source_of_ok hRun
  exact synthesized_ofSource s

theorem synthesized_binary {op : BinaryOp} {v w r : Value} (hRun : binary op v w = .ok r) :
    r.Synthesized := by
  rcases binary_cases op v w with ⟨-, hFails⟩ | ⟨-, -, -, hMakes⟩ | ⟨-, -, _, -, hSettles⟩
  · cases hFails.symm.trans hRun
  · cases hMakes.symm.trans hRun
    exact .null
  · exact synthesized_of_settles hSettles hRun

theorem synthesized_unary {op : UnaryOp} {v r : Value} (hv : v.Synthesized)
    (hRun : unary op v = .ok r) : r.Synthesized := by
  rcases unary_cases op v with
    ⟨-, hFails⟩ | ⟨-, -, hKeeps⟩ | ⟨-, -, -, hMakes⟩ | ⟨-, -, -, hSettles⟩
  · cases hFails.symm.trans hRun
  · cases hKeeps.symm.trans hRun
    exact hv
  · cases hMakes.symm.trans hRun
    exact .null
  · exact synthesized_of_settles hSettles hRun

end Value

end ScriptValue
