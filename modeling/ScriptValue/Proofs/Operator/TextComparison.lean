import ScriptValue.Proofs.Operator.Comparison
import ScriptValue.Proofs.Pair.Text
import ScriptValue.Proofs.Session.Reachable

/-!
# Comparison by text

The text of an integer, a boolean or a pair reads as what it was made of. So two values of one of
these kinds have the same text only if they are the same value, and it makes no difference whether
they are compared as they are, one of them by its text, or both. This is peculiar to these kinds:
two numbers in floating point count as equal if they are close, and then their texts may differ.

* `Source.ofReadings_ofString`: a text reads as its source.
* `Value.string_inj`: different sources have different texts.
* `Value.comparison_by_text`: the values of sessions.
-/

namespace ScriptValue

/-! ## Readings of texts -/

theorem integerReading_integerString (i : Int64) : integerReading (integerString i) = i :=
  integerReading_of_denotes (Numeral.denotes_integerText i)

theorem booleanReading_booleanString (b : Bool) : booleanReading (booleanString b) = b := by
  cases b <;> rfl

theorem pairReading_pairString (p : Pair) : pairReading (pairString p) = p := by
  unfold pairReading pairString
  rw [String.toList_ofList, Pair.read?_text]
  rfl

theorem Value.toReadings_ofString (text : String) :
    (Value.ofString text).toReadings =
      ⟨text, integerReading text, floatReading text, booleanReading text, pairReading text⟩ :=
  rfl

/-- The kinds whose values agree only if they are the same. -/
def Kind.isExact : Kind → Bool
  | integer | boolean | pair => true
  | _ => false

/-- The text of a source, read in the domain of its kind, is this source. -/
theorem Source.ofReadings_ofString {s : Source} (hs : s.kind.isExact = true) :
    ofReadings s.kind (Value.ofString (Value.ofSource s).string).toReadings = s := by
  rw [Value.toReadings_ofString]
  cases s with
  | integer i =>
    have hText : (Value.ofSource (integer i)).string = integerString i := rfl
    simp only [kind, ofReadings, hText, integerReading_integerString]
  | boolean b =>
    have hText : (Value.ofSource (boolean b)).string = booleanString b := rfl
    simp only [kind, ofReadings, hText, booleanReading_booleanString]
  | pair p =>
    have hText : (Value.ofSource (pair p)).string = pairString p := rfl
    simp only [kind, ofReadings, hText, pairReading_pairString]
  | _ => cases hs

namespace Value

theorem ofSource_inj {s t : Source} : ofSource s = ofSource t ↔ s = t := by
  constructor
  · intro h
    have hLiteral := congrArg literal h
    simpa using hLiteral
  · rintro rfl
    rfl

/-- Different sources of one kind have different texts. -/
theorem string_inj {s t : Source} (hs : s.kind.isExact = true) (hKind : s.kind = t.kind) :
    (ofSource s).string = (ofSource t).string ↔ s = t := by
  constructor
  · intro h
    calc s = .ofReadings s.kind (ofString (ofSource s).string).toReadings :=
          (Source.ofReadings_ofString hs).symm
      _ = .ofReadings t.kind (ofString (ofSource t).string).toReadings := by rw [h, hKind]
      _ = t := Source.ofReadings_ofString (hKind ▸ hs)
  · rintro rfl
    rfl

/-! ## Agreement -/

/-- The source of a value is the reading that its kind picks out. -/
theorem ofReadings_ofSource (s : Source) : .ofReadings s.kind (ofSource s).toReadings = s := by
  cases s <;> rfl

theorem agrees_of_isExact {k : Kind} (hk : k.isExact = true) (v w : Value) :
    agrees k v w = decide (Source.ofReadings k v.toReadings = .ofReadings k w.toReadings) := by
  cases k with
  | integer => exact Bool.eq_iff_iff.mpr (by simp [agrees, Source.ofReadings])
  | boolean => exact Bool.eq_iff_iff.mpr (by simp [agrees, Source.ofReadings])
  | pair => exact Bool.eq_iff_iff.mpr (by simp [agrees, Source.ofReadings])
  | _ => cases hk

/-- A text is compared with the text of the other operand. -/
theorem equal_ofString (text : String) {w : Value} (hw : w.isNull = false) :
    Value.binary .equal (ofString text) w = .ok (.ofBoolean (text == w.string)) := by
  have hGoverning : governing? arithmeticLadder (ofString text).kind w.kind = some .string :=
    (@BinaryOp.governing?_eq_string_iff .equal _ _).mpr (Or.inl rfl)
  exact (binary_comparison rfl hw hGoverning).1

/-- Two sources of one kind are compared in the same way by value, by the text of one of them and
by both texts. -/
theorem equal_ofSource {s t : Source} (hs : s.kind.isExact = true) (hKind : s.kind = t.kind) :
    Value.binary .equal (ofSource s) (ofSource t) = .ok (.ofBoolean (decide (s = t))) ∧
      Value.binary .equal (ofString (ofSource s).string) (ofSource t) =
        .ok (.ofBoolean (decide (s = t))) ∧
      Value.binary .equal (ofString (ofSource s).string) (ofString (ofSource t).string) =
        .ok (.ofBoolean (decide (s = t))) := by
  have hPointer : s.kind ≠ .pointer := by
    intro h
    rw [h] at hs
    cases hs
  have hGoverning : governing? arithmeticLadder (ofSource s).kind (ofSource t).kind =
      some s.kind := by
    rw [kind_ofSource, kind_ofSource, ← hKind]
    exact BinaryOp.governing?_self .equal hPointer
  have hByValue := (binary_comparison (isNull_ofSource s) (isNull_ofSource t) hGoverning).1
  rw [agrees_of_isExact hs, ofReadings_ofSource, hKind, ofReadings_ofSource] at hByValue
  have hByText : ((ofSource s).string == (ofSource t).string) = decide (s = t) :=
    Bool.eq_iff_iff.mpr (by simp [string_inj hs hKind])
  refine ⟨hByValue, ?_, ?_⟩
  · rw [equal_ofString _ (isNull_ofSource t), hByText]
  · have hText (text : String) : (ofString text).string = text := rfl
    rw [equal_ofString _ rfl, hText, hByText]

/-- Null counts as a string, so a reachable value of another kind has a source. -/
theorem exists_source {v : Value} (hv : Reachable v) (hExact : v.kind.isExact = true) :
    ∃ s, v = ofSource s := by
  obtain ⟨l, rfl⟩ := synthesized_iff.mp hv.synthesized
  cases l with
  | none => cases hExact
  | some s => exact ⟨s, rfl⟩

/-- The text of an integer, a boolean or a pair reads back, as a string and as a pointer. So two
values of the same one of these kinds compare by value as they do by their texts, and as one does by
its text with the other: they are equal if they are the same value. -/
theorem comparison_by_text :
    (∀ make ∈ [ofString, ofPointer],
      (∀ i, (make (ofInteger i).string).integer = i) ∧
      (∀ b, (make (ofBoolean b).string).boolean = b) ∧
      ∀ p, (make (ofPair p).string).pair = p) ∧
    ∀ u v, Reachable u → Reachable v → u.kind = v.kind → u.kind ∈ [.integer, .boolean, .pair] →
      ∃ b, (b = true ↔ u = v) ∧
        Value.binary .equal u v = .ok (.ofBoolean b) ∧
        Value.binary .equal (ofString u.string) v = .ok (.ofBoolean b) ∧
        Value.binary .equal (ofString u.string) (ofString v.string) = .ok (.ofBoolean b) := by
  constructor
  · intro make hMake
    have hReadings : ∀ text, (make text).integer = integerReading text ∧
        (make text).boolean = booleanReading text ∧ (make text).pair = pairReading text := by
      intro text
      simp only [List.mem_cons, List.not_mem_nil, or_false] at hMake
      rcases hMake with rfl | rfl <;> exact ⟨rfl, rfl, rfl⟩
    refine ⟨fun i => ?_, fun b => ?_, fun p => ?_⟩
    · have hText : (ofInteger i).string = integerString i := rfl
      rw [(hReadings _).1, hText, integerReading_integerString]
    · have hText : (ofBoolean b).string = booleanString b := rfl
      rw [(hReadings _).2.1, hText, booleanReading_booleanString]
    · have hText : (ofPair p).string = pairString p := rfl
      rw [(hReadings _).2.2, hText, pairReading_pairString]
  · intro u v hu hv hKind hMem
    have hExact : u.kind.isExact = true := by
      simp only [List.mem_cons, List.not_mem_nil, or_false] at hMem
      rcases hMem with h | h | h <;> rw [h] <;> rfl
    obtain ⟨s, rfl⟩ := exists_source hu hExact
    obtain ⟨t, rfl⟩ := exists_source hv (hKind ▸ hExact)
    rw [kind_ofSource, kind_ofSource] at hKind
    rw [kind_ofSource] at hExact
    refine ⟨decide (s = t), ?_, equal_ofSource hExact hKind⟩
    rw [decide_eq_true_eq, ofSource_inj]

/-- Two pairs with the same first component, which is the least integer, and different second
ones. -/
theorem comparison_by_text_least :
    (ofPointer (ofInteger Int64.minValue).string).integer = Int64.minValue ∧
      let u := ofPair ⟨Int64.minValue, 3⟩
      let v := ofPair ⟨Int64.minValue, -3⟩
      Reachable u ∧ Reachable v ∧ u.kind = v.kind ∧ u.kind ∈ [.integer, .boolean, .pair] ∧
        Value.binary .equal u v = .ok (.ofBoolean false) ∧
        Value.binary .equal (ofString u.string) v = .ok (.ofBoolean false) ∧
        Value.binary .equal (ofString u.string) (ofString v.string) = .ok (.ofBoolean false) := by
  refine ⟨(comparison_by_text.1 ofPointer (by simp)).1 Int64.minValue, ?_⟩
  intro u v
  have hu : Reachable u := ⟨[.put 0 (.write (.pair ⟨Int64.minValue, 3⟩))], 0, rfl⟩
  have hv : Reachable v := ⟨[.put 0 (.write (.pair ⟨Int64.minValue, -3⟩))], 0, rfl⟩
  have hMem : u.kind ∈ [.integer, .boolean, .pair] := by decide
  have hNe : u ≠ v := fun h => absurd (ofPair_inj h) (by decide)
  obtain ⟨b, hb, hRun⟩ := comparison_by_text.2 u v hu hv rfl hMem
  obtain rfl : b = false := Bool.eq_false_iff.mpr fun h => hNe (hb.mp h)
  exact ⟨hu, hv, rfl, hMem, hRun⟩

end Value

end ScriptValue
