import ScriptValue.Proofs.Binary64.Equality
import ScriptValue.Proofs.Session.Reachable

/-!
# Equality of representations

`Value.same` looks at the kinds of two values and at the reading that was written. A session keeps
the other readings in step with this one, so two of its values that are the same have all readings
in common. The exception comes from the numbers in floating point, which are compared as numbers:
the two zeros are equal, but their texts differ. NaN is not equal to itself, so that a value of NaN
is not even the same as itself.

* `Source.eq_or_zeros_of_same`: sources that are the same.
* `Value.same_iff_literal`: what is compared is the literal.
* `Value.same_representation`: the values of sessions.
-/

namespace ScriptValue

/-! ## Sources -/

/-- All sources that are the same are equal, but for the two zeros. -/
theorem Source.eq_or_zeros_of_same {s t : Source} (h : s.same t = true) :
    s = t ∨ ∃ x y, Binary64.OppositeZeros x y ∧ s = .float x ∧ t = .float y := by
  cases s with
  | float x =>
    cases t with
    | float y =>
      have hEqual : (x == y) = true := h
      rcases Binary64.beq_iff.mp hEqual with ⟨rfl, -⟩ | hZeros
      · exact Or.inl rfl
      · exact Or.inr ⟨x, y, hZeros, rfl, rfl⟩
    | _ => cases h
  | _ =>
    left
    cases t <;> simp_all [same]

namespace Value

variable {v w : Value}

theorem same_of_live (hv : v.isNull = false) (hw : w.isNull = false) :
    v.same w =
      (Source.ofReadings v.kind v.toReadings).same (.ofReadings w.kind w.toReadings) := by
  unfold same
  simp only [hv, hw, Bool.or_self, Bool.false_eq_true, if_false]
  cases v.kind <;> cases w.kind <;> rfl

/-- Two values are the same if both are null, or if neither is and their literals are. -/
theorem same_iff_literal :
    v.same w = true ↔ (v.isNull = true ∧ w.isNull = true) ∨
      (v.isNull = false ∧ w.isNull = false ∧
        ∃ s t, v.literal = some s ∧ w.literal = some t ∧ s.same t = true) := by
  cases hv : v.isNull with
  | true => simp [same, hv]
  | false =>
    cases hw : w.isNull with
    | true => simp [same, hv, hw]
    | false => simp [same_of_live hv hw, literal, hv, hw]

/-! ## Readings -/

/-- Two values with the same fields, but for their texts. Numbers in floating point are compared
as numbers, and all NaNs count as one. -/
structure ReadsAlike (v w : Value) : Prop where
  isNull : v.isNull = w.isNull
  kind : v.kind = w.kind
  integer : v.integer = w.integer
  float : (v.float == w.float) = true ∨ (v.float.isNaN = true ∧ w.float.isNaN = true)
  boolean : v.boolean = w.boolean
  pair : v.pair = w.pair

theorem ReadsAlike.refl (v : Value) : v.ReadsAlike v where
  isNull := rfl
  kind := rfl
  integer := rfl
  float := by
    cases hNaN : v.float.isNaN with
    | true => exact Or.inr ⟨rfl, rfl⟩
    | false => exact Or.inl (Binary64.beq_iff.mpr (Or.inl ⟨rfl, hNaN⟩))
  boolean := rfl
  pair := rfl

/-- The values of the two zeros, in either order. -/
def OppositeZeros (v w : Value) : Prop :=
  ∃ x y, Binary64.OppositeZeros x y ∧ v = ofFloat x ∧ w = ofFloat y

/-- The readings of a number but for its text are told from its integer part. -/
theorem readsAlike_ofFloat {x y : Float} (hEqual : (x == y) = true)
    (hWhole : Binary64.truncate x = Binary64.truncate y) :
    (ofFloat x).ReadsAlike (ofFloat y) where
  isNull := rfl
  kind := rfl
  integer := hWhole
  float := Or.inl hEqual
  boolean := congrArg (· != 0) hWhole
  pair := congrArg (Pair.mk · 0) hWhole

theorem OppositeZeros.readsAlike (h : v.OppositeZeros w) : v.ReadsAlike w := by
  obtain ⟨x, y, hZeros, rfl, rfl⟩ := h
  refine readsAlike_ofFloat (Binary64.beq_iff.mpr (Or.inr hZeros)) ?_
  obtain ⟨negative, rfl, rfl⟩ := hZeros
  cases negative <;> decide +kernel

theorem OppositeZeros.same (h : v.OppositeZeros w) : v.same w = true := by
  obtain ⟨_, _, ⟨negative, rfl, rfl⟩, rfl, rfl⟩ := h
  cases negative <;> rfl

theorem OppositeZeros.string (h : v.OppositeZeros w) :
    (v.string = "0" ∧ w.string = "-0") ∨ (v.string = "-0" ∧ w.string = "0") := by
  obtain ⟨_, _, ⟨negative, rfl, rfl⟩, rfl, rfl⟩ := h
  cases negative with
  | false => exact Or.inl ⟨rfl, rfl⟩
  | true => exact Or.inr ⟨rfl, rfl⟩

/-- Synthesized values that are the same are equal, but for the two zeros. -/
theorem Synthesized.eq_or_zeros_of_same (hv : v.Synthesized) (hw : w.Synthesized)
    (h : v.same w = true) : v = w ∨ v.OppositeZeros w := by
  obtain ⟨l, rfl⟩ := synthesized_iff.mp hv
  obtain ⟨m, rfl⟩ := synthesized_iff.mp hw
  rcases same_iff_literal.mp h with ⟨hlNull, hmNull⟩ | ⟨-, -, s, t, hs, ht, hSame⟩
  · cases l with
    | some s => simp [ofLiteral] at hlNull
    | none =>
      cases m with
      | some t => simp [ofLiteral] at hmNull
      | none => exact Or.inl rfl
  · rw [literal_ofLiteral] at hs ht
    subst hs ht
    rcases Source.eq_or_zeros_of_same hSame with rfl | ⟨x, y, hZeros, rfl, rfl⟩
    · exact Or.inl rfl
    · exact Or.inr ⟨x, y, hZeros, rfl, rfl⟩

/-- Two values of sessions are the same if both are null, or if neither is and their literals have
the same kind and equal sources, where numbers in floating point are compared as numbers. Then all
their readings agree too, except the texts of two zeros of opposite signs. -/
theorem same_representation (hv : Reachable v) (hw : Reachable w) :
    (v.same w = true ↔ (v.isNull = true ∧ w.isNull = true) ∨
      (v.isNull = false ∧ w.isNull = false ∧
        ∃ s t, v.literal = some s ∧ w.literal = some t ∧ s.same t = true)) ∧
    (v.same w = true → v.ReadsAlike w ∧ (v.string = w.string ∨ v.OppositeZeros w)) ∧
    (v.OppositeZeros w → v.same w = true ∧
      ((v.string = "0" ∧ w.string = "-0") ∨ (v.string = "-0" ∧ w.string = "0"))) := by
  refine ⟨same_iff_literal, fun hSame => ?_, fun hZeros => ⟨hZeros.same, hZeros.string⟩⟩
  rcases hv.synthesized.eq_or_zeros_of_same hw.synthesized hSame with rfl | hZeros
  · exact ⟨.refl v, Or.inl rfl⟩
  · exact ⟨hZeros.readsAlike, Or.inr hZeros⟩

/-- The value of minus zero, and the same value after zero has been written over it. -/
theorem same_representation_zeros :
    let v := ofFloat (Binary64.zero true)
    let w := v.write (.float (Binary64.zero false))
    Reachable v ∧ Reachable w ∧ v.same w = true ∧ v.ReadsAlike w ∧
      v.string = "-0" ∧ w.string = "0" := by
  intro v w
  have hv : Reachable v := ⟨[.put 0 (.write (.float (Binary64.zero true)))], 0, rfl⟩
  have hw : Reachable w :=
    ⟨[.put 0 (.write (.float (Binary64.zero true))),
      .put 0 (.write (.float (Binary64.zero false)))], 0, rfl⟩
  have hZeros : v.OppositeZeros w := ⟨_, _, ⟨true, rfl, rfl⟩, rfl, rfl⟩
  obtain ⟨-, hAlike, hTexts⟩ := same_representation hv hw
  obtain ⟨hSame, -⟩ := hTexts hZeros
  exact ⟨hv, hw, hSame, (hAlike hSame).1, rfl, rfl⟩

end Value

end ScriptValue
