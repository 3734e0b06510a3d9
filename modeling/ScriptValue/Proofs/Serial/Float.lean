import Mathlib
import ScriptValue.Proofs.Json.Float
import ScriptValue.Proofs.Serial.RoundTrip
import ScriptValue.Serial.Snapshot

/-!
# Numbers in floating point in documents

Values and snapshots are read back but for their number in floating point. A finite number may
come back as another one near it, because the reader of numbers is not correctly rounded; all that
goes into a document besides comes back as it is. The numbers that are written as short decimals,
and NaN and the infinities, are read back too.

* `exists_toFloat_ofFloat`: numbers.
* `toSnapshot_ofSnapshot`: snapshots, by what their number is read as.
* `exists_decode_render_float`: documents.
-/

namespace ScriptValue.Json

open Binary64 (IsNear)

/-! ## Numbers -/

theorem wellFormed_ofFloat (f : Float) : (ofFloat f).WellFormed := by
  unfold ofFloat
  cases hNumber : Number.ofFloat? f with
  | none => trivial
  | some n => exact Number.wellFormed_of_ofFloat? hNumber

/-- What is written for a number is read as a number near it, and as the number itself unless it
is written with many digits or a large exponent. -/
theorem exists_toFloat_ofFloat (f : Float) :
    ∃ g, (ofFloat f).toFloat = .ok g ∧ g.isFinite = f.isFinite ∧ IsNear f g ∧
      ((∀ n ∈ Number.ofFloat? f, n.IsShort) → g = f) := by
  cases hNumber : Number.ofFloat? f with
  | none =>
    have hNotFinite : f.isFinite = false := by
      by_contra hFinite
      rw [Bool.not_eq_false] at hFinite
      obtain ⟨negative, m, s, hShape⟩ := Binary64.exists_shape_of_isFinite hFinite
      simp [Number.ofFloat?, hShape] at hNumber
    exact ⟨f, (floatReadsBack_of_not_isFinite hNotFinite).2, rfl, IsNear.refl f, fun _ => rfl⟩
  | some n =>
    obtain ⟨g, hRead, hFinite, hNear⟩ := Number.exists_float?_isNear hNumber
    obtain ⟨_, _, _, _, hShape, -⟩ := Number.exists_decimal_of_ofFloat? hNumber
    refine ⟨g, ?_, hFinite.trans (Binary64.isFinite_of_shape hShape).symm, hNear, ?_⟩
    · simp [ofFloat, hNumber, toFloat, require, hRead]
    · intro hShort
      have hExact := Number.float?_of_isShort hNumber (hShort n rfl)
      exact Option.some.inj (hRead.symm.trans hExact)

/-! ## Values and snapshots -/

section

variable {f g : Float}

theorem toValue_ofFloat (hFloat : (ofFloat f).toFloat = .ok g) :
    (ofValue (.ofFloat f)).toValue = .ok (.ofFloat g) := by
  have hContent : toContent (some .float) (ofFloat f) = .ok (some (.float g)) := by
    simp [toContent, hFloat, Except.map]
  have hLiteral : (ofLiteral (some (.float f))).toLiteral = .ok (some (.float g)) := by
    simp [ofLiteral, ofMembers, toLiteral, walk, LiteralFields.step, ofKind, ofString, toName,
      Source.kind, ofContent, literalKind?_name, require, hContent, LiteralFields.toLiteral?, bind,
      Except.bind, Except.map, Functor.map]
  have hWritten : ofValue (.ofFloat f) = ofLiteral (some (.float f)) := rfl
  rw [hWritten, toValue, hLiteral]
  rfl

theorem toSnapshot_ofSnapshot {s : Snapshot} (hFloat : (ofFloat s.readings.float).toFloat = .ok g) :
    (ofSnapshot s).toSnapshot = .ok { s with readings := { s.readings with float := g } } := by
  have hKind : (ofKind s.kind).toKind = .ok s.kind := by
    cases s.kind <;> rfl
  simp [ofSnapshot, ofMembers, toSnapshot, walk, SnapshotFields.step, fill, hKind,
    toInteger_ofInteger, toPair_ofPair, hFloat, ofString, toText, toBoolean,
    SnapshotFields.toSnapshot?, require, bind, Except.bind, pure, Except.pure, Except.map]

end

theorem wellFormed_ofSnapshot (s : Snapshot) : (ofSnapshot s).WellFormed :=
  ⟨trivial, trivial, trivial, Number.wellFormed_ofInteger _, wellFormed_ofFloat _, trivial,
    ⟨Number.wellFormed_ofInteger _, Number.wellFormed_ofInteger _, trivial⟩, trivial⟩

theorem wellFormed_ofValue_ofFloat (f : Float) : (ofValue (.ofFloat f)).WellFormed :=
  ⟨trivial, wellFormed_ofFloat f, trivial⟩

/-! ## Documents -/

/-- What a number is read as is all that the documents with this number depend on. -/
theorem decode_render_float {f g : Float} (hFloat : (ofFloat f).toFloat = .ok g)
    (layout : Layout) :
    decode toValue ((ofValue (.ofFloat f)).render layout) = .ok (.ofFloat g) ∧
      ∀ s : Snapshot, s.readings.float = f →
        decode toSnapshot ((ofSnapshot s).render layout) =
          .ok { s with readings := { s.readings with float := g } } := by
  constructor
  · rw [decode_render (wellFormed_ofValue_ofFloat f), toValue_ofFloat hFloat]
  · rintro s rfl
    rw [decode_render (wellFormed_ofSnapshot s), toSnapshot_ofSnapshot hFloat]

/-- Reading never fails on what was written: the value of a number comes back as the value of a
number near it, and a snapshot with this number comes back with the same number near it, and with
its other six fields unchanged. The number is the same one unless it is finite and written with a
significand of more than 53 bits or a power of ten beyond 10^22. -/
theorem exists_decode_render_float (f : Float) (layout : Layout) :
    ∃ g, g.isFinite = f.isFinite ∧ IsNear f g ∧
      ((∀ n ∈ Number.ofFloat? f, n.IsShort) → g = f) ∧
      decode toValue ((ofValue (.ofFloat f)).render layout) = .ok (.ofFloat g) ∧
      ∀ s : Snapshot, s.readings.float = f →
        decode toSnapshot ((ofSnapshot s).render layout) =
          .ok { s with readings := { s.readings with float := g } } := by
  obtain ⟨g, hRead, hFinite, hNear, hShort⟩ := exists_toFloat_ofFloat f
  exact ⟨g, hFinite, hNear, hShort, decode_render_float hRead layout⟩

/-- 1e-23 is read as 1.0000000000000001e-23, as a value and in a snapshot: 10^23 is not a number
of the format, so the quotient is rounded twice. -/
theorem decode_render_float_not_exact :
    let f := Float.ofBits 0x3B282DB34012B251
    let g := Float.ofBits 0x3B282DB34012B252
    f.isFinite = true ∧ g.toBits ≠ f.toBits ∧
      decode toValue ((ofValue (.ofFloat f)).render .compact) = .ok (.ofFloat g) ∧
      decode toSnapshot ((ofSnapshot (Value.ofFloat f).snapshot).render .compact) =
        .ok { (Value.ofFloat f).snapshot with
          readings := { (Value.ofFloat f).snapshot.readings with float := g } } := by
  intro f g
  have hFinite : f.isFinite = true := by decide +kernel
  have hBits : g.toBits ≠ f.toBits := by decide +kernel
  have hWritten : Number.ofFloat? f = some ⟨false, ['1'], none, some ⟨true, ['2', '3']⟩⟩ := by
    decide +kernel
  have hNumber : Number.float? ⟨false, ['1'], none, some ⟨true, ['2', '3']⟩⟩ = some g := by
    decide +kernel
  clear_value f g
  have hRead : (ofFloat f).toFloat = .ok g := by
    simp only [ofFloat, hWritten, toFloat, hNumber, require]
  obtain ⟨hValue, hSnapshot⟩ := decode_render_float hRead .compact
  exact ⟨hFinite, hBits, hValue, hSnapshot (Value.ofFloat f).snapshot rfl⟩

end ScriptValue.Json
