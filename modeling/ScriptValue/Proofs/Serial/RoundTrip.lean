import ScriptValue.Proofs.Binary64.Special
import ScriptValue.Proofs.Json.RoundTrip
import ScriptValue.Proofs.Session.Reachable

/-!
# Values as documents, written and read

A literal is read back from its tree, and from the text of its tree in both layouts, if its number
in floating point is, where it has one (`FloatReadsBack`). The numbers that are not finite are
written as strings and are read back.

* `toLiteral_ofLiteral`, `decode_render_ofLiteral`: literals.
* `floatReadsBack_of_not_isFinite`: NaN and the infinities.
* `reachable_value_reads_back`: the values of sessions.
-/

namespace ScriptValue.Json

/-! ## Sources -/

theorem toInteger_ofInteger (i : Int64) : (ofInteger i).toInteger = .ok i := by
  simp [ofInteger, toInteger, require, Number.integer?_ofInteger]

theorem toPair_ofPair (p : Pair) : (ofPair p).toPair = .ok p := by
  simp [ofPair, ofMembers, toPair, walk, PairFields.step, fill, toInteger_ofInteger,
    PairFields.toPair?, require, bind, Except.bind, pure, Except.pure, Except.map]

/-- A number in floating point that has a text and is read back from its tree. -/
def FloatReadsBack (f : Float) : Prop :=
  (ofFloat f).WellFormed ∧ (ofFloat f).toFloat = .ok f

theorem toContent_ofContent {s : Source} (hFloat : ∀ f, s = .float f → FloatReadsBack f) :
    toContent (some s.kind) (ofContent s) = .ok (some s) := by
  cases s with
  | string text => rfl
  | pointer name => rfl
  | integer i => simp [toContent, Source.kind, ofContent, toInteger_ofInteger, Except.map]
  | float f =>
    have hRead := (hFloat f rfl).2
    simp [toContent, Source.kind, ofContent, hRead, Except.map]
  | boolean b => rfl
  | pair p => simp [toContent, Source.kind, ofContent, toPair_ofPair, Except.map]

/-! ## Literals -/

theorem literalKind?_name (k : Kind) : literalKind? k.name = some (some k) := by
  cases k <;> decide

theorem toLiteral_ofLiteral {l : Option Source}
    (hFloat : ∀ f, l = some (.float f) → FloatReadsBack f) :
    (ofLiteral l).toLiteral = .ok l := by
  cases l with
  | none => rfl
  | some s =>
    have hContent : toContent (some s.kind) (ofContent s) = .ok (some s) :=
      toContent_ofContent fun f h => hFloat f (congrArg some h)
    simp [ofLiteral, ofMembers, toLiteral, walk, LiteralFields.step, ofKind, ofString, toName,
      literalKind?_name, require, hContent, LiteralFields.toLiteral?, bind, Except.bind,
      Except.map, Functor.map]

theorem wellFormed_ofContent {s : Source} (hFloat : ∀ f, s = .float f → FloatReadsBack f) :
    (ofContent s).WellFormed := by
  cases s with
  | string text => trivial
  | pointer name => trivial
  | integer i => exact Number.wellFormed_ofInteger i
  | float f => exact (hFloat f rfl).1
  | boolean b => trivial
  | pair p =>
    exact ⟨Number.wellFormed_ofInteger p.x, Number.wellFormed_ofInteger p.y, trivial⟩

theorem wellFormed_ofLiteral {l : Option Source}
    (hFloat : ∀ f, l = some (.float f) → FloatReadsBack f) : (ofLiteral l).WellFormed := by
  cases l with
  | none => exact ⟨trivial, trivial⟩
  | some s =>
    have hContent : (ofContent s).WellFormed :=
      wellFormed_ofContent fun f h => hFloat f (congrArg some h)
    exact ⟨trivial, hContent, trivial⟩

/-! ## Documents -/

theorem decode_of_read {α : Type} {decoder : Json → Decoded α} {text : String} {j : Json}
    (h : Document.read text = ⟨j, true⟩) : decode decoder text = decoder j := by
  simp only [decode, h, if_true]
  cases decoder j <;> rfl

/-- What a tree is read as is what its text is read as. -/
theorem decode_render {α : Type} {decoder : Json → Decoded α} {j : Json} (hj : j.WellFormed)
    (layout : Layout) : decode decoder (j.render layout) = decoder j :=
  decode_of_read (read_render hj layout)

/-- A literal is read back from its text, as a literal and as a value. -/
theorem decode_render_ofLiteral {l : Option Source}
    (hFloat : ∀ f, l = some (.float f) → FloatReadsBack f) (layout : Layout) :
    decode toLiteral ((ofLiteral l).render layout) = .ok l ∧
      decode toValue ((ofLiteral l).render layout) = .ok (.ofLiteral l) := by
  have hWellFormed := wellFormed_ofLiteral hFloat
  have hLiteral := toLiteral_ofLiteral hFloat
  constructor
  · rw [decode_render hWellFormed, hLiteral]
  · rw [decode_render hWellFormed, toValue, hLiteral]
    rfl

/-! ## Numbers that are not finite -/

theorem floatReadsBack_of_not_isFinite {f : Float} (h : f.isFinite = false) :
    FloatReadsBack f := by
  rcases Binary64.eq_nan_or_infinity_of_not_isFinite h with rfl | ⟨negative, rfl⟩
  · exact ⟨trivial, rfl⟩
  · cases negative with
    | true => exact ⟨trivial, rfl⟩
    | false => exact ⟨trivial, rfl⟩

end ScriptValue.Json

namespace ScriptValue

theorem Value.eq_of_literal_float {v : Value} {f : Float} (h : v.literal = some (.float f)) :
    v.isNull = false ∧ v.kind = .float ∧ f = v.float := by
  unfold literal at h
  split at h
  · cases h
  · rename_i hLive
    unfold Source.ofReadings at h
    cases hKind : v.kind <;> simp_all

/-- A value that a session reaches, and that is no finite number in floating point, is read back
from its text, written as a value or as its literal, in both layouts. Read as a value it is the
same again, and read as a literal it is its literal, which makes the same value. -/
theorem reachable_value_reads_back {v : Value} (hv : Reachable v)
    (hFinite : v.isNull = false → v.kind = .float → v.float.isFinite = false)
    (layout : Json.Layout) :
    ∀ text ∈ [(Json.ofValue v).render layout, (Json.ofLiteral v.literal).render layout],
      decode Json.toValue text = .ok v ∧
        ∃ l, decode Json.toLiteral text = .ok l ∧ l = v.literal ∧ Value.ofLiteral l = v := by
  have hFloat : ∀ f, v.literal = some (.float f) → Json.FloatReadsBack f := by
    intro f hLiteral
    obtain ⟨hLive, hKind, rfl⟩ := Value.eq_of_literal_float hLiteral
    exact Json.floatReadsBack_of_not_isFinite (hFinite hLive hKind)
  have hMakes := hv.synthesized.ofLiteral_literal
  obtain ⟨hLiteral, hValue⟩ := Json.decode_render_ofLiteral hFloat layout
  rw [hMakes] at hValue
  intro text hText
  have hEq : text = (Json.ofLiteral v.literal).render layout := by
    simpa [Json.ofValue] using hText
  rw [hEq]
  exact ⟨hValue, v.literal, hLiteral, rfl, hMakes⟩

/-- Negative infinity, which travels as a string. -/
theorem reachable_value_reads_back_negative_infinity :
    let v := Value.ofFloat (Binary64.infinity true)
    Reachable v ∧ v.float.isFinite = false ∧
      ∀ text ∈ [(Json.ofValue v).render .pretty, (Json.ofLiteral v.literal).render .pretty],
        decode Json.toValue text = .ok v ∧
          ∃ l, decode Json.toLiteral text = .ok l ∧ l = v.literal ∧ Value.ofLiteral l = v := by
  intro v
  have hReachable : Reachable v := ⟨[.put 0 (.write (.float (Binary64.infinity true)))], 0, rfl⟩
  have hFinite : v.float.isFinite = false := by
    change (Binary64.infinity true).isFinite = false
    rfl
  exact ⟨hReachable, hFinite, reachable_value_reads_back hReachable (fun _ _ => hFinite) .pretty⟩

end ScriptValue
