import ScriptValue.Proofs.CommandLine.Word
import ScriptValue.Proofs.Pair.Text
import ScriptValue.Proofs.Session.Reachable

/-!
# Every value has an operand

The operand of a value is the word of its kind, a colon and the text that the value reads as. The
reader splits at the first colon, and no word has one, so the text comes back as it is, whatever
characters it has. Then each kind reads back what it writes; for numbers in floating point this is
an assumption here.

* `Operand.readBody_ofSource`: the text of each kind.
* `reachable_value_has_operand`: the values of sessions.
-/

namespace ScriptValue

/-- The text of a value on the command line. -/
def Value.operandText (v : Value) : String :=
  if v.isNull then "null"
  else
    match v.kind with
    | .string => "str:" ++ v.string
    | .pointer => "ptr:" ++ v.string
    | .integer => "int:" ++ v.string
    | .float => "float:" ++ v.string
    | .boolean => "bool:" ++ v.string
    | .pair => "pair:" ++ v.string

namespace Operand

/-! ## Bodies -/

/-- The tag that a kind is written with. -/
def Tag.ofKind : Kind → Tag
  | .string => string
  | .pointer => pointer
  | .integer => integer
  | .float => float
  | .boolean => boolean
  | .pair => pair

/-- A text that reads as a number is read as this number in the strict way too. NaN is what a text
reads as that is no number, but the text of NaN is one. -/
theorem read_floatString {f : Float} (h : floatReading (floatString f) = f) :
    Binary64.read (Text.trim (floatString f).toList) = .ok f := by
  cases hRead : Binary64.read (Text.trim (floatString f).toList) with
  | ok g =>
    have hReading : floatReading (floatString f) = g := by
      rw [floatReading, hRead]
      rfl
    rw [← hReading, h]
  | error fault =>
    have hReading : floatReading (floatString f) = Binary64.nan := by
      rw [floatReading, hRead]
      rfl
    obtain rfl : f = Binary64.nan := h.symm.trans hReading
    cases hRead

theorem readBody_ofSource {s : Source}
    (hFloat : ∀ f, s = .float f → floatReading (floatString f) = f) :
    readBody (Tag.ofKind s.kind) (Value.ofSource s).string.toList = .ok s := by
  cases s with
  | string text =>
    change Except.ok (Source.string (String.ofList text.toList)) = _
    rw [String.ofList_toList]
  | pointer name =>
    change Except.ok (Source.pointer (String.ofList name.toList)) = _
    rw [String.ofList_toList]
  | integer i =>
    have hRead : Numeral.readInteger (Text.trim (integerString i).toList) = .ok i := by
      rw [integerString, String.toList_ofList, trim_integerText, Numeral.readInteger_integerText]
    change readBody .integer (integerString i).toList = _
    simp [readBody, hRead]
  | float f =>
    have hRead := read_floatString (hFloat f rfl)
    change readBody .float (floatString f).toList = _
    simp [readBody, hRead]
  | boolean b =>
    cases b <;> rfl
  | pair p =>
    have hRead : Pair.read (pairString p) = .ok p := Pair.read_text p
    change readBody .pair (pairString p).toList = _
    simp [readBody, hRead]

/-! ## Values -/

theorem operandText_ofSource (s : Source) :
    (Value.ofSource s).operandText =
      String.ofList ((Tag.ofKind s.kind).word ++ ':' :: (Value.ofSource s).string.toList) := by
  apply String.toList_inj.mp
  unfold Value.operandText
  rw [Value.isNull_ofSource, Value.kind_ofSource]
  cases s <;> simp [Source.kind, Tag.ofKind, Tag.word]

theorem read_operandText {l : Option Source}
    (hFloat : ∀ f, l = some (.float f) → floatReading (floatString f) = f) :
    read (Value.ofLiteral l).operandText = .ok (.ofLiteral l) := by
  cases l with
  | none => rfl
  | some s =>
    have hBody : readBody (Tag.ofKind s.kind) (Value.ofSource s).string.toList = .ok s :=
      readBody_ofSource fun f h => hFloat f (congrArg some h)
    change read (Value.ofSource s).operandText = .ok (.ofSource s)
    rw [operandText_ofSource, read_word, hBody]
    rfl

end Operand

/-- The text of a value that a session reaches is read as the same value, whatever characters the
text of a string or a pointer has. For a number in floating point it is assumed that the text of
this number reads as it. -/
theorem reachable_value_has_operand {v : Value} (hv : Reachable v)
    (hFloat : v.isNull = false → v.kind = .float → floatReading (floatString v.float) = v.float) :
    Operand.read v.operandText = .ok v := by
  obtain ⟨l, rfl⟩ := Value.synthesized_iff.mp hv.synthesized
  refine Operand.read_operandText fun f h => ?_
  subst h
  exact hFloat rfl rfl

/-- The number nearest to a tenth. -/
theorem reachable_value_has_operand_tenth :
    let v := Value.ofFloat (Float.ofBits 0x3FB999999999999A)
    Reachable v ∧ floatReading (floatString v.float) = v.float ∧ v.operandText = "float:0.1" ∧
      Operand.read v.operandText = .ok v := by
  intro v
  have hReachable : Reachable v :=
    ⟨[.put 0 (.write (.float (Float.ofBits 0x3FB999999999999A)))], 0, rfl⟩
  have hFloat : floatReading (floatString v.float) = v.float := by decide +kernel
  have hText : v.operandText = "float:0.1" := by decide +kernel
  exact ⟨hReachable, hFloat, hText, reachable_value_has_operand hReachable fun _ _ => hFloat⟩

end ScriptValue
