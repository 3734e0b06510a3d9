import ScriptValue.Proofs.CommandLine.Strict

/-!
# Blanks around texts

Every reader of texts trims what it reads before it looks at it, and two texts that differ by
blanks at their ends are the same when they are trimmed. So blanks around a text make no difference
to its readings, and none to the operand that has it for its body, whether the text can be read or
not. Only the text itself and the error that quotes it keep the blanks.

* `readings_congr`: the readings of texts that are trimmed alike.
* `Operand.toOption_read_congr`: operands with bodies that are trimmed alike.
* `surrounding_blanks`: blanks around a text.
-/

namespace ScriptValue

/-! ## Texts that are trimmed alike -/

/-- A text that consists of blanks. -/
def Text.IsBlank (s : String) : Prop :=
  ∀ c ∈ s.toList, c.toNat ∈ whiteSpace

theorem Text.trim_surrounded {before after : String} (hBefore : IsBlank before)
    (hAfter : IsBlank after) (t : String) :
    trim (before ++ t ++ after).toList = trim t.toList := by
  rw [String.toList_append, String.toList_append, List.append_assoc]
  have hPadded : Padded t.toList (before.toList ++ (t.toList ++ after.toList)) :=
    .mk hBefore hAfter
  exact hPadded.trim_eq

section

variable {s t : String}

theorem Pair.read?_congr (h : Text.trim s.toList = Text.trim t.toList) :
    read? s.toList = read? t.toList := by
  unfold read?
  rw [h]

theorem readings_congr (h : Text.trim s.toList = Text.trim t.toList) :
    integerReading s = integerReading t ∧ floatReading s = floatReading t ∧
      booleanReading s = booleanReading t ∧ pairReading s = pairReading t := by
  unfold integerReading floatReading booleanReading pairReading
  rw [h, Pair.read?_congr h]
  exact ⟨rfl, rfl, rfl, rfl⟩

namespace Operand

/-- The strict readers trim as the lenient ones do. -/
theorem toOption_read_congr {tag : Tag} (hStrict : tag.isStrict = true)
    (h : Text.trim s.toList = Text.trim t.toList) :
    (read (tag.lead ++ s)).toOption = (read (tag.lead ++ t)).toOption := by
  cases tag with
  | string => cases hStrict
  | pointer => cases hStrict
  | integer => exact (toOption_read_integer s).trans (h ▸ (toOption_read_integer t).symm)
  | float => exact (toOption_read_float s).trans (h ▸ (toOption_read_float t).symm)
  | boolean => exact (toOption_read_boolean s).trans (h ▸ (toOption_read_boolean t).symm)
  | pair =>
    exact (toOption_read_pair s).trans (Pair.read?_congr h ▸ (toOption_read_pair t).symm)

end Operand

end

theorem eq_ok_iff_of_toOption {ε α : Type} {x y : Except ε α} (h : x.toOption = y.toOption)
    (a : α) : x = .ok a ↔ y = .ok a := by
  have hOption (z : Except ε α) : z = .ok a ↔ z.toOption = some a := by
    cases z <;> simp [Except.toOption]
  rw [hOption x, hOption y, h]

/-! ## Blanks around a text -/

/-- With blanks before and after it, a text has the same readings, as a string and as a pointer.
The operands with this text for their bodies have the same values, or are refused alike. -/
theorem surrounding_blanks {before after : String} (hBefore : Text.IsBlank before)
    (hAfter : Text.IsBlank after) (t : String) :
    (∀ make ∈ [Value.ofString, Value.ofPointer],
      (make (before ++ t ++ after)).integer = (make t).integer ∧
      (make (before ++ t ++ after)).float = (make t).float ∧
      (make (before ++ t ++ after)).boolean = (make t).boolean ∧
      (make (before ++ t ++ after)).pair = (make t).pair) ∧
    ∀ word ∈ ["int:", "float:", "bool:", "pair:"], ∀ v,
      Operand.read (word ++ (before ++ t ++ after)) = .ok v ↔ Operand.read (word ++ t) = .ok v := by
  have hTrim := Text.trim_surrounded hBefore hAfter t
  constructor
  · intro make hMake
    obtain ⟨hInteger, hFloat, hBoolean, hPair⟩ :=
      Value.readings_of_text hMake (before ++ t ++ after)
    obtain ⟨hInteger', hFloat', hBoolean', hPair'⟩ := Value.readings_of_text hMake t
    rw [hInteger, hFloat, hBoolean, hPair, hInteger', hFloat', hBoolean', hPair']
    exact readings_congr hTrim
  · intro word hWord v
    obtain ⟨tag, hStrict, rfl⟩ : ∃ tag : Operand.Tag, tag.isStrict = true ∧ word = tag.lead := by
      simp only [List.mem_cons, List.not_mem_nil, or_false] at hWord
      rcases hWord with rfl | rfl | rfl | rfl
      · exact ⟨.integer, rfl, rfl⟩
      · exact ⟨.float, rfl, rfl⟩
      · exact ⟨.boolean, rfl, rfl⟩
      · exact ⟨.pair, rfl, rfl⟩
    exact eq_ok_iff_of_toOption (Operand.toOption_read_congr hStrict hTrim) v

/-- An ideographic space and a tabulator before a pair with blanks of its own, and a line separator
after it. -/
theorem surrounding_blanks_ideographic :
    Text.IsBlank "\u3000\t" ∧ Text.IsBlank "\u2028" ∧
      (Value.ofPointer ("\u3000\t" ++ " ( 1 ,2)" ++ "\u2028")).pair = ⟨1, 2⟩ ∧
      Operand.read ("pair:" ++ ("\u3000\t" ++ " ( 1 ,2)" ++ "\u2028")) =
        .ok (.ofPair ⟨1, 2⟩) := by
  have hBefore : Text.IsBlank "\u3000\t" := by simp [Text.IsBlank, Text.whiteSpace]
  have hAfter : Text.IsBlank "\u2028" := by simp [Text.IsBlank, Text.whiteSpace]
  obtain ⟨hReadings, hOperands⟩ := surrounding_blanks hBefore hAfter " ( 1 ,2)"
  have hPair : pairReading " ( 1 ,2)" = ⟨1, 2⟩ := by decide
  refine ⟨hBefore, hAfter, ?_, (hOperands "pair:" (by decide) _).mpr rfl⟩
  rw [(hReadings .ofPointer (by simp)).2.2.2, (Value.readings_of_text (by simp) _).2.2.2, hPair]

end ScriptValue
