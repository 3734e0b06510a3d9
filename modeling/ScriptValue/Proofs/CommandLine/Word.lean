import ScriptValue.CommandLine.Operand
import ScriptValue.Proofs.Text.Blank

/-!
# The word before the first colon

An operand that starts with the word of a tag and a colon is read by this tag, and all that follows
the colon is its body, more colons included. Any other operand but `null` is a string as a whole.

* `Operand.split?_eq_some_iff`: splitting at the first colon.
* `Operand.read_lead`: operands with a word.
* `Operand.eq_lead_append`, `Operand.read_of_ne_lead`: which operands have one.
* `Operand.read_eq_error_iff`: which operands are refused.
-/

namespace ScriptValue.Operand

theorem split?_word (tag : Tag) (body : List Char) :
    split? (tag.word ++ ':' :: body) = some (tag, body) := by
  cases tag <;> rfl

/-- What is split off is the tag whose word stands before the first colon. -/
theorem split?_eq_some_iff {s body : List Char} {tag : Tag} :
    split? s = some (tag, body) ↔ s = tag.word ++ ':' :: body := by
  constructor
  · intro h
    unfold split? at h
    split at h
    · rename_i hAfter
      obtain ⟨found, hFound, hPair⟩ := Option.map_eq_some_iff.mp h
      cases hPair
      have hWord : tag.word = s.takeWhile (· ≠ ':') := by
        simpa using List.find?_some hFound
      rw [hWord]
      exact Text.eq_takeWhile_append hAfter
    · cases h
  · rintro rfl
    exact split?_word tag body

theorem word_append_ne_null (tag : Tag) (body : List Char) :
    String.ofList (tag.word ++ ':' :: body) ≠ "null" := by
  intro h
  have hChars : tag.word ++ ':' :: body = ['n', 'u', 'l', 'l'] := by
    simpa using congrArg String.toList h
  cases tag <;> cases hChars

/-- Behind the word of a tag, everything is the body. -/
theorem read_word (tag : Tag) (body : List Char) :
    read (String.ofList (tag.word ++ ':' :: body)) = (readBody tag body).map .ofSource := by
  rw [read, if_neg (word_append_ne_null tag body), String.toList_ofList, split?_word]

/-- The word of a tag with the colon behind it. -/
def Tag.lead (tag : Tag) : String :=
  String.ofList (tag.word ++ [':'])

theorem Tag.lead_integer : integer.lead = "int:" := rfl

theorem Tag.lead_float : float.lead = "float:" := rfl

theorem Tag.lead_boolean : boolean.lead = "bool:" := rfl

theorem Tag.lead_pair : pair.lead = "pair:" := rfl

theorem Tag.lead_append (tag : Tag) (t : String) :
    (tag.lead ++ t).toList = tag.word ++ ':' :: t.toList := by
  simp [lead]

theorem read_lead (tag : Tag) (t : String) :
    read (tag.lead ++ t) = (readBody tag t.toList).map .ofSource := by
  rw [← read_word, ← tag.lead_append, String.ofList_toList]

/-- A text splits into a tag and a body if it is the word of the tag, a colon and the body. -/
theorem eq_lead_append {s : String} {tag : Tag} {body : List Char}
    (h : split? s.toList = some (tag, body)) : s = tag.lead ++ String.ofList body := by
  apply String.toList_inj.mp
  rw [tag.lead_append, String.toList_ofList]
  exact split?_eq_some_iff.mp h

theorem read_of_ne_lead {s : String} (hNull : s ≠ "null")
    (hLead : ∀ tag body, s ≠ Tag.lead tag ++ body) : read s = .ok (.ofString s) := by
  have hSplit : split? s.toList = none := by
    rw [Option.eq_none_iff_forall_ne_some]
    rintro ⟨tag, body⟩ h
    exact hLead tag _ (eq_lead_append h)
  rw [read, if_neg hNull, hSplit]

/-- An operand is refused for the body behind the word of its tag, and for nothing else. -/
theorem read_eq_error_iff {s : String} {e : OperandError} :
    read s = .error e ↔
      ∃ (tag : Tag) (body : String), s = tag.lead ++ body ∧ readBody tag body.toList = .error e := by
  have hLead (tag : Tag) (body : String) :
      read (tag.lead ++ body) = .error e ↔ readBody tag body.toList = .error e := by
    rw [read_lead]
    cases readBody tag body.toList <;> simp [Except.map]
  constructor
  · intro h
    by_cases hWord : ∃ tag body, s = Tag.lead tag ++ body
    · obtain ⟨tag, body, rfl⟩ := hWord
      exact ⟨tag, body, rfl, (hLead tag body).mp h⟩
    · have hNull : s ≠ "null" := by
        rintro rfl
        cases h
      rw [read_of_ne_lead hNull fun tag body hText => hWord ⟨tag, body, hText⟩] at h
      cases h
  · rintro ⟨tag, body, rfl, hBody⟩
    exact (hLead tag body).mpr hBody

end ScriptValue.Operand
