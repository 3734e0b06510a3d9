import ScriptValue.Proofs.Pair.Grammar

/-!
# Pairs as text, written and read

The text of a pair is one of the texts of its grammar, with a blank before the second numeral and
none elsewhere. So it is read as the same pair.

* `trim_integerText`: integers have no blanks.
* `Pair.isText_text`: the text of a pair.
* `Pair.read?_text`, `Pair.read_text`: pairs.
-/

namespace ScriptValue

open Numeral (integerText denotes_integerText)
open Text (padded_append)

theorem trim_integerText (i : Int64) : Text.trim (integerText i) = integerText i :=
  trim_denotes (denotes_integerText i)

namespace Pair

theorem text_eq (p : Pair) :
    p.text = '(' :: ((integerText p.x ++ ',' :: ([' '] ++ integerText p.y)) ++ [')']) := by
  simp [text]

theorem isText_text (p : Pair) : IsText p p.text := by
  have hNone : ∀ c ∈ ([] : List Char), c.toNat ∈ Text.whiteSpace := List.forall_mem_nil _
  have hBlank : ∀ c ∈ [' '], c.toNat ∈ Text.whiteSpace := by simp [Text.whiteSpace]
  rw [text_eq]
  exact .mk (denotes_integerText p.x) (denotes_integerText p.y) (padded_append hNone _)
    (padded_append hBlank _) (padded_append hNone _)

/-- What is written for a pair is read as this pair. -/
theorem read?_text (p : Pair) : read? p.text = some p :=
  read?_eq_some_iff.mpr (isText_text p)

theorem read_text (p : Pair) : read (String.ofList p.text) = .ok p := by
  simp [read, read?_text]

end Pair

end ScriptValue
