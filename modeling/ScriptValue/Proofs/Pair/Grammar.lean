import ScriptValue.Proofs.Numeral.Integer
import ScriptValue.Proofs.Text.Blank
import ScriptValue.Value.Readings

/-!
# The texts that are pairs

A pair is written as two numerals with a comma between them and parentheses around them, and with
blanks around the whole and around each numeral. The reader takes such a text apart from the
outside: it trims, takes the parentheses off, splits at the first comma and trims again. Each of
these steps can be undone, so the texts that are read are those of the grammar and no others.

* `Pair.IsText`: the grammar.
* `Pair.betweenParentheses?_eq_some_iff`, `Pair.splitAtComma?_eq_some_iff`,
  `Pair.readComponent?_eq_some_iff`: the steps of the reader.
* `Pair.read?_eq_some_iff`: the reader and the grammar.
* `pair_readings`: all that is made of a text that is a pair, and of one that is not.
-/

namespace ScriptValue

open Numeral (Denotes readInteger_eq_ok_iff_denotes)
open Text (Padded)

/-! ## Numerals and blanks -/

theorem isBlank_of_isDigit {c : Char} (h : c.isDigit = true) : Text.isBlank c = false := by
  rw [Char.isDigit_iff_toNat] at h
  have hLower : 48 ≤ c.toNat := h.1
  have hUpper : c.toNat ≤ 57 := h.2
  simp only [Text.isBlank, Bool.or_eq_false_iff, Bool.and_eq_false_iff, decide_eq_false_iff_not,
    beq_eq_false_iff_ne]
  omega

/-- A numeral has neither a blank nor a comma. -/
theorem not_isBlank_of_mem_denotes {token : List Char} {value : Int} (h : Denotes token value)
    {c : Char} (hc : c ∈ token) : Text.isBlank c = false ∧ c ≠ ',' := by
  rcases h.mem hc with hDigit | rfl | rfl
  · refine ⟨isBlank_of_isDigit hDigit, ?_⟩
    rintro rfl
    exact absurd hDigit (by decide)
  · decide
  · decide

theorem trim_denotes {token : List Char} {value : Int} (h : Denotes token value) :
    Text.trim token = token :=
  Text.trim_eq_self_of_forall fun _ hc => (not_isBlank_of_mem_denotes h hc).1

/-- A numeral of an integer reads as this integer. -/
theorem integerReading_of_denotes {token : List Char} {i : Int64} (h : Denotes token i.toInt) :
    integerReading (String.ofList token) = i := by
  rw [integerReading, String.toList_ofList, trim_denotes h, readInteger_eq_ok_iff_denotes.mpr h]
  rfl

namespace Pair

/-- The texts of a pair. Blanks may stand around the parentheses and around each numeral. -/
inductive IsText (p : Pair) : List Char → Prop where
  | mk {x y left right text : List Char} (hX : Denotes x p.x.toInt) (hY : Denotes y p.y.toInt)
      (hLeft : Padded x left) (hRight : Padded y right)
      (hText : Padded ('(' :: (left ++ ',' :: right ++ [')'])) text) : IsText p text

/-! ## Steps of the reader -/

theorem betweenParentheses?_append (inner : List Char) :
    betweenParentheses? ('(' :: (inner ++ [')'])) = some inner := by
  simp [betweenParentheses?]

theorem betweenParentheses?_eq_some_iff {s inner : List Char} :
    betweenParentheses? s = some inner ↔ s = '(' :: (inner ++ [')']) := by
  constructor
  · intro h
    unfold betweenParentheses? at h
    split at h
    · split at h
      · rename_i hLast
        obtain ⟨body, rfl⟩ := List.getLast?_eq_some_iff.mp hLast
        rw [List.dropLast_concat] at h
        cases h
        rfl
      · cases h
    · cases h
  · rintro rfl
    exact betweenParentheses?_append inner

theorem splitAtComma?_append {left : List Char} (hLeft : ',' ∉ left) (right : List Char) :
    splitAtComma? (left ++ ',' :: right) = some (left, right) := by
  have hBefore : ∀ c ∈ left, decide (c ≠ ',') = true := by
    rintro c hc
    exact decide_eq_true fun h => hLeft (h ▸ hc)
  unfold splitAtComma?
  rw [List.dropWhile_append_of_pos hBefore, List.takeWhile_append_of_pos hBefore]
  simp

theorem splitAtComma?_eq_some_iff {s left right : List Char} :
    splitAtComma? s = some (left, right) ↔ ',' ∉ left ∧ s = left ++ ',' :: right := by
  constructor
  · intro h
    unfold splitAtComma? at h
    split at h
    · rename_i hAfter
      cases h
      refine ⟨?_, Text.eq_takeWhile_append hAfter⟩
      intro hMem
      have hBefore := List.all_eq_true.mp List.all_takeWhile ',' hMem
      simp at hBefore
    · cases h
  · rintro ⟨hLeft, rfl⟩
    exact splitAtComma?_append hLeft right

/-- A component is read if it is a numeral with blanks around it. -/
theorem readComponent?_eq_some_iff {s : List Char} {i : Int64} :
    readComponent? s = some i ↔ ∃ token, Denotes token i.toInt ∧ Padded token s := by
  have hRead : readComponent? s = some i ↔ Numeral.readInteger (Text.trim s) = .ok i := by
    unfold readComponent?
    cases Numeral.readInteger (Text.trim s) <;> simp [Except.toOption]
  rw [hRead, readInteger_eq_ok_iff_denotes]
  constructor
  · intro hDenotes
    exact ⟨_, hDenotes, Text.padded_trim s⟩
  · rintro ⟨token, hDenotes, hPadded⟩
    rwa [hPadded.trim_eq, trim_denotes hDenotes]

theorem comma_not_mem_of_padded {token s : List Char} {value : Int} (h : Denotes token value)
    (hPadded : Padded token s) : ',' ∉ s := by
  have hComma : ','.toNat ∉ Text.whiteSpace := by decide
  obtain ⟨hBefore, hAfter⟩ := hPadded
  intro hMem
  rcases List.mem_append.mp hMem with hMem | hMem
  · exact hComma (hBefore _ hMem)
  · rcases List.mem_append.mp hMem with hMem | hMem
    · exact (not_isBlank_of_mem_denotes h hMem).2 rfl
    · exact hComma (hAfter _ hMem)

theorem trim_parentheses (inner : List Char) :
    Text.trim ('(' :: (inner ++ [')'])) = '(' :: (inner ++ [')']) := by
  refine Text.trim_eq_self ?_ ?_
  · rintro c ⟨⟩
    decide
  · intro c hc
    rw [← List.cons_append, List.getLast?_append] at hc
    cases hc
    decide

/-! ## Pairs -/

/-- The reader reads the texts of the grammar, and no others. -/
theorem read?_eq_some_iff {s : List Char} {p : Pair} : read? s = some p ↔ IsText p s := by
  unfold read?
  simp only [Option.bind_eq_bind, Option.bind_eq_some_iff, Option.pure_def, Option.some.injEq,
    Prod.exists]
  constructor
  · rintro ⟨inner, hInner, left, right, hSplit, x, hX, y, hY, rfl⟩
    obtain ⟨-, rfl⟩ := splitAtComma?_eq_some_iff.mp hSplit
    obtain ⟨first, hFirst, hLeft⟩ := readComponent?_eq_some_iff.mp hX
    obtain ⟨second, hSecond, hRight⟩ := readComponent?_eq_some_iff.mp hY
    have hText := Text.padded_trim s
    rw [betweenParentheses?_eq_some_iff.mp hInner] at hText
    exact .mk hFirst hSecond hLeft hRight hText
  · rintro ⟨hFirst, hSecond, hLeft, hRight, hText⟩
    have hComma := comma_not_mem_of_padded hFirst hLeft
    exact ⟨_, betweenParentheses?_eq_some_iff.mpr (hText.trim_eq.trans (trim_parentheses _)),
      _, _, splitAtComma?_eq_some_iff.mpr ⟨hComma, rfl⟩,
      p.x, readComponent?_eq_some_iff.mpr ⟨_, hFirst, hLeft⟩,
      p.y, readComponent?_eq_some_iff.mpr ⟨_, hSecond, hRight⟩, rfl⟩

end Pair

/-- A text of the grammar of pairs is read as the pair it denotes. Any other text is refused: the
error keeps this text, and its reading is the pair of zeros. -/
theorem pair_readings (s : String) :
    (∀ p, Pair.read? s.toList = some p ↔ Pair.IsText p s.toList) ∧
      ((∃ p, Pair.IsText p s.toList ∧ Pair.read s = .ok p ∧ pairReading s = p) ∨
        ((∀ p, ¬Pair.IsText p s.toList) ∧ Pair.read? s.toList = none ∧
          Pair.read s = .error ⟨s⟩ ∧ pairReading s = ⟨0, 0⟩)) := by
  refine ⟨fun p => Pair.read?_eq_some_iff, ?_⟩
  cases hRead : Pair.read? s.toList with
  | some p =>
    refine .inl ⟨p, Pair.read?_eq_some_iff.mp hRead, ?_, ?_⟩
    · rw [Pair.read, hRead]
    · rw [pairReading, hRead]
      rfl
  | none =>
    refine .inr ⟨fun p hText => ?_, rfl, ?_, ?_⟩
    · rw [Pair.read?_eq_some_iff.mpr hText] at hRead
      cases hRead
    · rw [Pair.read, hRead]
    · rw [pairReading, hRead]
      rfl

/-- Signs and leading zeros are read. Parentheses within parentheses are not. -/
example : pairReading " ( -007 ,+9 ) " = ⟨-7, 9⟩ ∧ Pair.read? "((1,2))".toList = none := by
  decide

end ScriptValue
