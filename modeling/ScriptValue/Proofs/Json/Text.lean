import ScriptValue.Json.Text

/-!
# Strings of JSON, written and read

What is written for a string is read as this string, whatever its characters are.

* `readPieces?_escapedChar`: one character, escaped or not.
* `readString?_stringText`: a whole string, with any text after its closing quote.
-/

namespace ScriptValue.Json

/-! ## Escapes -/

theorem hexUnit?_digitChar :
    ∀ n < 32, hexUnit? '0' '0' (Nat.digitChar (n / 16)) (Nat.digitChar (n % 16)) = some n := by
  decide

theorem piece_ofUnit_of_lt {n : Nat} (h : n < 0xD800) : Piece.ofUnit n = .char (Char.ofNat n) := by
  have hNoSurrogate : ¬(0xD800 ≤ n ∧ n < 0xE000) := by omega
  simp [Piece.ofUnit, hNoSurrogate]

/-- A character that is written as itself is read as itself. -/
theorem readPieces?_raw {c : Char} (hQuote : c ≠ '"') (hBackslash : c ≠ '\\')
    (hControl : ¬c.toNat < 0x20) (cs : List Char) :
    readPieces? (c :: cs) =
      (readPieces? cs).map fun (pieces, rest) => (.char c :: pieces, rest) := by
  rw [readPieces?]
  · simp only [hControl, hBackslash, or_self, if_false]
    cases readPieces? cs <;> rfl
  · exact hQuote
  · intro a b d e f h
    exact absurd h hBackslash
  · intro e f h
    exact absurd h hBackslash

/-- A backslash and a letter or sign are read as the character that they stand for. -/
theorem readPieces?_escape {e c : Char} (hUnit : e ≠ 'u') (hEscape : escape? e = some c)
    (cs : List Char) :
    readPieces? ('\\' :: e :: cs) =
      (readPieces? cs).map fun (pieces, rest) => (.char c :: pieces, rest) := by
  rw [readPieces?]
  · rw [hEscape]
    cases readPieces? cs <;> rfl
  · intro a b d f g h
    exact absurd h hUnit

/-- What is written for a character is read as this character. -/
theorem readPieces?_escapedChar (c : Char) (cs : List Char) :
    readPieces? (escapedChar c ++ cs) =
      (readPieces? cs).map fun (pieces, rest) => (.char c :: pieces, rest) := by
  unfold escapedChar
  split
  case h_8 hQuote hBackslash _ _ _ _ _ =>
    split
    · rename_i hControl
      have hUnit := hexUnit?_digitChar c.toNat hControl
      have hPiece : Piece.ofUnit c.toNat = .char c := by
        rw [piece_ofUnit_of_lt (by omega), Char.ofNat_toNat]
      simp only [List.cons_append, List.nil_append, readPieces?, hUnit]
      cases readPieces? cs <;> simp [hPiece]
    · rename_i hControl
      exact readPieces?_raw hQuote hBackslash hControl cs
  -- the characters with an escape of their own
  all_goals exact readPieces?_escape (by decide) rfl cs

theorem readPieces?_flatMap (s rest : List Char) :
    readPieces? (s.flatMap escapedChar ++ '"' :: rest) = some (s.map .char, rest) := by
  induction s with
  | nil => simp [readPieces?]
  | cons c cs ih =>
    rw [List.flatMap_cons, List.append_assoc, readPieces?_escapedChar, ih]
    rfl

/-! ## Strings -/

theorem joinPieces?_map_char (s : List Char) : joinPieces? (s.map .char) = some s := by
  induction s with
  | nil => rfl
  | cons c cs ih => simp [joinPieces?, ih]

def stringTail (text : Option String) : List Char :=
  (stringText text).tail

theorem stringText_eq_cons (text : Option String) :
    stringText text = '"' :: stringTail text := by
  cases text <;> rfl

/-- What is written for a string is read as this string, also for a string without a text. -/
theorem readString?_stringTail (text : Option String) (rest : List Char) :
    readString? (stringTail text ++ rest) = some (text, rest) := by
  cases text with
  | none => rfl
  | some s =>
    have hTail : stringTail (some s) ++ rest = s.toList.flatMap escapedChar ++ '"' :: rest := by
      simp [stringTail, stringText]
    rw [hTail, readString?, readPieces?_flatMap]
    simp [joinPieces?_map_char]

end ScriptValue.Json
