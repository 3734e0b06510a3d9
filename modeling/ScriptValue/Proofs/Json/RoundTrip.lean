import ScriptValue.Proofs.Json.Number
import ScriptValue.Proofs.Json.Text

/-!
# Documents of JSON, written and read

A tree is read back from its text in both layouts, if it has no break and its numbers are ones that
JSON admits (`WellFormed`). Strings may be any, also those that denote no text.

The reader takes blanks before each token, and its fuel is counted in steps. So the main induction,
`readValue_print` over the trees, is about a text after the tree that does not run into it, and
about fuel for twice the length of the text of the tree.

* `readValue_print`, `readElements_print`, `readMembers_print`: trees inside of a text.
* `read_render`: whole documents.
-/

namespace ScriptValue.Json

/-! ## Trees with a text -/

mutual

/-- A tree without a break whose numbers are ones that JSON admits. -/
def WellFormed : Json → Prop
  | number n => n.WellFormed
  | array elements => AllWellFormed elements
  | object members => AllMembersWellFormed members
  | broken => False
  | _ => True

def AllWellFormed : List Json → Prop
  | [] => True
  | element :: elements => WellFormed element ∧ AllWellFormed elements

def AllMembersWellFormed : List (Option String × Json) → Prop
  | [] => True
  | (_, value) :: members => WellFormed value ∧ AllMembersWellFormed members

end

/-! ## Blanks -/

theorem skipBlanks_cons {c : Char} (h : isBlank c = false) (s : List Char) :
    skipBlanks (c :: s) = c :: s := by
  simp [skipBlanks, h]

theorem skipBlanks_append {blanks : List Char} (h : ∀ c ∈ blanks, isBlank c = true)
    (s : List Char) : skipBlanks (blanks ++ s) = skipBlanks s :=
  List.dropWhile_append_of_pos h

@[simp]
theorem skipBlanks_skipBlanks (s : List Char) : skipBlanks (skipBlanks s) = skipBlanks s := by
  induction s with
  | nil => rfl
  | cons c cs ih =>
    cases h : isBlank c with
    | true =>
      have hSkip : skipBlanks (c :: cs) = skipBlanks cs := by simp [skipBlanks, h]
      rw [hSkip, ih]
    | false => rw [skipBlanks_cons h, skipBlanks_cons h]

theorem isBlank_of_mem_newLine {layout : Layout} {indentation : Nat} {c : Char}
    (h : c ∈ layout.newLine indentation) : isBlank c = true := by
  cases layout with
  | compact => cases h
  | pretty =>
    rcases List.mem_cons.mp h with rfl | hSpace
    · rfl
    · rw [List.eq_of_mem_replicate hSpace]
      rfl

@[simp]
theorem skipBlanks_newLine_append (layout : Layout) (indentation : Nat) (s : List Char) :
    skipBlanks (layout.newLine indentation ++ s) = skipBlanks s :=
  skipBlanks_append (fun _ h => isBlank_of_mem_newLine h) s

@[simp]
theorem skipBlanks_space_append (layout : Layout) (s : List Char) :
    skipBlanks (layout.space ++ s) = skipBlanks s := by
  cases layout <;> rfl

/-- A blank after a number does not go on with it. -/
theorem stopsNumber_newLine_append {layout : Layout} {indentation : Nat} {s : List Char}
    (h : StopsNumber s) : StopsNumber (layout.newLine indentation ++ s) := by
  cases layout with
  | compact => exact h
  | pretty =>
    rintro c ⟨⟩
    decide

/-! ## Steps of the reader -/

theorem readValue_skipBlanks (fuel : Nat) (s : List Char) :
    readValue fuel (skipBlanks s) = readValue fuel s := by
  cases fuel with
  | zero => rfl
  | succ fuel => simp only [readValue, skipBlanks_skipBlanks]

theorem readElements_skipBlanks (fuel : Nat) (s : List Char) :
    readElements fuel (skipBlanks s) = readElements fuel s := by
  cases fuel with
  | zero => rfl
  | succ fuel => simp only [readElements, readValue_skipBlanks]

theorem readMembers_skipBlanks (fuel : Nat) (s : List Char) :
    readMembers fuel (skipBlanks s) = readMembers fuel s := by
  cases fuel with
  | zero => rfl
  | succ fuel => simp only [readMembers, skipBlanks_skipBlanks]

theorem readValue_newLine_append (layout : Layout) (indentation fuel : Nat) (s : List Char) :
    readValue fuel (layout.newLine indentation ++ s) = readValue fuel s := by
  rw [← readValue_skipBlanks, skipBlanks_newLine_append, readValue_skipBlanks]

theorem readValue_space_append (layout : Layout) (fuel : Nat) (s : List Char) :
    readValue fuel (layout.space ++ s) = readValue fuel s := by
  rw [← readValue_skipBlanks, skipBlanks_space_append, readValue_skipBlanks]

theorem readValue_array {fuel : Nat} {s : List Char}
    (h : ∀ rest, skipBlanks s ≠ ']' :: rest) {elements : List Json} {rest : List Char}
    (hElements : readElements fuel s = (elements, rest)) :
    readValue (fuel + 1) ('[' :: s) = (array elements, rest) := by
  rw [← readElements_skipBlanks] at hElements
  have hBracket : isBlank '[' = false := rfl
  simp only [readValue, skipBlanks_cons hBracket, hElements]

theorem readValue_object {fuel : Nat} {s : List Char}
    (h : ∀ rest, skipBlanks s ≠ '\x7d' :: rest) {members : List (Option String × Json)}
    {rest : List Char} (hMembers : readMembers fuel s = (members, rest)) :
    readValue (fuel + 1) ('\x7b' :: s) = (object members, rest) := by
  rw [← readMembers_skipBlanks] at hMembers
  have hBrace : isBlank '\x7b' = false := rfl
  simp only [readValue, skipBlanks_cons hBrace, hMembers]

theorem readElements_last {fuel : Nat} {s rest rest' : List Char} {e : Json}
    (hValue : readValue fuel s = (e, rest)) (hClose : skipBlanks rest = ']' :: rest') :
    readElements (fuel + 1) s = ([e], rest') := by
  simp only [readElements, hValue, hClose]

theorem readElements_next {fuel : Nat} {s rest t rest' : List Char} {e : Json} {es : List Json}
    (hValue : readValue fuel s = (e, rest)) (hComma : skipBlanks rest = ',' :: t)
    (hElements : readElements fuel t = (es, rest')) :
    readElements (fuel + 1) s = (e :: es, rest') := by
  simp only [readElements, hValue, hComma, hElements]

theorem readMembers_last {fuel : Nat} {s t rest rest' : List Char} {key : Option String}
    {value : Json} (hKey : skipBlanks s = stringText key ++ ':' :: t)
    (hValue : readValue fuel t = (value, rest)) (hClose : skipBlanks rest = '\x7d' :: rest') :
    readMembers (fuel + 1) s = ([(key, value)], rest') := by
  have hColon : isBlank ':' = false := rfl
  rw [stringText_eq_cons, List.cons_append] at hKey
  simp only [readMembers, hKey, readString?_stringTail, skipBlanks_cons hColon, hValue, hClose]

theorem readMembers_next {fuel : Nat} {s t rest u rest' : List Char} {key : Option String}
    {value : Json} {members : List (Option String × Json)}
    (hKey : skipBlanks s = stringText key ++ ':' :: t)
    (hValue : readValue fuel t = (value, rest)) (hComma : skipBlanks rest = ',' :: u)
    (hMembers : readMembers fuel u = (members, rest')) :
    readMembers (fuel + 1) s = ((key, value) :: members, rest') := by
  have hColon : isBlank ':' = false := rfl
  rw [stringText_eq_cons, List.cons_append] at hKey
  simp only [readMembers, hKey, readString?_stringTail, skipBlanks_cons hColon, hValue, hComma,
    hMembers]

theorem readValue_string (fuel : Nat) (text : Option String) (rest : List Char) :
    readValue (fuel + 1) (stringText text ++ rest) = (string text, rest) := by
  rw [stringText_eq_cons, List.cons_append]
  have hQuote : isBlank '"' = false := rfl
  simp only [readValue, skipBlanks_cons hQuote, readString?_stringTail]

theorem numberText_eq_cons {n : Number} (hn : n.WellFormed) :
    ∃ c cs, numberText n = c :: cs ∧ (c = '-' ∨ c.isDigit = true) := by
  unfold numberText
  cases n.negative with
  | true => exact ⟨_, _, rfl, Or.inl rfl⟩
  | false =>
    obtain ⟨c, cs, hWhole⟩ := List.exists_cons_of_ne_nil hn.whole.1
    have hDigit := hn.whole.2 c (by rw [hWhole]; exact List.mem_cons_self)
    rw [hWhole]
    exact ⟨_, _, rfl, Or.inr hDigit⟩

theorem readValue_number (fuel : Nat) {n : Number} (hn : n.WellFormed) {rest : List Char}
    (hRest : StopsNumber rest) :
    readValue (fuel + 1) (numberText n ++ rest) = (number n, rest) := by
  have hRead := readNumber?_numberText hn hRest
  obtain ⟨c, cs, hText, hFirst⟩ := numberText_eq_cons hn
  rw [hText, List.cons_append] at hRead ⊢
  have hOther : ∀ d : Char, d ≠ '-' ∧ d.isDigit = false → c ≠ d := by
    rintro d ⟨hMinus, hDigit⟩ rfl
    rcases hFirst with rfl | hFirst
    · exact hMinus rfl
    · rw [hDigit] at hFirst
      cases hFirst
  have hBlank : isBlank c = false := by
    have h : c ≠ ' ' ∧ c ≠ '\t' ∧ c ≠ '\n' ∧ c ≠ '\r' :=
      ⟨hOther _ (by decide), hOther _ (by decide), hOther _ (by decide), hOther _ (by decide)⟩
    simp [isBlank, h]
  -- none of the characters that other values start with
  have hToken : c ≠ 'n' ∧ c ≠ 't' ∧ c ≠ 'f' ∧ c ≠ '"' ∧ c ≠ '[' ∧ c ≠ '\x7b' :=
    ⟨hOther _ (by decide), hOther _ (by decide), hOther _ (by decide), hOther _ (by decide),
      hOther _ (by decide), hOther _ (by decide)⟩
  rw [readValue, skipBlanks_cons hBlank]
  split
  all_goals simp_all

/-! ## The first character of a text -/

/-- The text of a tree starts with a token, which closes nothing. -/
theorem print_eq_cons {j : Json} (hj : j.WellFormed) (layout : Layout) (indentation : Nat) :
    ∃ c cs, j.print layout indentation = c :: cs ∧ isBlank c = false ∧ c ≠ ']' := by
  cases j with
  | null => exact ⟨_, _, rfl, by decide⟩
  | boolean b => cases b <;> exact ⟨_, _, rfl, by decide⟩
  | number n =>
    obtain ⟨c, cs, hText, hFirst⟩ := numberText_eq_cons hj
    refine ⟨c, cs, hText, ?_⟩
    rcases hFirst with rfl | hDigit
    · decide
    · constructor
      · rw [Bool.eq_false_iff]
        intro hBlank
        simp only [isBlank, Bool.or_eq_true, beq_iff_eq] at hBlank
        rcases hBlank with ((rfl | rfl) | rfl) | rfl <;> revert hDigit <;> decide
      · rintro rfl
        revert hDigit
        decide
  | string text => exact ⟨_, _, stringText_eq_cons text, by decide⟩
  | array elements =>
    cases elements with
    | nil => exact ⟨_, _, rfl, by decide⟩
    | cons e es => exact ⟨_, _, rfl, by decide⟩
  | object members =>
    cases members with
    | nil => exact ⟨_, _, rfl, by decide⟩
    | cons m ms => exact ⟨_, _, rfl, by decide⟩
  | broken => exact hj.elim

theorem skipBlanks_printElements {e : Json} {es : List Json} (he : e.WellFormed)
    (layout : Layout) (indentation : Nat) (s rest : List Char) :
    skipBlanks (printElements layout indentation (e :: es) ++ s) ≠ ']' :: rest := by
  obtain ⟨c, cs, hText, hBlank, hOpen⟩ := print_eq_cons he layout indentation
  have hFirst : ∃ t, skipBlanks (printElements layout indentation (e :: es) ++ s) = c :: t := by
    cases es with
    | nil =>
      refine ⟨cs ++ s, ?_⟩
      rw [printElements, List.append_assoc, skipBlanks_newLine_append, hText, List.cons_append,
        skipBlanks_cons hBlank]
    | cons e' es =>
      refine ⟨cs ++ ',' :: printElements layout indentation (e' :: es) ++ s, ?_⟩
      simp [printElements, hText, skipBlanks_cons hBlank]
  obtain ⟨t, hFirst⟩ := hFirst
  rw [hFirst]
  rintro ⟨⟩
  exact hOpen rfl

theorem skipBlanks_printMembers (m : Option String × Json) (ms : List (Option String × Json))
    (layout : Layout) (indentation : Nat) (s rest : List Char) :
    skipBlanks (printMembers layout indentation (m :: ms) ++ s) ≠ '\x7d' :: rest := by
  rcases m with ⟨key, value⟩
  have hQuote : isBlank '"' = false := rfl
  cases ms with
  | nil => simp [printMembers, stringText_eq_cons, skipBlanks_cons hQuote]
  | cons m' ms => simp [printMembers, stringText_eq_cons, skipBlanks_cons hQuote]

/-! ## Trees inside of a text -/

theorem stopsNumber_cons {c : Char} {s : List Char}
    (h : c.isDigit = false ∧ c ≠ '.' ∧ c ≠ 'e' ∧ c ≠ 'E') : StopsNumber (c :: s) := by
  rintro _ ⟨⟩
  exact h

/-- A key stands on its line before its colon. -/
theorem skipBlanks_newLine_stringText (layout : Layout) (indentation : Nat) (key : Option String)
    (s : List Char) :
    skipBlanks (layout.newLine indentation ++ (stringText key ++ s)) = stringText key ++ s := by
  have hQuote : isBlank '"' = false := rfl
  rw [skipBlanks_newLine_append, stringText_eq_cons, List.cons_append, skipBlanks_cons hQuote]

mutual

/-- A tree is read back from its text, whatever stands after it that it does not run into. -/
theorem readValue_print (layout : Layout) (j : Json) (hj : j.WellFormed) (indentation fuel : Nat)
    (rest : List Char) (hFuel : 2 * (j.print layout indentation).length < fuel)
    (hRest : StopsNumber rest) :
    readValue fuel (j.print layout indentation ++ rest) = (j, rest) := by
  obtain ⟨fuel, rfl⟩ : ∃ f, fuel = f + 1 := ⟨fuel - 1, by omega⟩
  cases j with
  | null => simp [print, readValue, skipBlanks_cons (show isBlank 'n' = false from rfl)]
  | boolean b =>
    cases b with
    | true => simp [print, readValue, skipBlanks_cons (show isBlank 't' = false from rfl)]
    | false => simp [print, readValue, skipBlanks_cons (show isBlank 'f' = false from rfl)]
  | number n => exact readValue_number fuel hj hRest
  | string text => exact readValue_string fuel text rest
  | array elements =>
    cases elements with
    | nil => rfl
    | cons e es =>
      have hText : print layout indentation (array (e :: es)) =
          '[' :: (printElements layout (indentation + 2) (e :: es) ++
            (layout.newLine indentation ++ [']'])) := by simp [print]
      rw [hText, List.length_cons, List.length_append] at hFuel
      have hElements := readElements_print layout e es hj (indentation + 2) indentation fuel rest
        (by omega)
      rw [hText, List.cons_append, List.append_assoc, List.append_assoc]
      exact readValue_array (skipBlanks_printElements hj.1 layout _ _) hElements
  | object members =>
    cases members with
    | nil => rfl
    | cons m ms =>
      have hText : print layout indentation (object (m :: ms)) =
          '\x7b' :: (printMembers layout (indentation + 2) (m :: ms) ++
            (layout.newLine indentation ++ ['\x7d'])) := by simp [print]
      rw [hText, List.length_cons, List.length_append] at hFuel
      have hMembers := readMembers_print layout m ms hj (indentation + 2) indentation fuel rest
        (by omega)
      rw [hText, List.cons_append, List.append_assoc, List.append_assoc]
      exact readValue_object (skipBlanks_printMembers m ms layout _ _) hMembers
  | broken => exact hj.elim
termination_by fuel

/-- The elements of an array are read back from their text up to its bracket. -/
theorem readElements_print (layout : Layout) (e : Json) (es : List Json)
    (hes : AllWellFormed (e :: es)) (indentation outer fuel : Nat) (rest : List Char)
    (hFuel : 2 * (printElements layout indentation (e :: es)).length + 1 < fuel) :
    readElements fuel (printElements layout indentation (e :: es) ++
      (layout.newLine outer ++ ([']'] ++ rest))) = (e :: es, rest) := by
  obtain ⟨fuel, rfl⟩ : ∃ f, fuel = f + 1 := ⟨fuel - 1, by omega⟩
  have hBracket : isBlank ']' = false := rfl
  have hComma : isBlank ',' = false := rfl
  cases es with
  | nil =>
    simp only [printElements, List.length_append] at hFuel
    have hStops : StopsNumber (layout.newLine outer ++ ([']'] ++ rest)) :=
      stopsNumber_newLine_append (stopsNumber_cons (by decide))
    have hValue := readValue_print layout e hes.1 indentation fuel _ (by omega) hStops
    rw [← readValue_newLine_append layout indentation, ← List.append_assoc] at hValue
    refine readElements_last hValue ?_
    rw [skipBlanks_newLine_append]
    exact skipBlanks_cons hBracket rest
  | cons e' es =>
    simp only [printElements, List.length_append, List.length_cons] at hFuel
    have hElements := readElements_print layout e' es hes.2 indentation outer fuel rest
      (by omega)
    have hStops : StopsNumber (',' :: (printElements layout indentation (e' :: es) ++
        (layout.newLine outer ++ ([']'] ++ rest)))) := stopsNumber_cons (by decide)
    have hValue := readValue_print layout e hes.1 indentation fuel _ (by omega) hStops
    rw [← readValue_newLine_append layout indentation] at hValue
    simp only [printElements, List.append_assoc, List.cons_append]
    exact readElements_next hValue (skipBlanks_cons hComma _) hElements
termination_by fuel

/-- The members of an object are read back from their text up to its brace. -/
theorem readMembers_print (layout : Layout) (m : Option String × Json)
    (ms : List (Option String × Json)) (hms : AllMembersWellFormed (m :: ms))
    (indentation outer fuel : Nat) (rest : List Char)
    (hFuel : 2 * (printMembers layout indentation (m :: ms)).length + 1 < fuel) :
    readMembers fuel (printMembers layout indentation (m :: ms) ++
      (layout.newLine outer ++ (['\x7d'] ++ rest))) = (m :: ms, rest) := by
  obtain ⟨fuel, rfl⟩ : ∃ f, fuel = f + 1 := ⟨fuel - 1, by omega⟩
  rcases m with ⟨key, value⟩
  have hBrace : isBlank '\x7d' = false := rfl
  have hComma : isBlank ',' = false := rfl
  cases ms with
  | nil =>
    simp only [printMembers, List.length_append, List.length_cons] at hFuel
    have hStops : StopsNumber (layout.newLine outer ++ (['\x7d'] ++ rest)) :=
      stopsNumber_newLine_append (stopsNumber_cons (by decide))
    have hValue := readValue_print layout value hms.1 indentation fuel _ (by omega) hStops
    rw [← readValue_space_append layout] at hValue
    simp only [printMembers, List.append_assoc, List.cons_append]
    refine readMembers_last (skipBlanks_newLine_stringText layout indentation key _) hValue ?_
    rw [skipBlanks_newLine_append]
    exact skipBlanks_cons hBrace rest
  | cons m' ms =>
    simp only [printMembers, List.length_append, List.length_cons] at hFuel
    have hMembers := readMembers_print layout m' ms hms.2 indentation outer fuel rest
      (by omega)
    have hStops : StopsNumber (',' :: (printMembers layout indentation (m' :: ms) ++
        (layout.newLine outer ++ (['\x7d'] ++ rest)))) := stopsNumber_cons (by decide)
    have hValue := readValue_print layout value hms.1 indentation fuel _ (by omega) hStops
    rw [← readValue_space_append layout] at hValue
    simp only [printMembers, List.append_assoc, List.cons_append]
    exact readMembers_next (skipBlanks_newLine_stringText layout indentation key _) hValue
      (skipBlanks_cons hComma _) hMembers
termination_by fuel

end

/-! ## Documents -/

/-- A document is read back from its text, with nothing left over. -/
theorem read_render {j : Json} (hj : j.WellFormed) (layout : Layout) :
    Document.read (j.render layout) = ⟨j, true⟩ := by
  have hText : (j.render layout).toList = j.print layout 0 := String.toList_ofList
  have hValue := readValue_print layout j hj 0 (2 * (j.print layout 0).length + 2) [] (by omega)
    stopsNumber_nil
  rw [List.append_nil] at hValue
  simp [Document.read, hText, hValue, skipBlanks]

end ScriptValue.Json
