import ScriptValue.Text.Blank

/-!
# Trimming and splitting

Trimming takes off the blanks around a text and nothing else, so blanks around a text do not change
what is left when it is trimmed. A text that neither starts nor ends with a blank is left as it is.
A text that is split at a separator is what stands before it, the separator and what comes after.

* `isBlank_iff`: the blank characters.
* `trim_eq_self`: texts without blanks at their ends.
* `padded_trim`, `Padded.trim_eq`: blanks around a text.
* `eq_takeWhile_append`: the first separator in a text.
-/

namespace ScriptValue.Text

/-- The 25 code points that have the property `White_Space`. -/
def whiteSpace : List Nat :=
  [0x09, 0x0A, 0x0B, 0x0C, 0x0D, 0x20, 0x85, 0xA0, 0x1680, 0x2000, 0x2001, 0x2002, 0x2003, 0x2004,
    0x2005, 0x2006, 0x2007, 0x2008, 0x2009, 0x200A, 0x2028, 0x2029, 0x202F, 0x205F, 0x3000]

theorem isBlank_iff {c : Char} : isBlank c = true ↔ c.toNat ∈ whiteSpace := by
  simp only [isBlank, whiteSpace, Bool.or_eq_true, Bool.and_eq_true, decide_eq_true_eq, beq_iff_eq,
    List.mem_cons, List.not_mem_nil, or_false]
  omega

theorem trimStart_append {blanks : List Char} (hBlanks : ∀ c ∈ blanks, isBlank c = true)
    (s : List Char) : trimStart (blanks ++ s) = trimStart s :=
  List.dropWhile_append_of_pos hBlanks

theorem trim_append {blanks : List Char} (hBlanks : ∀ c ∈ blanks, isBlank c = true)
    (s : List Char) : trim (blanks ++ s) = trim s := by
  unfold trim
  rw [trimStart_append hBlanks]

theorem trimStart_eq_self {s : List Char} (h : ∀ c ∈ s.head?, isBlank c = false) :
    trimStart s = s := by
  cases s with
  | nil => rfl
  | cons c cs => simp [trimStart, h c rfl]

theorem trimEnd_eq_self {s : List Char} (h : ∀ c ∈ s.getLast?, isBlank c = false) :
    trimEnd s = s := by
  have hReverse : s.reverse.dropWhile isBlank = s.reverse :=
    trimStart_eq_self fun c hc => h c (by rwa [List.head?_reverse] at hc)
  rw [trimEnd, hReverse, List.reverse_reverse]

theorem trim_eq_self {s : List Char} (hHead : ∀ c ∈ s.head?, isBlank c = false)
    (hLast : ∀ c ∈ s.getLast?, isBlank c = false) : trim s = s := by
  rw [trim, trimStart_eq_self hHead, trimEnd_eq_self hLast]

theorem trim_eq_self_of_forall {s : List Char} (h : ∀ c ∈ s, isBlank c = false) : trim s = s :=
  trim_eq_self (fun c hc => h c (List.mem_of_head? hc)) fun c hc => h c (List.mem_of_getLast? hc)

/-! ## Blanks around a text -/

/-- A text with blanks around it, which may be missing. -/
inductive Padded (s : List Char) : List Char → Prop where
  | mk {before after : List Char} (hBefore : ∀ c ∈ before, c.toNat ∈ whiteSpace)
      (hAfter : ∀ c ∈ after, c.toNat ∈ whiteSpace) : Padded s (before ++ (s ++ after))

theorem padded_append {blanks : List Char} (hBlanks : ∀ c ∈ blanks, c.toNat ∈ whiteSpace)
    (s : List Char) : Padded s (blanks ++ s) := by
  have hPadded : Padded s (blanks ++ (s ++ [])) := .mk hBlanks (List.forall_mem_nil _)
  rwa [List.append_nil] at hPadded

theorem mem_whiteSpace_of_mem_takeWhile {s : List Char} {c : Char}
    (hc : c ∈ s.takeWhile isBlank) : c.toNat ∈ whiteSpace :=
  isBlank_iff.mp (List.all_eq_true.mp List.all_takeWhile c hc)

/-- Trimming takes nothing off a text but blanks around it. -/
theorem padded_trim (s : List Char) : Padded (trim s) s := by
  have hStart : s.takeWhile isBlank ++ trimStart s = s := List.takeWhile_append_dropWhile
  have hEnd : trim s ++ ((trimStart s).reverse.takeWhile isBlank).reverse = trimStart s := by
    rw [trim, trimEnd, ← List.reverse_append, List.takeWhile_append_dropWhile,
      List.reverse_reverse]
  have hBefore : ∀ c ∈ s.takeWhile isBlank, c.toNat ∈ whiteSpace :=
    fun _ => mem_whiteSpace_of_mem_takeWhile
  have hAfter : ∀ c ∈ ((trimStart s).reverse.takeWhile isBlank).reverse, c.toNat ∈ whiteSpace :=
    fun _ hc => mem_whiteSpace_of_mem_takeWhile (List.mem_reverse.mp hc)
  have hPadded : Padded (trim s) _ := .mk hBefore hAfter
  rwa [hEnd, hStart] at hPadded

theorem trimEnd_append {blanks : List Char} (hBlanks : ∀ c ∈ blanks, isBlank c = true)
    (s : List Char) : trimEnd (s ++ blanks) = trimEnd s := by
  have hReverse : ∀ c ∈ blanks.reverse, isBlank c = true :=
    fun c hc => hBlanks c (List.mem_reverse.mp hc)
  rw [trimEnd, List.reverse_append, List.dropWhile_append_of_pos hReverse, trimEnd]

/-- Blanks around a text make no difference, whatever the text is. -/
theorem Padded.trim_eq {s t : List Char} (h : Padded s t) : trim t = trim s := by
  obtain ⟨hBefore, hAfter⟩ := h
  rename_i before after
  have hBehind : ∀ c ∈ after, isBlank c = true := fun c hc => isBlank_iff.mpr (hAfter c hc)
  have hBlank : trimStart after = [] := by
    have hStart := trimStart_append hBehind []
    rwa [List.append_nil] at hStart
  rw [trim_append fun c hc => isBlank_iff.mpr (hBefore c hc)]
  unfold trim
  by_cases hNone : trimStart s = []
  · -- nothing is left of a blank text at its start, so nothing stops before the blanks behind it
    have hAll : trimStart (s ++ after) = trimStart after := by
      rw [trimStart, List.dropWhile_append, ← trimStart, hNone]
      rfl
    rw [hAll, hBlank, hNone]
  · have hRest : trimStart (s ++ after) = trimStart s ++ after := by
      rw [trimStart, List.dropWhile_append, ← trimStart, if_neg (by simpa using hNone)]
    rw [hRest, trimEnd_append hBehind]

/-! ## Separators -/

theorem eq_takeWhile_append {s after : List Char} {separator c : Char}
    (h : s.dropWhile (· ≠ separator) = c :: after) :
    s = s.takeWhile (· ≠ separator) ++ separator :: after := by
  obtain rfl : c = separator := by
    have hHead := List.head?_dropWhile_not (fun c => decide (c ≠ separator)) s
    rw [h] at hHead
    simpa using hHead
  rw [← h, List.takeWhile_append_dropWhile]

end ScriptValue.Text
