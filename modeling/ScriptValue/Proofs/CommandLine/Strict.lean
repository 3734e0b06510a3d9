import ScriptValue.Proofs.CommandLine.Operand
import ScriptValue.Proofs.Serial.Layout

/-!
# Strict and lenient readers of texts

A text is read as an integer, a number in floating point, a boolean or a pair in two ways. The
readings of a value are lenient: a text that cannot be read has a fixed reading. The operands of
the command line and the literals in documents are strict: such a text is refused. Both ways go
through one reader for each kind, so what the strict way makes of a text is made of its lenient
reading, and the strict way fails only where the lenient one gives the fixed reading.

* `Operand.toOption_read_integer`, `Operand.toOption_read_float`, `Operand.toOption_read_boolean`,
  `Operand.toOption_read_pair`: operands.
* `Json.toOption_decode_floatText`: literals of numbers in floating point.
* `Operand.isStrict_of_readBody`: which operands are refused.
* `strict_and_lenient`: all texts.
-/

namespace ScriptValue

/-! ## Outcomes of strict readers -/

section

variable {ε α : Type}

/-- The outcome of a strict reader against the lenient reading: the value that is made of this
reading, or a failure, and then the reading is the fixed one. -/
def Refines (outcome : Except ε Value) (make : α → Value) (reading fixed : α) : Prop :=
  outcome = .ok (make reading) ∨ (∃ e, outcome = .error e) ∧ reading = fixed

/-- A strict reader refines the lenient one if they read the same. -/
theorem refines_of_toOption {outcome : Except ε Value} {make : α → Value} {read : Option α}
    (h : outcome.toOption = read.map make) (fixed : α) :
    Refines outcome make (read.getD fixed) fixed := by
  cases outcome with
  | ok v =>
    cases read with
    | some a => exact Or.inl (congrArg Except.ok (Option.some.inj h))
    | none => cases h
  | error e =>
    cases read with
    | some a => cases h
    | none => exact Or.inr ⟨⟨e, rfl⟩, rfl⟩

theorem exists_eq_ok_iff {outcome : Except ε α} :
    (∃ a, outcome = .ok a) ↔ outcome.toOption.isSome := by
  cases outcome <;> simp [Except.toOption]

end

/-! ## Operands -/

namespace Operand

theorem toOption_read_integer (t : String) : (read ("int:" ++ t)).toOption =
    (Numeral.readInteger (Text.trim t.toList)).toOption.map .ofInteger := by
  rw [← Tag.lead_integer, read_lead, readBody]
  cases Numeral.readInteger (Text.trim t.toList) <;> rfl

theorem toOption_read_float (t : String) : (read ("float:" ++ t)).toOption =
    (Binary64.read (Text.trim t.toList)).toOption.map .ofFloat := by
  rw [← Tag.lead_float, read_lead, readBody]
  cases Binary64.read (Text.trim t.toList) <;> rfl

theorem toOption_read_boolean (t : String) : (read ("bool:" ++ t)).toOption =
    (readBoolean? (Text.trim t.toList)).map .ofBoolean := by
  rw [← Tag.lead_boolean, read_lead, readBody]
  cases readBoolean? (Text.trim t.toList) <;> rfl

theorem toOption_read_pair (t : String) : (read ("pair:" ++ t)).toOption =
    (Pair.read? t.toList).map .ofPair := by
  rw [← Tag.lead_pair, read_lead, readBody, String.ofList_toList, Pair.read]
  cases Pair.read? t.toList <;> rfl

/-- The tags whose bodies may be refused. -/
def Tag.isStrict : Tag → Bool
  | string | pointer => false
  | _ => true

theorem isStrict_of_readBody {tag : Tag} {body : List Char} {e : OperandError}
    (h : readBody tag body = .error e) : tag.isStrict = true := by
  cases tag with
  | string => cases h
  | pointer => cases h
  | _ => rfl

end Operand

/-! ## Literals of numbers in floating point -/

namespace Json

theorem toOption_toFloat_ofString (t : String) :
    (ofString t).toFloat.toOption = (Binary64.read (Text.trim t.toList)).toOption := by
  rw [ofString, toFloat]
  cases Binary64.read (Text.trim t.toList) <;> rfl

theorem literalOf?_float (content : Json) :
    literalOf? "float" content = content.toFloat.toOption.map (some ∘ Source.float) := by
  have hKind : literalKind? "float" = some (some .float) := literalKind?_name .float
  rw [literalOf?, hKind]
  exact toOption_map (some ∘ Source.float) content.toFloat

/-- The members of a literal that has a text for its number in floating point. -/
def floatText (t : String) : List (String × Json) :=
  [("kind", ofString "float"), ("value", ofString t)]

theorem toOption_decode_floatText {t text : String} (h : WritesRecord (floatText t) text) :
    (decode toValue text).toOption =
      (Binary64.read (Text.trim t.toList)).toOption.map .ofFloat := by
  obtain ⟨j, hRecord, hText⟩ := h
  have hSkips : "float" = Kind.pair.name → SkipsKeepable (ofString t) := fun hName =>
    absurd hName (by decide)
  rw [decode_of_read hText, toOption_toValue, toOption_toLiteral "float" _ hSkips hRecord,
    literalOf?_float, toOption_toFloat_ofString, Option.map_map]
  rfl

end Json

/-! ## All texts -/

/-- An operand with the word of a kind has the value of the lenient reading of its body, or it is
refused, and then this reading is the fixed one of the kind. A literal of a number in floating
point with a text in it, in whatever layout, is read as the operand with this text is. Only
operands with one of these words are refused, and an operand without a word is a string as a
whole. -/
theorem strict_and_lenient :
    (∀ t : String,
      Refines (Operand.read ("int:" ++ t)) .ofInteger (integerReading t) 0 ∧
      Refines (Operand.read ("float:" ++ t)) .ofFloat (floatReading t) Binary64.nan ∧
      (∀ text, Json.WritesRecord (Json.floatText t) text →
        Refines (decode Json.toValue text) .ofFloat (floatReading t) Binary64.nan ∧
        ((∃ v, Operand.read ("float:" ++ t) = .ok v) ↔ ∃ v, decode Json.toValue text = .ok v)) ∧
      Refines (Operand.read ("bool:" ++ t)) .ofBoolean (booleanReading t) false ∧
      Refines (Operand.read ("pair:" ++ t)) .ofPair (pairReading t) .zero) ∧
    ∀ s : String,
      (∀ e, Operand.read s = .error e →
        ∃ word ∈ ["int:", "float:", "bool:", "pair:"], ∃ body, s = word ++ body) ∧
      (s ≠ "null" →
        (∀ word ∈ ["str:", "ptr:", "int:", "float:", "bool:", "pair:"], ∀ body, s ≠ word ++ body) →
          Operand.read s = .ok (.ofString s)) := by
  constructor
  · intro t
    have hOperand := Operand.toOption_read_float t
    refine ⟨refines_of_toOption (Operand.toOption_read_integer t) 0,
      refines_of_toOption hOperand _, fun text hText => ?_,
      refines_of_toOption (Operand.toOption_read_boolean t) false,
      refines_of_toOption (Operand.toOption_read_pair t) _⟩
    have hLiteral := Json.toOption_decode_floatText hText
    refine ⟨refines_of_toOption hLiteral _, ?_⟩
    rw [exists_eq_ok_iff, exists_eq_ok_iff, hOperand, hLiteral]
  · intro s
    constructor
    · intro e h
      obtain ⟨tag, body, hText, hBody⟩ := Operand.read_eq_error_iff.mp h
      have hStrict := Operand.isStrict_of_readBody hBody
      refine ⟨tag.lead, ?_, body, hText⟩
      cases tag with
      | string => cases hStrict
      | pointer => cases hStrict
      | _ => decide
    · intro hNull hWord
      refine Operand.read_of_ne_lead hNull fun tag => hWord tag.lead ?_
      cases tag <;> decide

/-- A number with a blank before it, in an array, and a text that is no number, in an object with
the value first. An address has a colon in it, but no word. -/
theorem strict_and_lenient_address :
    let numeral := (Json.array [Json.ofString "float", Json.ofString " 1e3"]).render .compact
    let word := (Json.ofMembers (Json.floatText "one").reverse).render .pretty
    Json.WritesRecord (Json.floatText " 1e3") numeral ∧
      Json.WritesRecord (Json.floatText "one") word ∧
      Refines (decode Json.toValue numeral) .ofFloat (floatReading " 1e3") Binary64.nan ∧
      Refines (decode Json.toValue word) .ofFloat (floatReading "one") Binary64.nan ∧
      (∃ e, Operand.read "int:1:2" = .error e ∧
        ∃ word ∈ ["int:", "float:", "bool:", "pair:"], ∃ body, "int:1:2" = word ++ body) ∧
      "http://x" ≠ "null" ∧ Operand.read "http://x" = .ok (.ofString "http://x") := by
  intro numeral word
  have hNumeral : Json.WritesRecord (Json.floatText " 1e3") numeral :=
    Json.WritesRecord.of_render .array (by exact ⟨trivial, trivial, trivial⟩) .compact
  have hWord : Json.WritesRecord (Json.floatText "one") word :=
    Json.WritesRecord.of_render (.of_perm (List.reverse_perm _))
      (by exact ⟨trivial, trivial, trivial⟩) .pretty
  refine ⟨hNumeral, hWord, ((strict_and_lenient.1 " 1e3").2.2.1 numeral hNumeral).1,
    ((strict_and_lenient.1 "one").2.2.1 word hWord).1, ⟨_, rfl, ?_⟩, by decide, ?_⟩
  · exact (strict_and_lenient.2 "int:1:2").1 _ rfl
  · refine (strict_and_lenient.2 "http://x").2 (by decide) fun word hMem body h => ?_
    have hText := congrArg String.toList h
    simp only [List.mem_cons, List.not_mem_nil, or_false] at hMem
    rcases hMem with rfl | rfl | rfl | rfl | rfl | rfl <;> simp at hText

end ScriptValue
