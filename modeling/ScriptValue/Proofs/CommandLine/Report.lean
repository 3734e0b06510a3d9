import ScriptValue.CommandLine.Outcome
import ScriptValue.Proofs.CommandLine.Word

/-!
# What is reported

A report has a message and, for most failures, a cause below it. An operand is refused for its own
text: the message quotes the body behind the word, as it stands on the command line, and the cause
says what is wrong with the body. A fault of an operator is the cause of a failed evaluation. All
these texts are written out here, and the errors that the readers and the operators hand on have
the same texts.

* `Operand.isRefused_iff`: operands that are refused.
* `OperatorError.says_iff`: faults of operators.
* `Failure.report_eq`: the lines of a report.
-/

namespace ScriptValue

/-! ## Operands -/

/-- The causes for texts that are no integers. -/
def integerCauses : List (Numeral.IntegerFault × String) :=
  [(.empty, "cannot parse integer from empty string"),
    (.invalidDigit, "invalid digit found in string"),
    (.tooLarge, "number too large to fit in target type"),
    (.tooSmall, "number too small to fit in target type")]

/-- The causes for texts that are no numbers in floating point. -/
def floatCauses : List (Binary64.ReadFault × String) :=
  [(.empty, "cannot parse float from empty string"), (.malformed, "invalid float literal")]

theorem mem_integerCauses_iff {fault : Numeral.IntegerFault} {cause : String} :
    (fault, cause) ∈ integerCauses ↔ fault.message = cause := by
  cases fault <;> simp [integerCauses, Numeral.IntegerFault.message, eq_comm]

theorem mem_floatCauses_iff {fault : Binary64.ReadFault} {cause : String} :
    (fault, cause) ∈ floatCauses ↔ fault.message = cause := by
  cases fault <;> simp [floatCauses, Binary64.ReadFault.message, eq_comm]

namespace Operand

/-- An operand is refused with a message, and for all kinds but booleans with a cause. -/
inductive IsRefused : String → String → Option String → Prop where
  | integer {body cause : String} {fault : Numeral.IntegerFault}
      (hRead : Numeral.readInteger (Text.trim body.toList) = .error fault)
      (hCause : (fault, cause) ∈ integerCauses) :
      IsRefused ("int:" ++ body) ("Invalid integer literal: '" ++ body ++ "'") (some cause)
  | float {body cause : String} {fault : Binary64.ReadFault}
      (hRead : Binary64.read (Text.trim body.toList) = .error fault)
      (hCause : (fault, cause) ∈ floatCauses) :
      IsRefused ("float:" ++ body) ("Invalid float literal: '" ++ body ++ "'") (some cause)
  | boolean {body : String} (hRead : readBoolean? (Text.trim body.toList) = none) :
      IsRefused ("bool:" ++ body)
        ("Invalid boolean literal: '" ++ body ++ "'. Expected true or false") none
  | pair {body : String} (hRead : Pair.read? body.toList = none) :
      IsRefused ("pair:" ++ body) ("Invalid ordered pair literal: '" ++ body ++ "'")
        (some ("invalid ordered pair literal: " ++ Text.quoted body))

/-- What the reader of a body finds wrong with it is what the operand is refused for. -/
theorem isRefused_of_readBody {tag : Tag} {body : String} {e : OperandError}
    (h : readBody tag body.toList = .error e) :
    IsRefused (tag.lead ++ body) e.message e.cause? := by
  unfold readBody at h
  rw [String.ofList_toList] at h
  cases tag with
  | string => cases h
  | pointer => cases h
  | integer =>
    cases hRead : Numeral.readInteger (Text.trim body.toList) with
    | ok i => simp [hRead] at h
    | error fault =>
      rw [hRead] at h
      cases h
      rw [Tag.lead_integer]
      exact .integer hRead (mem_integerCauses_iff.mpr rfl)
  | float =>
    cases hRead : Binary64.read (Text.trim body.toList) with
    | ok f => simp [hRead] at h
    | error fault =>
      rw [hRead] at h
      cases h
      rw [Tag.lead_float]
      exact .float hRead (mem_floatCauses_iff.mpr rfl)
  | boolean =>
    cases hRead : readBoolean? (Text.trim body.toList) with
    | some b => simp [hRead] at h
    | none =>
      rw [hRead] at h
      cases h
      rw [Tag.lead_boolean]
      exact .boolean hRead
  | pair =>
    dsimp only at h
    unfold Pair.read at h
    cases hRead : Pair.read? body.toList with
    | some p => simp [hRead] at h
    | none =>
      rw [hRead] at h
      cases h
      rw [Tag.lead_pair]
      exact .pair hRead

/-- The operands that are refused are those that the reader refuses, and with the same texts. -/
theorem isRefused_iff {text message : String} {cause? : Option String} :
    IsRefused text message cause? ↔
      ∃ e, read text = .error e ∧ e.message = message ∧ e.cause? = cause? := by
  constructor
  · have hError {tag : Tag} {body : String} {e : OperandError}
        (hBody : readBody tag body.toList = .error e) : read (tag.lead ++ body) = .error e :=
      read_eq_error_iff.mpr ⟨tag, body, rfl, hBody⟩
    intro h
    cases h with
    | @integer body cause fault hRead hCause =>
      rw [← Tag.lead_integer]
      have hBody : readBody .integer body.toList = .error (.integer body fault) := by
        simp [readBody, hRead]
      exact ⟨_, hError hBody, rfl, congrArg some (mem_integerCauses_iff.mp hCause)⟩
    | @float body cause fault hRead hCause =>
      rw [← Tag.lead_float]
      have hBody : readBody .float body.toList = .error (.float body fault) := by
        simp [readBody, hRead]
      exact ⟨_, hError hBody, rfl, congrArg some (mem_floatCauses_iff.mp hCause)⟩
    | @boolean body hRead =>
      rw [← Tag.lead_boolean]
      have hBody : readBody .boolean body.toList = .error (.boolean body) := by
        simp [readBody, hRead]
      exact ⟨_, hError hBody, rfl, rfl⟩
    | @pair body hRead =>
      rw [← Tag.lead_pair]
      have hBody : readBody .pair body.toList = .error (.pair body ⟨body⟩) := by
        simp [readBody, Pair.read, hRead]
      exact ⟨_, hError hBody, rfl, rfl⟩
  · rintro ⟨e, hError, rfl, rfl⟩
    obtain ⟨tag, body, rfl, hBody⟩ := read_eq_error_iff.mp hError
    exact isRefused_of_readBody hBody

end Operand

/-! ## Operators -/

/-- What the binary operators do, in words. -/
def binaryNouns : List (BinaryOp × String) :=
  [(.equal, "comparison"), (.notEqual, "comparison"), (.add, "addition"), (.sub, "subtraction"),
    (.mul, "multiplication"), (.div, "division"), (.rem, "remainder division"),
    (.pow, "exponentiation"), (.bitAnd, "bitwise or logical AND"),
    (.bitOr, "bitwise or logical OR")]

/-- The operands that some binary operators are not fit for, in words. -/
def unfitNouns : List (Unfit × String) :=
  [(.string, "a string value"), (.float, "a floating-point value")]

/-- What is invalid about the operands of unary operators. -/
def unaryFaults : List (InvalidOperation × String) :=
  [(.negateString, "cannot perform mathematical negation on a string value"),
    (.complementString, "cannot perform binary negation on a string value"),
    (.complementFloat, "cannot perform binary negation on a floating-point value"),
    (.incrementString, "cannot perform incrementation with a string value"),
    (.decrementString, "cannot perform decrementation with a string value"),
    (.notOfNonBoolean, "cannot perform logical-NOT on non-boolean values")]

/-- What makes an operation invalid, in words. -/
inductive InvalidOperation.Says : InvalidOperation → String → Prop where
  | binary {op : BinaryOp} {operand : Unfit} {noun object : String}
      (hNoun : (op, noun) ∈ binaryNouns) (hObject : (operand, object) ∈ unfitNouns) :
      Says (.binary op operand) ("cannot perform " ++ noun ++ " with " ++ object)
  | unary {cause : InvalidOperation} {text : String} (hText : (cause, text) ∈ unaryFaults) :
      Says cause text
  | unknownBinary (symbol : String) :
      Says (.unknownBinary symbol) ("unknown binary operator `" ++ symbol ++ "`")
  | unknownUnary (symbol : String) :
      Says (.unknownUnary symbol) ("unknown unary operator `" ++ symbol ++ "`")

/-- Why an operator has no result, in words. -/
inductive OperatorError.Says : OperatorError → String → Prop where
  | nullOperand (symbol : String) :
      Says (.nullOperand symbol) ("operator `" ++ symbol ++ "` applied to a null value")
  | invalid {cause : InvalidOperation} {text : String} (hText : cause.Says text) :
      Says (.invalid cause) ("invalid operation: " ++ text)
  | zeroDivisor (symbol : String) :
      Says (.zeroDivisor symbol) ("operator `" ++ symbol ++ "` divided by zero")

theorem mem_binaryNouns_iff {op : BinaryOp} {noun : String} :
    (op, noun) ∈ binaryNouns ↔ op.description = noun := by
  cases op <;> simp [binaryNouns, BinaryOp.description, eq_comm]

theorem mem_unfitNouns_iff {operand : Unfit} {noun : String} :
    (operand, noun) ∈ unfitNouns ↔ operand.description = noun := by
  cases operand <;> simp [unfitNouns, Unfit.description, eq_comm]

theorem message_of_mem_unaryFaults {cause : InvalidOperation} {text : String}
    (h : (cause, text) ∈ unaryFaults) : cause.message = text := by
  simp only [unaryFaults, List.mem_cons, Prod.mk.injEq, List.not_mem_nil, or_false] at h
  rcases h with ⟨rfl, rfl⟩ | ⟨rfl, rfl⟩ | ⟨rfl, rfl⟩ | ⟨rfl, rfl⟩ | ⟨rfl, rfl⟩ | ⟨rfl, rfl⟩ <;> rfl

theorem InvalidOperation.says_iff {cause : InvalidOperation} {text : String} :
    cause.Says text ↔ cause.message = text := by
  constructor
  · intro h
    cases h with
    | binary hNoun hObject =>
      rw [← mem_binaryNouns_iff.mp hNoun, ← mem_unfitNouns_iff.mp hObject]
      rfl
    | unary hText => exact message_of_mem_unaryFaults hText
    | unknownBinary symbol => rfl
    | unknownUnary symbol => rfl
  · rintro rfl
    cases cause with
    | binary op operand => exact .binary (mem_binaryNouns_iff.mpr rfl) (mem_unfitNouns_iff.mpr rfl)
    | unknownBinary symbol => exact .unknownBinary symbol
    | unknownUnary symbol => exact .unknownUnary symbol
    | _ => exact .unary (by decide)

/-- The texts of the faults are their messages. -/
theorem OperatorError.says_iff {e : OperatorError} {text : String} :
    e.Says text ↔ e.message = text := by
  constructor
  · intro h
    cases h with
    | nullOperand symbol => rfl
    | invalid hText =>
      rw [← InvalidOperation.says_iff.mp hText]
      rfl
    | zeroDivisor symbol => rfl
  · rintro rfl
    cases e with
    | nullOperand symbol => exact .nullOperand symbol
    | invalid cause => exact .invalid (InvalidOperation.says_iff.mpr rfl)
    | zeroDivisor symbol => exact .zeroDivisor symbol

/-! ## Reports -/

/-- The lines of a report. The cause stands below the message, after an empty line. -/
def reportText (message : String) : Option String → String
  | none => "Error: " ++ message ++ "\n"
  | some cause => "Error: " ++ message ++ "\n\nCaused by:\n    " ++ cause ++ "\n"

theorem Failure.report_eq (f : Failure) : f.report = reportText f.message f.cause? := by
  unfold report reportText
  cases f.cause? with
  | none => exact String.append_empty
  | some cause =>
    apply String.toList_inj.mp
    simp

end ScriptValue
