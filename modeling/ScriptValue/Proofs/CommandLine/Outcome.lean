import ScriptValue.Proofs.CommandLine.Report

/-!
# What a command line comes to

A command line whose operands stand behind `--` asks for its task, whatever characters the
operands have and wherever `--json` stands before the `--`. What a task yields and why it fails is
said by two relations, `Task.Yields` and `Task.Fails`, which follow the order in which a task reads
its symbol and its operands. One of them always holds, and the outcome is what it says: a result is
printed, a failure is reported with its message and its cause.

* `Request.ofArguments?_arguments`: command lines.
* `Task.perform_of_yields`, `Task.perform_of_fails`, `Task.yields_or_fails`: tasks.
* `outcome_of_task`: outcomes.
-/

namespace ScriptValue

/-! ## Command lines -/

/-- Where `--json` stands on a command line, if it is there. -/
inductive JsonFlag where
  | absent
  | beforeWord
  | afterWord
deriving DecidableEq

def JsonFlag.isPresent : JsonFlag → Bool
  | absent => false
  | beforeWord => true
  | afterWord => true

namespace Request

theorem Word.ofText?_text (word : Word) : Word.ofText? word.text = some word := by
  cases word <;> rfl

/-- A word is no flag, so the arguments after it are its operands. -/
theorem read?_word (json : Bool) (word : Word) (args : List String) :
    read? json (word.text :: args) =
      (operands? word.arity false args).bind (word.request? json) := by
  have hWord : word.text ≠ "--json" ∧ isVerbosity word.text = false ∧
      isHelp 0 word.text = false ∧ isVersion word.text = false ∧ word.text ≠ "help" := by
    cases word <;> decide
  simp only [read?, hWord, if_false, Bool.false_eq_true, Word.ofText?_text]

end Request

namespace Task

def word : Task → Request.Word
  | eval _ _ _ => .eval
  | unary _ _ => .unary
  | inspect _ => .inspect

def operands : Task → List String
  | eval left operator right => [left, operator, right]
  | unary operator operand => [operator, operand]
  | inspect operand => [operand]

/-- The command line of a task, with all its operands behind `--`. -/
def arguments (task : Task) : JsonFlag → List String
  | .absent => task.word.text :: "--" :: task.operands
  | .beforeWord => "--json" :: task.word.text :: "--" :: task.operands
  | .afterWord => task.word.text :: "--json" :: "--" :: task.operands

theorem task?_operands (task : Task) : task.word.task? task.operands = some task := by
  cases task <;> rfl

end Task

/-- A command line asks for its task, whatever characters the operands have. -/
theorem Request.ofArguments?_arguments (task : Task) (flag : JsonFlag) :
    Request.ofArguments? (task.arguments flag) = some (.perform flag.isPresent task) := by
  unfold Request.ofArguments?
  cases flag with
  | absent =>
    simp [Task.arguments, read?_word, operands?, Word.request?, task.task?_operands,
      JsonFlag.isPresent]
  | beforeWord =>
    have hFlag (args : List String) : read? false ("--json" :: args) = read? true args := by
      simp [read?]
    simp [Task.arguments, hFlag, read?_word, operands?, Word.request?, task.task?_operands,
      JsonFlag.isPresent]
  | afterWord =>
    simp [Task.arguments, read?_word, operands?, Word.request?, task.task?_operands,
      JsonFlag.isPresent]

/-! ## Symbols -/

theorem find?_eq_none_of_ne {α : Type} {symbolOf : α → String} {symbol : String}
    (h : ∀ a, symbol ≠ symbolOf a) (all : List α) :
    all.find? (fun a => symbolOf a = symbol) = none := by
  apply List.find?_eq_none.mpr
  intro a _ hSymbol
  exact h a (of_decide_eq_true hSymbol).symm

theorem BinaryOp.ofSymbol_symbol (op : BinaryOp) : BinaryOp.ofSymbol op.symbol = .ok op := by
  rw [BinaryOp.ofSymbol, BinaryOp.ofSymbol?_symbol]

theorem BinaryOp.ofSymbol_of_ne {symbol : String} (h : ∀ op : BinaryOp, symbol ≠ op.symbol) :
    BinaryOp.ofSymbol symbol = .error (.invalid (.unknownBinary symbol)) := by
  rw [BinaryOp.ofSymbol, BinaryOp.ofSymbol?, find?_eq_none_of_ne h]

theorem UnaryOp.ofSymbol_symbol (op : UnaryOp) : UnaryOp.ofSymbol op.symbol = .ok op := by
  rw [UnaryOp.ofSymbol, UnaryOp.ofSymbol?_symbol]

theorem UnaryOp.ofSymbol_of_ne {symbol : String} (h : ∀ op : UnaryOp, symbol ≠ op.symbol) :
    UnaryOp.ofSymbol symbol = .error (.invalid (.unknownUnary symbol)) := by
  rw [UnaryOp.ofSymbol, UnaryOp.ofSymbol?, find?_eq_none_of_ne h]

/-! ## Results and failures of tasks -/

namespace Task

/-- What a task yields: the result of an operator, or the snapshot of an operand. -/
inductive Result where
  | value (v : Value)
  | snapshot (s : Snapshot)

/-- What is printed of a result: its document, or a line with the kind and the text of a value, or
seven lines with all that a snapshot has. -/
def Result.text (json : Bool) : Result → String
  | value v =>
    if json then (Json.ofValue v).render .pretty
    else if v.isNull then "null"
    else v.kind.name ++ ": " ++ v.string
  | snapshot s =>
    if json then (Json.ofSnapshot s).render .pretty
    else String.intercalate "\n"
      ["null:    " ++ (if s.isNull then "true" else "false"),
        "kind:    " ++ s.kind.name,
        "string:  " ++ s.readings.string,
        "integer: " ++ integerString s.readings.integer,
        "float:   " ++ floatString s.readings.float,
        "boolean: " ++ (if s.readings.boolean then "true" else "false"),
        "pair:    " ++ pairString s.readings.pair]

/-- A task with an operator yields what the operator makes of its operands. -/
inductive Yields : Task → Result → Prop where
  | eval {left right : String} {op : BinaryOp} {v w u : Value}
      (hLeft : Operand.read left = .ok v) (hRight : Operand.read right = .ok w)
      (hResult : v.binary op w = .ok u) : Yields (.eval left op.symbol right) (.value u)
  | unary {operand : String} {op : UnaryOp} {v u : Value}
      (hOperand : Operand.read operand = .ok v) (hResult : v.unary op = .ok u) :
      Yields (.unary op.symbol operand) (.value u)
  | inspect {operand : String} {v : Value} (hOperand : Operand.read operand = .ok v) :
      Yields (.inspect operand) (.snapshot v.snapshot)

/-- A task fails with the first thing that is wrong with it: its symbol, its left operand, its
right operand, or what the operator makes of the operands. -/
inductive Fails : Task → String → Option String → Prop where
  | binarySymbol {left symbol right message : String} (hSymbol : ∀ op : BinaryOp, symbol ≠ op.symbol)
      (hMessage : (OperatorError.invalid (.unknownBinary symbol)).Says message) :
      Fails (.eval left symbol right) message none
  | left {left right message : String} {op : BinaryOp} {cause? : Option String}
      (hLeft : Operand.IsRefused left message cause?) :
      Fails (.eval left op.symbol right) message cause?
  | right {left right message : String} {op : BinaryOp} {v : Value} {cause? : Option String}
      (hLeft : Operand.read left = .ok v) (hRight : Operand.IsRefused right message cause?) :
      Fails (.eval left op.symbol right) message cause?
  | binary {left right cause : String} {op : BinaryOp} {v w : Value} {e : OperatorError}
      (hLeft : Operand.read left = .ok v) (hRight : Operand.read right = .ok w)
      (hResult : v.binary op w = .error e) (hCause : e.Says cause) :
      Fails (.eval left op.symbol right)
        ("Failed to evaluate " ++ left ++ " " ++ op.symbol ++ " " ++ right) (some cause)
  | unarySymbol {symbol operand message : String} (hSymbol : ∀ op : UnaryOp, symbol ≠ op.symbol)
      (hMessage : (OperatorError.invalid (.unknownUnary symbol)).Says message) :
      Fails (.unary symbol operand) message none
  | operand {operand message : String} {op : UnaryOp} {cause? : Option String}
      (hOperand : Operand.IsRefused operand message cause?) :
      Fails (.unary op.symbol operand) message cause?
  | unary {operand cause : String} {op : UnaryOp} {v : Value} {e : OperatorError}
      (hOperand : Operand.read operand = .ok v) (hResult : v.unary op = .error e)
      (hCause : e.Says cause) :
      Fails (.unary op.symbol operand) ("Failed to evaluate " ++ op.symbol ++ operand) (some cause)
  | inspected {operand message : String} {cause? : Option String}
      (hOperand : Operand.IsRefused operand message cause?) :
      Fails (.inspect operand) message cause?

theorem mapError_ok {α ε ε' : Type} (g : ε → ε') (a : α) :
    (Except.ok a : Except ε α).mapError g = .ok a :=
  rfl

theorem mapError_error {α ε ε' : Type} (g : ε → ε') (e : ε) :
    (Except.error e : Except ε α).mapError g = .error (g e) :=
  rfl

theorem readOperand_of_ok {text : String} {v : Value} (h : Operand.read text = .ok v) :
    readOperand text = .ok v := by
  rw [readOperand, h, mapError_ok]

/-- An operand that is refused is a failure with the same texts. -/
theorem readOperand_of_isRefused {text message : String} {cause? : Option String}
    (h : Operand.IsRefused text message cause?) :
    ∃ f : Failure, readOperand text = .error f ∧ f.message = message ∧ f.cause? = cause? := by
  obtain ⟨e, hRead, hMessage, hCause⟩ := Operand.isRefused_iff.mp h
  refine ⟨.operand e, ?_, hMessage, hCause⟩
  rw [readOperand, hRead, mapError_error]

theorem report_value (json : Bool) (v : Value) : v.report json = (Result.value v).text json := by
  unfold Value.report Value.line Result.text
  rfl

/-- The lines that are printed of a snapshot are those that are written out above. -/
theorem report_snapshot (json : Bool) (s : Snapshot) :
    s.report json = (Result.snapshot s).text json := by
  unfold Snapshot.report Snapshot.lines truthText Result.text
  cases json with
  | true => simp only [if_true]
  | false =>
    simp only [Bool.false_eq_true, if_false, String.intercalate_cons_cons,
      String.intercalate_singleton, String.append_assoc]

theorem perform_of_yields {task : Task} {result : Result} (h : task.Yields result) (json : Bool) :
    task.perform json = .ok (result.text json) := by
  cases h with
  | eval hLeft hRight hResult =>
    simp [perform, BinaryOp.ofSymbol_symbol, readOperand_of_ok hLeft, readOperand_of_ok hRight,
      hResult, mapError_ok, report_value, bind, Except.bind, pure, Except.pure]
  | unary hOperand hResult =>
    simp [perform, UnaryOp.ofSymbol_symbol, readOperand_of_ok hOperand, hResult, mapError_ok,
      report_value, bind, Except.bind, pure, Except.pure]
  | inspect hOperand =>
    simp [perform, readOperand_of_ok hOperand, report_snapshot, bind, Except.bind, pure,
      Except.pure]

/-- A task that fails has a failure with these texts, with `--json` or without. -/
theorem perform_of_fails {task : Task} {message : String} {cause? : Option String}
    (h : task.Fails message cause?) :
    ∃ f : Failure, (∀ json, task.perform json = .error f) ∧ f.message = message ∧
      f.cause? = cause? := by
  cases h with
  | binarySymbol hSymbol hMessage =>
    refine ⟨.symbol (.invalid (.unknownBinary _)), fun json => ?_,
      OperatorError.says_iff.mp hMessage, rfl⟩
    simp [perform, BinaryOp.ofSymbol_of_ne hSymbol, mapError_error, bind, Except.bind]
  | left hLeft =>
    obtain ⟨f, hRead, hTexts⟩ := readOperand_of_isRefused hLeft
    refine ⟨f, fun json => ?_, hTexts⟩
    simp [perform, BinaryOp.ofSymbol_symbol, hRead, mapError_ok, bind, Except.bind]
  | right hLeft hRight =>
    obtain ⟨f, hRead, hTexts⟩ := readOperand_of_isRefused hRight
    refine ⟨f, fun json => ?_, hTexts⟩
    simp [perform, BinaryOp.ofSymbol_symbol, readOperand_of_ok hLeft, hRead, mapError_ok, bind,
      Except.bind]
  | @binary left right _ op _ _ e hLeft hRight hResult hCause =>
    refine ⟨.evaluation (left ++ " " ++ op.symbol ++ " " ++ right) e, fun json => ?_, ?_,
      congrArg some (OperatorError.says_iff.mp hCause)⟩
    case refine_2 =>
      unfold Failure.message
      simp only [String.append_assoc]
    simp [perform, BinaryOp.ofSymbol_symbol, readOperand_of_ok hLeft, readOperand_of_ok hRight,
      hResult, mapError_ok, mapError_error, bind, Except.bind]
  | unarySymbol hSymbol hMessage =>
    refine ⟨.symbol (.invalid (.unknownUnary _)), fun json => ?_,
      OperatorError.says_iff.mp hMessage, rfl⟩
    simp [perform, UnaryOp.ofSymbol_of_ne hSymbol, mapError_error, bind, Except.bind]
  | operand hOperand =>
    obtain ⟨f, hRead, hTexts⟩ := readOperand_of_isRefused hOperand
    refine ⟨f, fun json => ?_, hTexts⟩
    simp [perform, UnaryOp.ofSymbol_symbol, hRead, mapError_ok, bind, Except.bind]
  | @unary operand _ op _ e hOperand hResult hCause =>
    refine ⟨.evaluation (op.symbol ++ operand) e, fun json => ?_, ?_,
      congrArg some (OperatorError.says_iff.mp hCause)⟩
    case refine_2 =>
      unfold Failure.message
      simp only [String.append_assoc]
    simp [perform, UnaryOp.ofSymbol_symbol, readOperand_of_ok hOperand, hResult, mapError_ok,
      mapError_error, bind, Except.bind]
  | inspected hOperand =>
    obtain ⟨f, hRead, hTexts⟩ := readOperand_of_isRefused hOperand
    refine ⟨f, fun json => ?_, hTexts⟩
    simp [perform, hRead, bind, Except.bind]

/-- Every task yields something or fails. -/
theorem yields_or_fails (task : Task) :
    (∃ result, task.Yields result) ∨ ∃ message cause?, task.Fails message cause? := by
  have hRefused {text : String} {e : OperandError} (h : Operand.read text = .error e) :
      Operand.IsRefused text e.message e.cause? :=
    Operand.isRefused_iff.mpr ⟨e, h, rfl, rfl⟩
  have hSays (e : OperatorError) : e.Says e.message := OperatorError.says_iff.mpr rfl
  cases task with
  | eval left symbol right =>
    by_cases hSymbol : ∀ op : BinaryOp, symbol ≠ op.symbol
    · exact .inr ⟨_, _, .binarySymbol hSymbol (hSays _)⟩
    · obtain ⟨op, hOp⟩ := Classical.not_forall.mp hSymbol
      cases Classical.not_not.mp hOp
      cases hLeft : Operand.read left with
      | error e => exact .inr ⟨_, _, .left (hRefused hLeft)⟩
      | ok v =>
        cases hRight : Operand.read right with
        | error e => exact .inr ⟨_, _, .right hLeft (hRefused hRight)⟩
        | ok w =>
          cases hResult : v.binary op w with
          | error e => exact .inr ⟨_, _, .binary hLeft hRight hResult (hSays e)⟩
          | ok u => exact .inl ⟨_, .eval hLeft hRight hResult⟩
  | unary symbol operand =>
    by_cases hSymbol : ∀ op : UnaryOp, symbol ≠ op.symbol
    · exact .inr ⟨_, _, .unarySymbol hSymbol (hSays _)⟩
    · obtain ⟨op, hOp⟩ := Classical.not_forall.mp hSymbol
      cases Classical.not_not.mp hOp
      cases hOperand : Operand.read operand with
      | error e => exact .inr ⟨_, _, .operand (hRefused hOperand)⟩
      | ok v =>
        cases hResult : v.unary op with
        | error e => exact .inr ⟨_, _, .unary hOperand hResult (hSays e)⟩
        | ok u => exact .inl ⟨_, .unary hOperand hResult⟩
  | inspect operand =>
    cases hOperand : Operand.read operand with
    | error e => exact .inr ⟨_, _, .inspected (hRefused hOperand)⟩
    | ok v => exact .inl ⟨_, .inspect hOperand⟩

end Task

/-! ## Outcomes -/

namespace Outcome

theorem ofArguments_of_yields {task : Task} {result : Task.Result} (h : task.Yields result)
    (flag : JsonFlag) :
    ofArguments (task.arguments flag) = .success (result.text flag.isPresent ++ "\n") := by
  simp [ofArguments, Request.ofArguments?_arguments, ofRequest, Task.perform_of_yields h]

/-- The failure is the same wherever `--json` stands. -/
theorem ofArguments_of_fails {task : Task} {message : String} {cause? : Option String}
    (h : task.Fails message cause?) (flag : JsonFlag) :
    ∃ f : Failure, ofArguments (task.arguments flag) = .failure f ∧
      f.report = reportText message cause? := by
  obtain ⟨f, hPerform, rfl, rfl⟩ := Task.perform_of_fails h
  refine ⟨f, ?_, f.report_eq⟩
  simp [ofArguments, Request.ofArguments?_arguments, ofRequest, hPerform]

theorem printed_of_yields {task : Task} {result : Task.Result} (h : task.Yields result)
    (flag : JsonFlag) :
    (ofArguments (task.arguments flag)).code = 0 ∧
      (ofArguments (task.arguments flag)).output = result.text flag.isPresent ++ "\n" ∧
      (ofArguments (task.arguments flag)).errorOutput = "" := by
  rw [ofArguments_of_yields h]
  exact ⟨rfl, rfl, rfl⟩

theorem reported_of_fails {task : Task} {message : String} {cause? : Option String}
    (h : task.Fails message cause?) (flag : JsonFlag) :
    (ofArguments (task.arguments flag)).code = 1 ∧
      (ofArguments (task.arguments flag)).output = "" ∧
      (ofArguments (task.arguments flag)).errorOutput = reportText message cause? := by
  obtain ⟨f, hOutcome, hReport⟩ := ofArguments_of_fails h flag
  rw [hOutcome]
  exact ⟨rfl, rfl, hReport⟩

theorem code_zero_iff (task : Task) (flag : JsonFlag) (text : String) :
    (ofArguments (task.arguments flag)).code = 0 ∧
        (ofArguments (task.arguments flag)).output = text ↔
      ∃ result, task.Yields result ∧ text = result.text flag.isPresent ++ "\n" := by
  constructor
  · rintro ⟨hZero, rfl⟩
    rcases task.yields_or_fails with ⟨result, hYields⟩ | ⟨message, cause?, hFails⟩
    · exact ⟨result, hYields, (printed_of_yields hYields flag).2.1⟩
    · exact absurd ((reported_of_fails hFails flag).1.symm.trans hZero) (by decide)
  · rintro ⟨result, hYields, rfl⟩
    obtain ⟨hCode, hOutput, -⟩ := printed_of_yields hYields flag
    exact ⟨hCode, hOutput⟩

theorem code_one_iff (task : Task) (flag : JsonFlag) (text : String) :
    (ofArguments (task.arguments flag)).code = 1 ∧
        (ofArguments (task.arguments flag)).errorOutput = text ↔
      ∃ message cause?, task.Fails message cause? ∧ text = reportText message cause? := by
  constructor
  · rintro ⟨hOne, rfl⟩
    rcases task.yields_or_fails with ⟨result, hYields⟩ | ⟨message, cause?, hFails⟩
    · exact absurd ((printed_of_yields hYields flag).1.symm.trans hOne) (by decide)
    · exact ⟨message, cause?, hFails, (reported_of_fails hFails flag).2.2⟩
  · rintro ⟨message, cause?, hFails, rfl⟩
    obtain ⟨hCode, -, hError⟩ := reported_of_fails hFails flag
    exact ⟨hCode, hError⟩

/-- A command line writes a result or a report, and never both. -/
theorem code_cases (task : Task) (flag : JsonFlag) :
    (ofArguments (task.arguments flag)).code = 0 ∧
        (ofArguments (task.arguments flag)).errorOutput = "" ∨
      (ofArguments (task.arguments flag)).code = 1 ∧
        (ofArguments (task.arguments flag)).output = "" := by
  rcases task.yields_or_fails with ⟨result, hYields⟩ | ⟨message, cause?, hFails⟩
  · obtain ⟨hCode, -, hError⟩ := printed_of_yields hYields flag
    exact .inl ⟨hCode, hError⟩
  · obtain ⟨hCode, hOutput, -⟩ := reported_of_fails hFails flag
    exact .inr ⟨hCode, hOutput⟩

theorem code_and_report_arguments (task : Task) (flag flag' : JsonFlag) :
    (ofArguments (task.arguments flag')).code = (ofArguments (task.arguments flag)).code ∧
      (ofArguments (task.arguments flag')).errorOutput =
        (ofArguments (task.arguments flag)).errorOutput := by
  rcases task.yields_or_fails with ⟨result, hYields⟩ | ⟨message, cause?, hFails⟩
  · obtain ⟨hCode, -, hError⟩ := printed_of_yields hYields flag
    obtain ⟨hCode', -, hError'⟩ := printed_of_yields hYields flag'
    exact ⟨hCode'.trans hCode.symm, hError'.trans hError.symm⟩
  · obtain ⟨hCode, -, hError⟩ := reported_of_fails hFails flag
    obtain ⟨hCode', -, hError'⟩ := reported_of_fails hFails flag'
    exact ⟨hCode'.trans hCode.symm, hError'.trans hError.symm⟩

end Outcome

/-- A command line whose operands stand behind `--` ends with code 0 exactly if its task yields
something, and then it prints what the task yields, as lines or with `--json` as a document.
Otherwise it ends with code 1, prints nothing and reports the first failure of the task, with its
message and its cause. Neither the code nor the report depends on `--json`. -/
theorem outcome_of_task (task : Task) (flag : JsonFlag) :
    let outcome := Outcome.ofArguments (task.arguments flag)
    (∀ text, outcome.code = 0 ∧ outcome.output = text ↔
      ∃ result, task.Yields result ∧ text = result.text flag.isPresent ++ "\n") ∧
    (∀ text, outcome.code = 1 ∧ outcome.errorOutput = text ↔
      ∃ message cause?, task.Fails message cause? ∧ text = reportText message cause?) ∧
    (outcome.code = 0 ∧ outcome.errorOutput = "" ∨ outcome.code = 1 ∧ outcome.output = "") ∧
    ∀ flag' : JsonFlag,
      let outcome' := Outcome.ofArguments (task.arguments flag')
      outcome'.code = outcome.code ∧ outcome'.errorOutput = outcome.errorOutput := by
  exact ⟨Outcome.code_zero_iff task flag, Outcome.code_one_iff task flag,
    Outcome.code_cases task flag, Outcome.code_and_report_arguments task flag⟩

/-- Behind `--` the arguments `--` and `--json` are a symbol and an operand. -/
example : (Outcome.ofArguments ["unary", "--json", "--", "--", "--json"]).errorOutput =
    "Error: Failed to evaluate ----json\n\nCaused by:\n" ++
      "    invalid operation: cannot perform decrementation with a string value\n" := by
  decide +kernel

end ScriptValue
