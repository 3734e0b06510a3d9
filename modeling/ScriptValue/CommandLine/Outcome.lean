import ScriptValue.CommandLine.Help
import ScriptValue.CommandLine.Operand
import ScriptValue.Json.Printer
import ScriptValue.Operator.Binary
import ScriptValue.Operator.Unary
import ScriptValue.Serial.Literal
import ScriptValue.Serial.Snapshot

/-!
# Outcomes of the command line

What the program prints for its arguments and with which code it ends: 0 with a result or with
help, 1 with a report of the first failure, and 2 if the arguments are not well formed. The operator
symbol is read first, then the operands from left to right, and then the operator is applied.
Results go to the output and reports to the error output.
-/

namespace ScriptValue

/-! ## Failures -/

/-- Why a task fails. -/
inductive Failure where
  | symbol (e : OperatorError)
  | operand (e : OperandError)
  | evaluation (expression : String) (e : OperatorError)
deriving DecidableEq

namespace Failure

def message : Failure → String
  | symbol e => e.message
  | operand e => e.message
  | evaluation expression _ => "Failed to evaluate " ++ expression

def cause? : Failure → Option String
  | symbol _ => none
  | operand e => e.cause?
  | evaluation _ e => some e.message

def report (f : Failure) : String :=
  "Error: " ++ f.message ++ "\n" ++
    match f.cause? with
    | some cause => "\nCaused by:\n    " ++ cause ++ "\n"
    | none => ""

end Failure

/-! ## Results -/

/-- A value in one line: its kind and its text. -/
def Value.line (v : Value) : String :=
  if v.isNull then "null" else v.kind.name ++ ": " ++ v.string

def truthText (b : Bool) : String :=
  if b then "true" else "false"

def Snapshot.lines (s : Snapshot) : String :=
  "null:    " ++ truthText s.isNull ++ "\n" ++
  "kind:    " ++ s.kind.name ++ "\n" ++
  "string:  " ++ s.readings.string ++ "\n" ++
  "integer: " ++ integerString s.readings.integer ++ "\n" ++
  "float:   " ++ floatString s.readings.float ++ "\n" ++
  "boolean: " ++ truthText s.readings.boolean ++ "\n" ++
  "pair:    " ++ pairString s.readings.pair

/-- A result: its line, or its pretty document. -/
def Value.report (json : Bool) (v : Value) : String :=
  if json then (Json.ofValue v).render .pretty else v.line

/-- An inspected value: its lines, or the pretty document of its snapshot. -/
def Snapshot.report (json : Bool) (s : Snapshot) : String :=
  if json then (Json.ofSnapshot s).render .pretty else s.lines

/-! ## Tasks -/

def readOperand (text : String) : Except Failure Value :=
  (Operand.read text).mapError .operand

/-- What a task prints, without the last line feed. -/
def Task.perform (json : Bool) : Task → Except Failure String
  | eval left operator right => do
    let op ← (BinaryOp.ofSymbol operator).mapError .symbol
    let v ← readOperand left
    let w ← readOperand right
    let expression := left ++ " " ++ operator ++ " " ++ right
    let result ← (v.binary op w).mapError (.evaluation expression)
    return result.report json
  | unary operator operand => do
    let op ← (UnaryOp.ofSymbol operator).mapError .symbol
    let v ← readOperand operand
    let result ← (v.unary op).mapError (.evaluation (operator ++ operand))
    return result.report json
  | inspect operand => do
    let v ← readOperand operand
    return v.snapshot.report json

/-! ## Outcomes -/

/-- How a run of the program ends. -/
inductive Outcome where
  | success (output : String)
  | failure (f : Failure)
  | usage
deriving DecidableEq

namespace Outcome

def versionLine : String := "kerbo 0.1.0"

def ofRequest : Request → Outcome
  | .help topic => success topic.screen
  | .version => success (versionLine ++ "\n")
  | .perform json task =>
    match task.perform json with
    | .ok output => success (output ++ "\n")
    | .error f => failure f

def ofArguments (args : List String) : Outcome :=
  match Request.ofArguments? args with
  | some request => ofRequest request
  | none => usage

def code : Outcome → Nat
  | success _ => 0
  | failure _ => 1
  | usage => 2

def output : Outcome → String
  | success text => text
  | failure _ => ""
  | usage => ""

/-- What goes to the error output. For arguments that are not well formed it is the line on usage,
without the text before it that says what is wrong with them. -/
def errorOutput : Outcome → String
  | success _ => ""
  | failure f => f.report
  | usage => Request.Topic.program.usage

end Outcome

end ScriptValue
