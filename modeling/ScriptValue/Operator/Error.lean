import ScriptValue.Operator.Basic

/-!
# Why an operator has no result

An operator fails on a null operand, on operands that it has no meaning for, and on a zero
divisor. A symbol that names no operator counts as an invalid operation too.
-/

namespace ScriptValue

/-- The operands that some binary operators have no meaning for. -/
inductive Unfit where
  | string
  | float
deriving DecidableEq

/-- What makes an operation invalid. -/
inductive InvalidOperation where
  | binary (op : BinaryOp) (operand : Unfit)
  | negateString
  | complementString
  | complementFloat
  | incrementString
  | decrementString
  | notOfNonBoolean
  | unknownBinary (symbol : String)
  | unknownUnary (symbol : String)
deriving DecidableEq

/-- Why an operator has no result. The operator is given by its symbol. -/
inductive OperatorError where
  | nullOperand (symbol : String)
  | invalid (cause : InvalidOperation)
  | zeroDivisor (symbol : String)
deriving DecidableEq

/-! ## Wording -/

def BinaryOp.description : BinaryOp → String
  | equal | notEqual => "comparison"
  | add => "addition"
  | sub => "subtraction"
  | mul => "multiplication"
  | div => "division"
  | rem => "remainder division"
  | pow => "exponentiation"
  | bitAnd => "bitwise or logical AND"
  | bitOr => "bitwise or logical OR"

def Unfit.description : Unfit → String
  | string => "a string value"
  | float => "a floating-point value"

def InvalidOperation.message : InvalidOperation → String
  | binary op operand => "cannot perform " ++ op.description ++ " with " ++ operand.description
  | negateString => "cannot perform mathematical negation on a string value"
  | complementString => "cannot perform binary negation on a string value"
  | complementFloat => "cannot perform binary negation on a floating-point value"
  | incrementString => "cannot perform incrementation with a string value"
  | decrementString => "cannot perform decrementation with a string value"
  | notOfNonBoolean => "cannot perform logical-NOT on non-boolean values"
  | unknownBinary symbol => "unknown binary operator `" ++ symbol ++ "`"
  | unknownUnary symbol => "unknown unary operator `" ++ symbol ++ "`"

def OperatorError.message : OperatorError → String
  | nullOperand symbol => "operator `" ++ symbol ++ "` applied to a null value"
  | invalid cause => "invalid operation: " ++ cause.message
  | zeroDivisor symbol => "operator `" ++ symbol ++ "` divided by zero"

/-! ## Symbols -/

def BinaryOp.ofSymbol (symbol : String) : Except OperatorError BinaryOp :=
  match ofSymbol? symbol with
  | some op => .ok op
  | none => .error (.invalid (.unknownBinary symbol))

def UnaryOp.ofSymbol (symbol : String) : Except OperatorError UnaryOp :=
  match ofSymbol? symbol with
  | some op => .ok op
  | none => .error (.invalid (.unknownUnary symbol))

end ScriptValue
