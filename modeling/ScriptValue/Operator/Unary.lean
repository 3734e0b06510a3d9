import ScriptValue.Operator.Error
import ScriptValue.Value.Basic

/-!
# Unary operators

A unary operator works in the domain of its operand's own kind. Identity gives the operand back,
logical negation is for booleans alone, and the others give null for a pointer and an error for a
string. On booleans they calculate with one and zero, and a result other than zero is true.
-/

namespace ScriptValue

namespace UnaryOp

/-- The other truth value. -/
def invert (v : Value) : Except OperatorError Value :=
  match v.kind with
  | .boolean => .ok (.ofBoolean (!v.boolean))
  | _ => .error (.invalid .notOfNonBoolean)

/-- A calculation by what it does in each domain. For strings it has a fault, and for numbers in
floating point a fault or a function. -/
def calculate (onString : InvalidOperation) (onFloat : Except InvalidOperation (Float → Float))
    (onInteger : Int64 → Int64) (onPair : Pair → Pair) (v : Value) :
    Except OperatorError Value :=
  match v.kind with
  | .pointer => .ok .null
  | .string => .error (.invalid onString)
  | .float =>
    match onFloat with
    | .ok f => .ok (.ofFloat (f v.float))
    | .error fault => .error (.invalid fault)
  | .integer => .ok (.ofInteger (onInteger v.integer))
  | .boolean => .ok (.ofBoolean (onInteger v.integer != 0))
  | .pair => .ok (.ofPair (onPair v.pair))

end UnaryOp

/-- Applies a unary operator. -/
def Value.unary (op : UnaryOp) (v : Value) : Except OperatorError Value :=
  if v.isNull then .error (.nullOperand op.symbol)
  else
    match op with
    | .identity => .ok v
    | .not => UnaryOp.invert v
    | .negate => UnaryOp.calculate .negateString (.ok (- ·)) (- ·) (- ·) v
    | .complement =>
      UnaryOp.calculate .complementString (.error .complementFloat) (~~~ ·) (~~~ ·) v
    | .increment => UnaryOp.calculate .incrementString (.ok (· + 1)) (· + 1) Pair.increment v
    | .decrement => UnaryOp.calculate .decrementString (.ok (· - 1)) (· - 1) Pair.decrement v

end ScriptValue
