import ScriptValue.Operator.Error
import ScriptValue.Value.Basic

/-!
# Binary operators

The kinds of the two operands need not match. Each operator has a ladder of kinds, and the first
kind on it that either operand has governs: both operands are read in the domain of this kind. The
ladder is

* string, float, integer, boolean, pair for comparison and arithmetic,
* string, integer, boolean, float, pair for `&` and `|`.

Strings only compare and concatenate. A number in floating point is unfit for `&` and `|` on
whichever side it stands, also where another kind but string governs. Pointers are on neither
ladder, so two pointers have no governing kind, and the result is null. Null itself is never an
operand.
-/

namespace ScriptValue

/-! ## The governing kind -/

def arithmeticLadder : List Kind :=
  [.string, .float, .integer, .boolean, .pair]

def logicalLadder : List Kind :=
  [.string, .integer, .boolean, .float, .pair]

/-- The order in which an operator looks for the kinds of its operands. -/
def BinaryOp.ladder (op : BinaryOp) : List Kind :=
  if op.isLogical then logicalLadder else arithmeticLadder

/-- The first kind on a ladder that is one of two kinds. -/
def governing? (ladder : List Kind) (k l : Kind) : Option Kind :=
  ladder.find? fun g => k = g ∨ l = g

/-! ## Errors -/

namespace BinaryOp

/-- The error for an operand that the operator has no meaning for. -/
def reject {α : Type} (op : BinaryOp) (operand : Unfit) : Except OperatorError α :=
  .error (.invalid (.binary op operand))

def divideByZero {α : Type} (op : BinaryOp) : Except OperatorError α :=
  .error (.zeroDivisor op.symbol)

end BinaryOp

/-! ## Operations in one domain -/

/-- Ten times the distance from one to the next greater number in floating point. -/
def tolerance : Float :=
  Float.ofBits 0x3CE4000000000000

/-- Numbers in floating point count as equal if they differ by less than the tolerance. So NaN
and infinity are not equal to themselves. -/
def closeTo (x y : Float) : Bool :=
  (x - y).abs < tolerance

namespace BinaryOp

/-- Strings are compared and concatenated, and that is all. -/
def onStrings (op : BinaryOp) (v w : Value) : Except OperatorError Value :=
  match op with
  | equal => .ok (.ofBoolean (v.string == w.string))
  | add => .ok (.ofString (v.string ++ w.string))
  | _ => op.reject .string

/-- Arithmetic in floating point. A divisor of either sign of zero is an error. -/
def onFloats (op : BinaryOp) (v w : Value) : Except OperatorError Value :=
  let x := v.float
  let y := w.float
  match op with
  | equal => .ok (.ofBoolean (closeTo x y))
  | add => .ok (.ofFloat (x + y))
  | sub => .ok (.ofFloat (x - y))
  | mul => .ok (.ofFloat (x * y))
  | div => if y == 0 then op.divideByZero else .ok (.ofFloat (x / y))
  | rem => if y == 0 then op.divideByZero else .ok (.ofFloat (Binary64.remainder x y))
  | pow => .ok (.ofFloat (Float.pow x y))
  | notEqual | bitAnd | bitOr => op.reject .float

/-- Integer arithmetic, which wraps around. A power goes through floating point, and a comparison
gives one or zero. -/
def integerArithmetic (op : BinaryOp) (v w : Value) : Except OperatorError Int64 :=
  let x := v.integer
  let y := w.integer
  match op with
  | add => .ok (x + y)
  | sub => .ok (x - y)
  | mul => .ok (x * y)
  | div => if y = 0 then op.divideByZero else .ok (x / y)
  | rem => if y = 0 then op.divideByZero else .ok (x % y)
  | pow => .ok (Binary64.integerPower v.float w.float)
  | bitAnd => .ok (x &&& y)
  | bitOr => .ok (x ||| y)
  | equal | notEqual => .ok (if x = y then 1 else 0)

/-- Integers are compared, and calculated with otherwise. -/
def onIntegers (op : BinaryOp) (v w : Value) : Except OperatorError Value :=
  if op = equal then .ok (.ofBoolean (v.integer == w.integer))
  else (op.integerArithmetic v w).map .ofInteger

/-- Truth values are compared and know `&` and `|`. In arithmetic they count as one and zero, and
a result other than zero is true. -/
def onBooleans (op : BinaryOp) (v w : Value) : Except OperatorError Value :=
  match op with
  | equal => .ok (.ofBoolean (v.boolean == w.boolean))
  | bitAnd => .ok (.ofBoolean (v.boolean && w.boolean))
  | bitOr => .ok (.ofBoolean (v.boolean || w.boolean))
  | _ => (op.integerArithmetic v w).map fun n => .ofBoolean (n != 0)

/-- Pairs are compared, and calculated with componentwise. A divisor with a zero is an error. -/
def onPairs (op : BinaryOp) (v w : Value) : Except OperatorError Value :=
  let p := v.pair
  let q := w.pair
  match op with
  | equal | notEqual => .ok (.ofBoolean (p == q))
  | add => .ok (.ofPair (p + q))
  | sub => .ok (.ofPair (p - q))
  | mul => .ok (.ofPair (p * q))
  | div => (p.div q).map .ofPair
  | rem => (p.rem q).map .ofPair
  | pow => .ok (.ofPair (p.pow q))
  | bitAnd => .ok (.ofPair (p &&& q))
  | bitOr => .ok (.ofPair (p ||| q))

/-! ## Application -/

/-- Whether the operator refuses operands of two kinds because one is in floating point. -/
def refusesFloat (op : BinaryOp) (governing k l : Kind) : Bool :=
  op.isLogical && governing ≠ .string && (k = .float || l = .float)

/-- The result of an operator in the domain of the governing kind. -/
def inDomain (op : BinaryOp) (governing : Kind) (v w : Value) : Except OperatorError Value :=
  match governing with
  | .string => op.onStrings v w
  | .float => op.onFloats v w
  | .integer => op.onIntegers v w
  | .boolean => op.onBooleans v w
  | .pair => op.onPairs v w
  | .pointer => .ok .null

/-- The result of an operator other than `!=` on two operands that are not null. -/
def dispatch (op : BinaryOp) (v w : Value) : Except OperatorError Value :=
  match governing? op.ladder v.kind w.kind with
  | none => .ok .null
  | some governing =>
    if op.refusesFloat governing v.kind w.kind then op.reject .float
    else op.inDomain governing v w

end BinaryOp

/-- Applies a binary operator. The operator `!=` compares with `==` and negates the result, if it
is not null. -/
def Value.binary (op : BinaryOp) (v w : Value) : Except OperatorError Value :=
  if v.isNull || w.isNull then .error (.nullOperand op.symbol)
  else if op = .notEqual then do
    let equal ← BinaryOp.dispatch .equal v w
    if equal.isNull then return equal else return .ofBoolean (!equal.boolean)
  else op.dispatch v w

end ScriptValue
