/-!
# Operators

The ten binary and six unary operators of scripts, with the symbols that scripts use and the
names that data uses.
-/

namespace ScriptValue

/-! ## Binary operators -/

inductive BinaryOp where
  | equal
  | notEqual
  | add
  | sub
  | mul
  | div
  | rem
  | pow
  | bitAnd
  | bitOr
deriving DecidableEq

namespace BinaryOp

def all : List BinaryOp :=
  [equal, notEqual, add, sub, mul, div, rem, pow, bitAnd, bitOr]

/-- The symbol in scripts. -/
def symbol : BinaryOp → String
  | equal => "=="
  | notEqual => "!="
  | add => "+"
  | sub => "-"
  | mul => "*"
  | div => "/"
  | rem => "%"
  | pow => "^"
  | bitAnd => "&"
  | bitOr => "|"

/-- The name in data. -/
def name : BinaryOp → String
  | equal => "equal"
  | notEqual => "not_equal"
  | add => "add"
  | sub => "sub"
  | mul => "mul"
  | div => "div"
  | rem => "rem"
  | pow => "pow"
  | bitAnd => "bit_and"
  | bitOr => "bit_or"

/-- The operators on bits and truth values. -/
def isLogical : BinaryOp → Bool
  | bitAnd | bitOr => true
  | _ => false

def ofSymbol? (symbol : String) : Option BinaryOp :=
  all.find? (·.symbol = symbol)

def ofName? (name : String) : Option BinaryOp :=
  all.find? (·.name = name)

theorem ofSymbol?_symbol (op : BinaryOp) : ofSymbol? op.symbol = some op := by
  cases op <;> decide

theorem ofName?_name (op : BinaryOp) : ofName? op.name = some op := by
  cases op <;> decide

end BinaryOp

/-! ## Unary operators -/

inductive UnaryOp where
  | identity
  | negate
  | complement
  | not
  | increment
  | decrement
deriving DecidableEq

namespace UnaryOp

def all : List UnaryOp :=
  [identity, negate, complement, not, increment, decrement]

/-- The symbol in scripts. -/
def symbol : UnaryOp → String
  | identity => "+"
  | negate => "-"
  | complement => "~"
  | not => "!"
  | increment => "++"
  | decrement => "--"

/-- The name in data. -/
def name : UnaryOp → String
  | identity => "identity"
  | negate => "negate"
  | complement => "complement"
  | not => "not"
  | increment => "increment"
  | decrement => "decrement"

def ofSymbol? (symbol : String) : Option UnaryOp :=
  all.find? (·.symbol = symbol)

def ofName? (name : String) : Option UnaryOp :=
  all.find? (·.name = name)

theorem ofSymbol?_symbol (op : UnaryOp) : ofSymbol? op.symbol = some op := by
  cases op <;> decide

theorem ofName?_name (op : UnaryOp) : ofName? op.name = some op := by
  cases op <;> decide

end UnaryOp

end ScriptValue
