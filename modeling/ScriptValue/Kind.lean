/-!
# Kinds

The kind of a value says which of its readings was written. Operators look at the kinds of their
operands to choose the reading that they work on.
-/

namespace ScriptValue

/-- What a value was written as. A pointer is a text that names another value. -/
inductive Kind where
  | string
  | integer
  | float
  | boolean
  | pair
  | pointer
deriving DecidableEq

namespace Kind

def all : List Kind :=
  [.string, .integer, .float, .boolean, .pair, .pointer]

def name : Kind → String
  | .string => "string"
  | .integer => "integer"
  | .float => "float"
  | .boolean => "boolean"
  | .pair => "ordered_pair"
  | .pointer => "pointer"

def ofName? (name : String) : Option Kind :=
  all.find? (·.name = name)

theorem ofName?_name (k : Kind) : ofName? k.name = some k := by
  cases k <;> decide

end Kind

end ScriptValue
