import ScriptValue.Value.Basic

/-!
# Operands on the command line

An operand is `null`, or a text whose part before the first colon says what kind of literal
follows: `str`, `ptr`, `int`, `float`, `bool` or `pair`. A text without a colon, or with another
word before it, is a string as a whole. The bodies of `int`, `float`, `bool` and `pair` may have
blanks around them.
-/

namespace ScriptValue

/-- Why an operand is refused. The body is the text after the colon. -/
inductive OperandError where
  | integer (body : String) (fault : Numeral.IntegerFault)
  | float (body : String) (fault : Binary64.ReadFault)
  | boolean (body : String)
  | pair (body : String) (fault : Pair.Malformed)
deriving DecidableEq

namespace OperandError

def message : OperandError → String
  | integer body _ => "Invalid integer literal: '" ++ body ++ "'"
  | float body _ => "Invalid float literal: '" ++ body ++ "'"
  | boolean body => "Invalid boolean literal: '" ++ body ++ "'. Expected true or false"
  | pair body _ => "Invalid ordered pair literal: '" ++ body ++ "'"

def cause? : OperandError → Option String
  | integer _ fault => some fault.message
  | float _ fault => some fault.message
  | boolean _ => none
  | pair _ fault => some fault.message

end OperandError

namespace Operand

/-- The kinds of literals. -/
inductive Tag where
  | string
  | pointer
  | integer
  | float
  | boolean
  | pair
deriving DecidableEq

/-- The word before the colon. -/
def Tag.word : Tag → List Char
  | string => ['s', 't', 'r']
  | pointer => ['p', 't', 'r']
  | integer => ['i', 'n', 't']
  | float => ['f', 'l', 'o', 'a', 't']
  | boolean => ['b', 'o', 'o', 'l']
  | pair => ['p', 'a', 'i', 'r']

def Tag.all : List Tag :=
  [string, pointer, integer, float, boolean, pair]

/-- The tag before the first colon, if it is one, and the text after the colon. -/
def split? (s : List Char) : Option (Tag × List Char) :=
  match s.dropWhile (· ≠ ':') with
  | _ :: body =>
    (Tag.all.find? (·.word = s.takeWhile (· ≠ ':'))).map fun tag => (tag, body)
  | [] => none

def readBody (tag : Tag) (s : List Char) : Except OperandError Source :=
  let body := String.ofList s
  match tag with
  | .string => .ok (.string body)
  | .pointer => .ok (.pointer body)
  | .integer =>
    match Numeral.readInteger (Text.trim s) with
    | .ok i => .ok (.integer i)
    | .error fault => .error (.integer body fault)
  | .float =>
    match Binary64.read (Text.trim s) with
    | .ok f => .ok (.float f)
    | .error fault => .error (.float body fault)
  | .boolean =>
    match readBoolean? (Text.trim s) with
    | some b => .ok (.boolean b)
    | none => .error (.boolean body)
  | .pair =>
    match Pair.read body with
    | .ok p => .ok (.pair p)
    | .error fault => .error (.pair body fault)

def read (text : String) : Except OperandError Value :=
  if text = "null" then .ok .null
  else
    match split? text.toList with
    | some (tag, body) => (readBody tag body).map .ofSource
    | none => .ok (.ofString text)

end Operand

end ScriptValue
