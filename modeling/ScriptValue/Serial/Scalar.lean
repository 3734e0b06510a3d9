import ScriptValue.Json.Number
import ScriptValue.Kind
import ScriptValue.Operator.Basic
import ScriptValue.Serial.Basic
import ScriptValue.Value.Readings

/-!
# Single values as JSON

Texts, integers, truth values and numbers in floating point, and the names of kinds and
operators. JSON has no NaN and no infinity, so these numbers are written as strings.
-/

namespace ScriptValue.Json

/-! ## Writing -/

def ofInteger (i : Int64) : Json :=
  number (.ofInteger i)

/-- A number in floating point, as a string with its text if it is not finite. -/
def ofFloat (f : Float) : Json :=
  match Number.ofFloat? f with
  | some n => number n
  | none => ofString (floatString f)

def ofKind (k : Kind) : Json :=
  ofString k.name

/-! ## Reading -/

/-- A string that denotes a text. -/
def toText : Json → Decoded String
  | string (some s) => .ok s
  | _ => .error .malformed

/-- A number without fraction and exponent, in the range of 64 bits. -/
def toInteger : Json → Decoded Int64
  | number n => require n.integer?
  | _ => .error .malformed

/-- Any number that is not too large, or a string with a numeral, which may have blanks around
it. -/
def toFloat : Json → Decoded Float
  | number n => require n.float?
  | string (some s) =>
    match Binary64.read (Text.trim s.toList) with
    | .ok f => .ok f
    | .error _ => .error (.floatText s)
  | _ => .error .malformed

def toBoolean : Json → Decoded Bool
  | boolean b => .ok b
  | _ => .error .malformed

def toNull : Json → Decoded Unit
  | null => .ok ()
  | _ => .error .malformed

/-- A name out of a fixed set: a string, or an object whose one member has the name as its key
and null as its value. -/
def toName {α : Type} (ofName? : String → Option α) : Json → Decoded α
  | string (some name) => require (ofName? name)
  | object [(some name, null)] => require (ofName? name)
  | _ => .error .malformed

def toKind : Json → Decoded Kind :=
  toName Kind.ofName?

def toBinaryOp : Json → Decoded BinaryOp :=
  toName BinaryOp.ofName?

def toUnaryOp : Json → Decoded UnaryOp :=
  toName UnaryOp.ofName?

end ScriptValue.Json
