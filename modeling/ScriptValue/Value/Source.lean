import ScriptValue.Kind
import ScriptValue.Value.Readings

/-!
# Sources

What a value is written from: a text, a pointer to a name, an integer, a number in floating point,
a boolean or a pair. A source has a kind, and a kind picks a source out of five readings.
-/

namespace ScriptValue

/-- What a value is written from. -/
inductive Source where
  | string (text : String)
  | pointer (name : String)
  | integer (i : Int64)
  | float (f : Float)
  | boolean (b : Bool)
  | pair (p : Pair)
deriving DecidableEq

namespace Source

def kind : Source → Kind
  | string _ => .string
  | pointer _ => .pointer
  | integer _ => .integer
  | float _ => .float
  | boolean _ => .boolean
  | pair _ => .pair

/-- The source that a kind picks out of five readings. -/
def ofReadings (kind : Kind) (r : Readings) : Source :=
  match kind with
  | .string => .string r.string
  | .pointer => .pointer r.string
  | .integer => .integer r.integer
  | .float => .float r.float
  | .boolean => .boolean r.boolean
  | .pair => .pair r.pair

/-- Equality of sources, where numbers are compared as numbers: NaN differs from itself, and the
two zeros are equal. -/
def same : Source → Source → Bool
  | string s, string t => s == t
  | pointer s, pointer t => s == t
  | integer i, integer j => i == j
  | float f, float g => f == g
  | boolean b, boolean c => b == c
  | pair p, pair q => p == q
  | _, _ => false

end Source

end ScriptValue
