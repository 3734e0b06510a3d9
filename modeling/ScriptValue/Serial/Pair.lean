import ScriptValue.Serial.Scalar

/-!
# Pairs as JSON

A pair is written as an object with the members `x` and `y`. It is read from such an object, or
from an array of its components.
-/

namespace ScriptValue.Json

/-! ## Writing -/

def ofPair (p : Pair) : Json :=
  ofMembers [("x", ofInteger p.x), ("y", ofInteger p.y)]

/-! ## Reading -/

/-- The fields of a pair as far as they are known. -/
structure PairFields where
  x : Option Int64 := none
  y : Option Int64 := none

/-- Takes in one member of a pair. -/
def PairFields.step (fields : PairFields) (key : String) (value : Json) : Decoded PairFields :=
  match key with
  | "x" => do return { fields with x := ← fill fields.x value.toInteger }
  | "y" => do return { fields with y := ← fill fields.y value.toInteger }
  | _ => skip value fields

/-- The pair, if both fields are known. -/
def PairFields.toPair? (fields : PairFields) : Option Pair := do
  return ⟨← fields.x, ← fields.y⟩

/-- A pair: an object with `x` and `y`, or an array of both. -/
def toPair : Json → Decoded Pair
  | object members => do
    let fields ← walk PairFields.step {} members
    require fields.toPair?
  | array (x :: y :: rest) => do
    let x ← x.toInteger
    let y ← y.toInteger
    if rest.isEmpty then return ⟨x, y⟩ else throw .malformed
  | _ => .error .malformed

end ScriptValue.Json
