import ScriptValue.Serial.Pair
import ScriptValue.Value.Basic

/-!
# Snapshots as JSON

A snapshot is written as an object with all seven fields. It is read from such an object, or from
an array of the fields in the same order. Nothing is recomputed.
-/

namespace ScriptValue.Json

/-! ## Writing -/

def ofSnapshot (s : Snapshot) : Json :=
  ofMembers
    [("is_null", boolean s.isNull),
     ("kind", ofKind s.kind),
     ("string", ofString s.readings.string),
     ("integer", ofInteger s.readings.integer),
     ("float", ofFloat s.readings.float),
     ("boolean", boolean s.readings.boolean),
     ("pair", ofPair s.readings.pair)]

/-! ## Reading -/

/-- The fields of a snapshot as far as they are known. -/
structure SnapshotFields where
  isNull : Option Bool := none
  kind : Option Kind := none
  string : Option String := none
  integer : Option Int64 := none
  float : Option Float := none
  boolean : Option Bool := none
  pair : Option Pair := none

/-- Takes in one member of a snapshot. -/
def SnapshotFields.step (fields : SnapshotFields) (key : String) (value : Json) :
    Decoded SnapshotFields :=
  match key with
  | "is_null" => do return { fields with isNull := ← fill fields.isNull value.toBoolean }
  | "kind" => do return { fields with kind := ← fill fields.kind value.toKind }
  | "string" => do return { fields with string := ← fill fields.string value.toText }
  | "integer" => do return { fields with integer := ← fill fields.integer value.toInteger }
  | "float" => do return { fields with float := ← fill fields.float value.toFloat }
  | "boolean" => do return { fields with boolean := ← fill fields.boolean value.toBoolean }
  | "pair" => do return { fields with pair := ← fill fields.pair value.toPair }
  | _ => skip value fields

/-- The snapshot, if all fields are known. -/
def SnapshotFields.toSnapshot? (fields : SnapshotFields) : Option Snapshot := do
  let isNull ← fields.isNull
  let kind ← fields.kind
  let readings : Readings :=
    ⟨← fields.string, ← fields.integer, ← fields.float, ← fields.boolean, ← fields.pair⟩
  return ⟨isNull, kind, readings⟩

/-- A snapshot: an object with seven members, or an array of their values in the order in which
they are written. Nothing is recomputed. -/
def toSnapshot : Json → Decoded Snapshot
  | object members => do
    let fields ← walk SnapshotFields.step {} members
    require fields.toSnapshot?
  | array elements => do
    let keys := ["is_null", "kind", "string", "integer", "float", "boolean", "pair"]
    let fields ← walk SnapshotFields.step {} ((keys.map some).zip elements)
    if elements.length = keys.length then require fields.toSnapshot? else throw .malformed
  | _ => .error .malformed

end ScriptValue.Json
