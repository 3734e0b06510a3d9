import ScriptValue.Serial.Pair
import ScriptValue.Value.Basic

/-!
# Values as JSON

A value is written as its literal: an object with the name of the kind and the source,
`{"kind":"integer","value":7}`, and null as `{"kind":"null"}`. It is read from such an object, or
from an array of kind and source. A source that stands before its kind is kept until the kind is
known, and what is kept has to meet some more conditions (`isKeepable`).
-/

namespace ScriptValue.Json

/-! ## Writing -/

/-- What a value was written from, without its kind. -/
def ofContent : Source → Json
  | .string s => ofString s
  | .pointer s => ofString s
  | .integer i => ofInteger i
  | .float f => ofFloat f
  | .boolean b => boolean b
  | .pair p => ofPair p

def nullName : String := "null"

/-- A literal: a source with its kind, or null. -/
def ofLiteral : Option Source → Json
  | none => ofMembers [("kind", ofString nullName)]
  | some s => ofMembers [("kind", ofKind s.kind), ("value", ofContent s)]

def ofValue (v : Value) : Json :=
  ofLiteral v.literal

/-! ## Reading -/

/-- The kind that a name says, where null counts as one. -/
def literalKind? (name : String) : Option (Option Kind) :=
  if name = nullName then some none else (Kind.ofName? name).map some

/-- The source of a kind. Null has the value null. -/
def toContent (kind : Option Kind) (value : Json) : Decoded (Option Source) :=
  match kind with
  | none => value.toNull.map fun _ => none
  | some .string => value.toText.map (some ∘ .string)
  | some .pointer => value.toText.map (some ∘ .pointer)
  | some .integer => value.toInteger.map (some ∘ .integer)
  | some .float => value.toFloat.map (some ∘ .float)
  | some .boolean => value.toBoolean.map (some ∘ .boolean)
  | some .pair => value.toPair.map (some ∘ .pair)

mutual

/-- A tree that can be kept until its kind is known: all its strings denote texts, no number in
it is too large, and its arrays and objects are nested less than `depth` deep. -/
def isKeepable (depth : Nat) : Json → Bool
  | array elements => 2 ≤ depth && allKeepable (depth - 1) elements
  | object members => 2 ≤ depth && allMembersKeepable (depth - 1) members
  | number n => n.float?.isSome
  | string text => text.isSome
  | broken => false
  | _ => true

def allKeepable (depth : Nat) : List Json → Bool
  | [] => true
  | element :: elements => isKeepable depth element && allKeepable depth elements

def allMembersKeepable (depth : Nat) : List (Option String × Json) → Bool
  | [] => true
  | (key, value) :: members =>
    key.isSome && isKeepable depth value && allMembersKeepable depth members

end

/-- The depth of nesting that a value may have inside of a literal. -/
def depthLimit : Nat := 127

inductive LiteralFields where
  | nothing
  | tagged (kind : Option Kind)
  | kept (value : Json)
  | complete (literal : Option Source)

/-- Takes in one member of a literal. A value that comes before its kind is kept. -/
def LiteralFields.step (fields : LiteralFields) (key : String) (value : Json) :
    Decoded LiteralFields :=
  match key, fields with
  | "kind", nothing => (value.toName literalKind?).map tagged
  | "kind", kept content => do
    let kind ← value.toName literalKind?
    complete <$> toContent kind content
  | "value", nothing => if value.isKeepable depthLimit then .ok (kept value) else .error .malformed
  | "value", tagged kind => complete <$> toContent kind value
  | "kind", _ => .error .malformed
  | "value", _ => .error .malformed
  | _, _ => skip value fields

/-- The literal, if it is complete. Null needs no value. -/
def LiteralFields.toLiteral? : LiteralFields → Option (Option Source)
  | complete literal => some literal
  | tagged none => some none
  | _ => none

/-- A literal: an object with `kind` and `value`, or an array of both, where the kind is a
string. -/
def toLiteral : Json → Decoded (Option Source)
  | object members => do
    let fields ← walk LiteralFields.step .nothing members
    require fields.toLiteral?
  | array (kind :: value :: rest) => do
    let kind ← require (literalKind? (← kind.toText))
    let literal ← toContent kind value
    if rest.isEmpty then return literal else throw .malformed
  | _ => .error .malformed

def toValue (j : Json) : Decoded Value :=
  j.toLiteral.map .ofLiteral

end ScriptValue.Json
