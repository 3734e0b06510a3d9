/-!
# JSON documents

A JSON document as a tree. Members of an object keep their order and may repeat, numbers keep
their digits, and a string may be one that denotes no text, because an escape in it names half of
a surrogate pair. A document is read as far as it is JSON: where the text stops being JSON, the
tree has the node `broken`, and what precedes it can still be looked at.
-/

namespace ScriptValue

structure Json.Exponent where
  negative : Bool
  digits : List Char
deriving DecidableEq

/-- A number by its digits: before the point, after the point and in the exponent. -/
structure Json.Number where
  negative : Bool
  whole : List Char
  fraction : Option (List Char)
  exponent : Option Json.Exponent
deriving DecidableEq

/-- A JSON tree. A string or key is `none` if it denotes no text. -/
inductive Json where
  | null
  | boolean (b : Bool)
  | number (n : Json.Number)
  | string (text : Option String)
  | array (elements : List Json)
  | object (members : List (Option String × Json))
  | broken

namespace Json

/-- An object whose keys are texts. -/
def ofMembers (members : List (String × Json)) : Json :=
  object (members.map fun (key, value) => (some key, value))

def ofString (s : String) : Json :=
  string (some s)

/-! ## Soundness -/

mutual

/-- A tree without a break. Its strings need not denote texts and its numbers may be out of any
range. -/
def isSound : Json → Bool
  | array elements => allSound elements
  | object members => allMembersSound members
  | broken => false
  | _ => true

def allSound : List Json → Bool
  | [] => true
  | element :: elements => isSound element && allSound elements

def allMembersSound : List (Option String × Json) → Bool
  | [] => true
  | (_, value) :: members => isSound value && allMembersSound members

end

end Json

end ScriptValue
