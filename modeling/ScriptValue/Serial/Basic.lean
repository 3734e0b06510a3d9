import ScriptValue.Json.Reader
import ScriptValue.Text.Quoted

/-!
# Reading values from documents

A value is read from the tree of a document. A tree is looked at in the order of the text, so of
two faults the first one counts, and a break of the JSON counts where it stands. Objects may have
their members in any order, and members of other names are skipped, but no known member may come
twice.
-/

namespace ScriptValue

/-- Why a document is refused. A string that should be a number in floating point is told apart
from all other faults. -/
inductive DecodeError where
  | malformed
  | floatText (text : String)
deriving DecidableEq

/-- The wording of an error, for the errors that have a wording of this library. -/
def DecodeError.message? : DecodeError → Option String
  | malformed => none
  | floatText text => some ("invalid float literal: " ++ Text.quoted text)

namespace Json

abbrev Decoded (α : Type) := Except DecodeError α

/-- A value that may be missing for a fault. -/
def require {α : Type} : Option α → Decoded α
  | some a => .ok a
  | none => .error .malformed

/-! ## Members -/

/-- Fills the field of a known member. A member that came before is a fault, whatever its value. -/
def fill {α : Type} (field : Option α) (value : Decoded α) : Decoded (Option α) :=
  match field with
  | some _ => .error .malformed
  | none => value.map some

/-- Skips a member of another name. Its value may be any JSON. -/
def skip {α : Type} (value : Json) (state : α) : Decoded α :=
  if value.isSound then .ok state else .error .malformed

/-- Goes through the members of an object in their order. A key that denotes no text is a
fault. -/
def walk {α : Type} (step : α → String → Json → Decoded α) :
    α → List (Option String × Json) → Decoded α
  | state, [] => .ok state
  | _, (none, _) :: _ => .error .malformed
  | state, (some key, value) :: members => do
    let state ← step state key value
    walk step state members

end Json

/-! ## Documents -/

/-- Reads a text as a JSON document and looks at its tree. Text after the document is a fault,
but one that comes last. -/
def decode {α : Type} (decoder : Json → Json.Decoded α) (text : String) : Json.Decoded α := do
  let document := Json.Document.read text
  let result ← decoder document.root
  if document.complete then return result else throw .malformed

end ScriptValue

