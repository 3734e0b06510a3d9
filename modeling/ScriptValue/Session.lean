import ScriptValue.Json.Printer
import ScriptValue.Operator.Binary
import ScriptValue.Operator.Unary
import ScriptValue.Serial.Literal

/-!
# Sessions

A session works on numbered slots, each with a value, which are all null at the start. A command
writes one slot or compares two. A command that fails leaves the slots as they are, and the
session goes on.
-/

namespace ScriptValue

abbrev Slot := Nat

abbrev Store := Slot → Value

namespace Store

def empty : Store :=
  fun _ => .null

def set (store : Store) (s : Slot) (v : Value) : Store :=
  fun t => if t = s then v else store t

@[simp]
theorem set_same (store : Store) (s : Slot) (v : Value) : store.set s v s = v := by
  simp [set]

@[simp]
theorem set_of_ne (store : Store) {s t : Slot} (v : Value) (h : t ≠ s) :
    store.set s v t = store t := by
  simp [set, h]

end Store

/-! ## Commands -/

/-- What can be put into a slot. -/
inductive Change where
  /-- The value that it has. -/
  | keep
  /-- Null. -/
  | clear
  /-- Its value with readings made anew. -/
  | refresh
  /-- The value of a literal. -/
  | make (literal : Option Source)
  /-- Its value written as a document and read back. -/
  | reload (layout : Json.Layout)
  /-- The value that a document holds. -/
  | load (document : String)
  /-- Its value with a source written over it. -/
  | write (source : Source)
  /-- The value of another slot. -/
  | copy (a : Slot)
  /-- Its value with the reading of another slot that a kind picks out written over it. -/
  | project (a : Slot) (kind : Kind)
  /-- The result of a binary operator on two slots. -/
  | binary (symbol : String) (a b : Slot)
  /-- The result of a unary operator on a slot. -/
  | unary (symbol : String) (a : Slot)
deriving DecidableEq

/-- A command: to change a slot, or to compare two slots as representations. -/
inductive Command where
  | put (s : Slot) (change : Change)
  | same (a b : Slot)
deriving DecidableEq

inductive SessionError where
  | operator (e : OperatorError)
  | document (e : DecodeError)
deriving DecidableEq

/-- The answer to a command: the value of the slot after it, or whether two slots are the same. -/
inductive Answer where
  | value (v : Value)
  | same (b : Bool)
  | error (e : SessionError)
deriving DecidableEq

/-! ## Execution -/

/-- The value that a change puts into the slot `s`. -/
def Change.result (store : Store) (s : Slot) : Change → Except SessionError Value
  | keep => .ok (store s)
  | clear => .ok .null
  | refresh => .ok (store s).refresh
  | make literal => .ok (.ofLiteral literal)
  | reload layout =>
    (decode Json.toValue ((Json.ofValue (store s)).render layout)).mapError .document
  | load document => (decode Json.toValue document).mapError .document
  | write source => .ok ((store s).write source)
  | copy a => .ok (store a)
  | project a kind => .ok ((store s).write (.ofReadings kind (store a).toReadings))
  | binary symbol a b => do
    let op ← (BinaryOp.ofSymbol symbol).mapError .operator
    (Value.binary op (store a) (store b)).mapError .operator
  | unary symbol a => do
    let op ← (UnaryOp.ofSymbol symbol).mapError .operator
    (Value.unary op (store a)).mapError .operator

/-- The slots after a command, and its answer. -/
def Command.step (store : Store) : Command → Store × Answer
  | put s change =>
    match change.result store s with
    | .ok v => (store.set s v, .value v)
    | .error e => (store, .error e)
  | same a b => (store, .same ((store a).same (store b)))

/-- The slots after commands, one after the other. -/
def Store.after (store : Store) : List Command → Store
  | [] => store
  | c :: cs => Store.after (c.step store).1 cs

/-- The answers to commands, one after the other. -/
def Store.answers (store : Store) : List Command → List Answer
  | [] => []
  | c :: cs => (c.step store).2 :: Store.answers (c.step store).1 cs

end ScriptValue
