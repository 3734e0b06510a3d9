import ScriptValue.Value.Source

/-!
# Script values

A value carries its kind and five readings, and a mark that tells null from the other values.
Writing a source over a value makes the kind and all five readings anew, so that any of them can
be read whatever the kind is. All values are made by writing over null.
-/

namespace ScriptValue

/-- A script value: whether it is null, its kind and its five readings. -/
structure Value extends Readings where
  isNull : Bool
  kind : Kind
deriving DecidableEq

namespace Value

/-- Null. It counts as a string, and reads as the empty text, zero, NaN, false and the pair of
zeros. -/
def null : Value where
  isNull := true
  kind := .string
  string := ""
  integer := 0
  float := Binary64.nan
  boolean := false
  pair := .zero

instance : Inhabited Value := ⟨null⟩

/-! ## Writing -/

/-- Writes a text, which is a string or the name that a pointer refers to. -/
def setText (v : Value) (text : String) (kind : Kind) : Value :=
  { v with
    isNull := false
    kind := kind
    integer := integerReading text
    float := floatReading text
    boolean := booleanReading text
    pair := pairReading text
    string := text }

def setString (v : Value) (text : String) : Value :=
  v.setText text .string

def setPointer (v : Value) (name : String) : Value :=
  v.setText name .pointer

def setInteger (v : Value) (i : Int64) : Value :=
  { v with
    isNull := false
    kind := .integer
    integer := i
    string := integerString i
    float := Binary64.ofInteger i
    boolean := i != 0
    pair := ⟨i, 0⟩ }

/-- Writes a number in floating point. It reads as an integer by its integer part. -/
def setFloat (v : Value) (f : Float) : Value :=
  let whole := Binary64.truncate f
  { v with
    isNull := false
    kind := .float
    float := f
    integer := whole
    boolean := whole != 0
    string := floatString f
    pair := ⟨whole, 0⟩ }

/-- Writes a boolean, which reads as one or zero. -/
def setBoolean (v : Value) (b : Bool) : Value :=
  let number : Int64 := if b then 1 else 0
  { v with
    isNull := false
    kind := .boolean
    boolean := b
    string := booleanString b
    integer := number
    float := Binary64.ofInteger number
    pair := ⟨number, 0⟩ }

/-- Writes a pair, which reads as a number by its first component. -/
def setPair (v : Value) (p : Pair) : Value :=
  { v with
    isNull := false
    kind := .pair
    pair := p
    integer := p.x
    float := Binary64.ofInteger p.x
    boolean := p.x != 0
    string := pairString p }

def write (v : Value) : Source → Value
  | .string text => v.setString text
  | .pointer name => v.setPointer name
  | .integer i => v.setInteger i
  | .float f => v.setFloat f
  | .boolean b => v.setBoolean b
  | .pair p => v.setPair p

/-- Makes all readings anew from the one that the kind picks out. Null stays as it is. -/
def refresh (v : Value) : Value :=
  if v.isNull then v
  else
    match v.kind with
    | .string | .pointer => v.setText v.string v.kind
    | .integer => v.setInteger v.integer
    | .float => v.setFloat v.float
    | .boolean => v.setBoolean v.boolean
    | .pair => v.setPair v.pair

/-! ## Making values -/

def ofString (text : String) : Value := null.setString text
def ofPointer (name : String) : Value := null.setPointer name
def ofInteger (i : Int64) : Value := null.setInteger i
def ofFloat (f : Float) : Value := null.setFloat f
def ofBoolean (b : Bool) : Value := null.setBoolean b
def ofPair (p : Pair) : Value := null.setPair p

def ofSource : Source → Value
  | .string text => ofString text
  | .pointer name => ofPointer name
  | .integer i => ofInteger i
  | .float f => ofFloat f
  | .boolean b => ofBoolean b
  | .pair p => ofPair p

/-- The value of a literal, which is a source or null. -/
def ofLiteral : Option Source → Value
  | none => null
  | some s => ofSource s

/-! ## Looking at values -/

/-- The literal of a value: the source it was written from, or nothing for null. -/
def literal (v : Value) : Option Source :=
  if v.isNull then none else some (.ofReadings v.kind v.toReadings)

def pointerName? (v : Value) : Option String :=
  if v.kind = .pointer ∧ ¬v.isNull then some v.string else none

/-- Equality of representations: both null, or the same kind and the same source. It is not the
operator `==` of scripts, which compares across kinds. -/
def same (v w : Value) : Bool :=
  if v.isNull || w.isNull then v.isNull == w.isNull
  else
    v.kind == w.kind &&
      match v.kind with
      | .string | .pointer => v.string == w.string
      | .integer => v.integer == w.integer
      | .float => v.float == w.float
      | .boolean => v.boolean == w.boolean
      | .pair => v.pair == w.pair

/-! ## Laws of writing -/

theorem ofSource_eq_write (s : Source) : ofSource s = null.write s := by
  cases s <;> rfl

@[simp]
theorem isNull_ofSource (s : Source) : (ofSource s).isNull = false := by
  cases s <;> rfl

@[simp]
theorem kind_ofSource (s : Source) : (ofSource s).kind = s.kind := by
  cases s <;> rfl

/-- Nothing of the former value is left after a source is written over it. -/
theorem write_eq_ofSource (v : Value) (s : Source) : v.write s = ofSource s := by
  cases s <;> rfl

theorem refresh_of_isNull {v : Value} (h : v.isNull = true) : v.refresh = v := by
  simp [refresh, h]

/-- Refreshing a value that is not null writes its source over it. -/
theorem refresh_of_live {v : Value} (h : v.isNull = false) :
    v.refresh = v.write (.ofReadings v.kind v.toReadings) := by
  unfold refresh Source.ofReadings write
  cases hk : v.kind <;> simp [h, setString, setPointer]

@[simp]
theorem literal_null : null.literal = none := rfl

/-- The literal is the source just written, whatever the value was before. -/
@[simp]
theorem literal_write (v : Value) (s : Source) : (v.write s).literal = some s := by
  cases s <;> rfl

@[simp]
theorem literal_ofSource (s : Source) : (ofSource s).literal = some s := by
  rw [ofSource_eq_write, literal_write]

@[simp]
theorem literal_ofLiteral (l : Option Source) : (ofLiteral l).literal = l := by
  cases l <;> simp [ofLiteral]

end Value

/-! ## Snapshots -/

/-- All fields of a value at one time. A snapshot is data: its readings need not belong together. -/
structure Snapshot where
  isNull : Bool
  kind : Kind
  readings : Readings
deriving DecidableEq

def Value.snapshot (v : Value) : Snapshot :=
  ⟨v.isNull, v.kind, v.toReadings⟩

end ScriptValue
