import ScriptValue.Json.Basic
import ScriptValue.Json.Text

/-!
# Reading JSON

The strict grammar of JSON. Blanks are space, tab, line feed and carriage return. The reader
answers a tree for every text, with `broken` where the text stops being JSON; after a break
nothing more is read.
-/

namespace ScriptValue.Json

/-- The characters that may stand between tokens. -/
def isBlank (c : Char) : Bool :=
  c == ' ' || c == '\t' || c == '\n' || c == '\r'

def skipBlanks (s : List Char) : List Char :=
  s.dropWhile isBlank

/-! ## Numbers -/

/-- Digits that there must be at least one of, and the text after them. -/
def readDigits? (s : List Char) : Option (List Char × List Char) :=
  match s.takeWhile Char.isDigit with
  | [] => none
  | digits => some (digits, s.dropWhile Char.isDigit)

/-- The digits before the point. A zero stands alone. -/
def readWhole? (s : List Char) : Option (List Char × List Char) :=
  match readDigits? s with
  | some ('0' :: _ :: _, _) => none
  | result => result

/-- An optional point with digits after it. -/
def readFraction? : List Char → Option (Option (List Char) × List Char)
  | '.' :: cs => (readDigits? cs).map fun (digits, rest) => (some digits, rest)
  | s => some (none, s)

/-- An optional sign of an exponent: whether it was a minus, and the text after it. -/
def splitExponentSign : List Char → Bool × List Char
  | '-' :: cs => (true, cs)
  | '+' :: cs => (false, cs)
  | s => (false, s)

def readExponent? (s : List Char) : Option (Option Exponent × List Char) :=
  match s with
  | c :: cs =>
    if c = 'e' ∨ c = 'E' then
      let (negative, digits) := splitExponentSign cs
      (readDigits? digits).map fun (digits, rest) => (some ⟨negative, digits⟩, rest)
    else some (none, s)
  | [] => some (none, [])

/-- A number after its sign, and the text after it. -/
def readUnsigned? (negative : Bool) (s : List Char) : Option (Number × List Char) := do
  let (whole, s) ← readWhole? s
  let (fraction, s) ← readFraction? s
  let (exponent, s) ← readExponent? s
  return (⟨negative, whole, fraction, exponent⟩, s)

/-- A number and the text after it. -/
def readNumber? : List Char → Option (Number × List Char)
  | '-' :: cs => readUnsigned? true cs
  | s => readUnsigned? false s

/-! ## Values -/

mutual

/-- A value and the text after it. -/
def readValue : Nat → List Char → Json × List Char
  | 0, _ => (broken, [])
  | fuel + 1, s =>
    match skipBlanks s with
    | 'n' :: 'u' :: 'l' :: 'l' :: rest => (null, rest)
    | 't' :: 'r' :: 'u' :: 'e' :: rest => (boolean true, rest)
    | 'f' :: 'a' :: 'l' :: 's' :: 'e' :: rest => (boolean false, rest)
    | '"' :: cs =>
      match readString? cs with
      | some (text, rest) => (string text, rest)
      | none => (broken, [])
    | '[' :: cs =>
      match skipBlanks cs with
      | ']' :: rest => (array [], rest)
      | cs =>
        let (elements, rest) := readElements fuel cs
        (array elements, rest)
    | '\x7b' :: cs =>
      match skipBlanks cs with
      | '\x7d' :: rest => (object [], rest)
      | cs =>
        let (members, rest) := readMembers fuel cs
        (object members, rest)
    | cs =>
      match readNumber? cs with
      | some (n, rest) => (number n, rest)
      | none => (broken, [])

/-- The elements of an array that is not empty, and the text after its bracket. -/
def readElements : Nat → List Char → List Json × List Char
  | 0, _ => ([broken], [])
  | fuel + 1, s =>
    let (element, rest) := readValue fuel s
    match skipBlanks rest with
    | ',' :: cs =>
      let (elements, rest) := readElements fuel cs
      (element :: elements, rest)
    | ']' :: rest => ([element], rest)
    | _ => ([element, broken], [])

/-- The members of an object that is not empty, and the text after its brace. -/
def readMembers : Nat → List Char → List (Option String × Json) × List Char
  | 0, _ => ([(none, broken)], [])
  | fuel + 1, s =>
    match skipBlanks s with
    | '"' :: cs =>
      match readString? cs with
      | some (key, rest) =>
        match skipBlanks rest with
        | ':' :: cs =>
          let (value, rest) := readValue fuel cs
          match skipBlanks rest with
          | ',' :: cs =>
            let (members, rest) := readMembers fuel cs
            ((key, value) :: members, rest)
          | '\x7d' :: rest => ([(key, value)], rest)
          | _ => ([(key, value), (none, broken)], [])
        | _ => ([(none, broken)], [])
      | none => ([(none, broken)], [])
    | _ => ([(none, broken)], [])

end

/-! ## Documents -/

/-- A text read as JSON: its tree, and whether nothing but blanks follows it. -/
structure Document where
  root : Json
  complete : Bool

/-- Reads a text. Two nested steps of the reader take at least one character, so twice the length
is enough fuel. -/
def Document.read (text : String) : Document :=
  let s := text.toList
  let (root, rest) := readValue (2 * s.length + 2) s
  ⟨root, (skipBlanks rest).isEmpty⟩

end ScriptValue.Json
