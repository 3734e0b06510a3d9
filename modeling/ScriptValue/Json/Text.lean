/-!
# JSON strings

The text between the quotes of a JSON string. Writing escapes the quote, the backslash and the
characters below the space, and nothing else. Reading knows all escapes of JSON; an escape of
four hexadecimal digits gives a unit of UTF-16, and two of them in a row may form one character.
-/

namespace ScriptValue.Json

/-! ## Writing -/

def escapedChar (c : Char) : List Char :=
  match c with
  | '"' => ['\\', '"']
  | '\\' => ['\\', '\\']
  | '\x08' => ['\\', 'b']
  | '\x0c' => ['\\', 'f']
  | '\n' => ['\\', 'n']
  | '\r' => ['\\', 'r']
  | '\t' => ['\\', 't']
  | c =>
    if c.toNat < 0x20 then
      ['\\', 'u', '0', '0', Nat.digitChar (c.toNat / 16), Nat.digitChar (c.toNat % 16)]
    else [c]

/-- A string in quotes. One that denotes no text is written as half a surrogate pair. -/
def stringText : Option String → List Char
  | some s => '"' :: (s.toList.flatMap escapedChar ++ ['"'])
  | none => ['"', '\\', 'u', 'd', '8', '0', '0', '"']

/-! ## Reading -/

/-- A piece of a string: a character, or a unit of UTF-16 that is half of a surrogate pair. -/
inductive Piece where
  | char (c : Char)
  | half (unit : Nat)
deriving DecidableEq

/-- The piece of a unit of UTF-16. -/
def Piece.ofUnit (unit : Nat) : Piece :=
  if 0xD800 ≤ unit ∧ unit < 0xE000 then half unit else char (Char.ofNat unit)

/-- The value of a hexadecimal digit in either case. -/
def hexValue? (c : Char) : Option Nat :=
  let n := c.toNat
  if c.isDigit then some (n - 0x30)
  else if 0x61 ≤ n ∧ n ≤ 0x66 then some (n - 0x61 + 10)
  else if 0x41 ≤ n ∧ n ≤ 0x46 then some (n - 0x41 + 10)
  else none

/-- The unit of UTF-16 that four hexadecimal digits name. -/
def hexUnit? (a b c d : Char) : Option Nat := do
  let a ← hexValue? a
  let b ← hexValue? b
  let c ← hexValue? c
  let d ← hexValue? d
  return ((a * 16 + b) * 16 + c) * 16 + d

/-- The character that a backslash and a letter or sign stand for. -/
def escape? : Char → Option Char
  | '"' => some '"'
  | '\\' => some '\\'
  | '/' => some '/'
  | 'b' => some '\x08'
  | 'f' => some '\x0c'
  | 'n' => some '\n'
  | 'r' => some '\r'
  | 't' => some '\t'
  | _ => none

/-- Reads up to the closing quote: the pieces, and the text after the quote. A raw character
below the space, an unknown escape and a missing quote are faults. -/
def readPieces? : List Char → Option (List Piece × List Char)
  | '"' :: rest => some ([], rest)
  | '\\' :: 'u' :: a :: b :: c :: d :: cs =>
    match hexUnit? a b c d, readPieces? cs with
    | some unit, some (pieces, rest) => some (.ofUnit unit :: pieces, rest)
    | _, _ => none
  | '\\' :: e :: cs =>
    match escape? e, readPieces? cs with
    | some c, some (pieces, rest) => some (.char c :: pieces, rest)
    | _, _ => none
  | c :: cs =>
    if c.toNat < 0x20 ∨ c = '\\' then none
    else
      match readPieces? cs with
      | some (pieces, rest) => some (.char c :: pieces, rest)
      | none => none
  | [] => none

/-- The text of pieces, unless there is half of a surrogate pair without its other half. -/
def joinPieces? : List Piece → Option (List Char)
  | [] => some []
  | .char c :: pieces => (joinPieces? pieces).map (c :: ·)
  | .half high :: .half low :: pieces =>
    if high < 0xDC00 ∧ 0xDC00 ≤ low then
      let c := Char.ofNat (0x10000 + (high - 0xD800) * 0x400 + (low - 0xDC00))
      (joinPieces? pieces).map (c :: ·)
    else none
  | .half _ :: _ => none

/-- Reads a string after its opening quote: the text that it denotes, if any, and the text after
its closing quote. -/
def readString? (s : List Char) : Option (Option String × List Char) :=
  (readPieces? s).map fun (pieces, rest) => ((joinPieces? pieces).map String.ofList, rest)

end ScriptValue.Json
