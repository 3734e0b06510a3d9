import ScriptValue.Binary64.Basic
import ScriptValue.Numeral.Integer
import ScriptValue.Operator.Error
import ScriptValue.Text.Blank
import ScriptValue.Text.Quoted

/-!
# Ordered pairs

Pairs of 64-bit integers with componentwise arithmetic, which wraps around, and their text
`(x, y)`. The reader allows blanks around each of the tokens and reads what the writer writes.
-/

namespace ScriptValue

/-- An ordered pair of integers. -/
structure Pair where
  x : Int64
  y : Int64
deriving DecidableEq

namespace Pair

def zero : Pair := ⟨0, 0⟩

instance : Inhabited Pair := ⟨zero⟩

/-! ## Text -/

def text (p : Pair) : List Char :=
  '(' :: (Numeral.integerText p.x ++ ',' :: ' ' :: (Numeral.integerText p.y ++ [')']))

/-- The text between an opening parenthesis at the start and a closing one at the end. -/
def betweenParentheses? : List Char → Option (List Char)
  | '(' :: cs => if cs.getLast? = some ')' then some cs.dropLast else none
  | _ => none

/-- The texts before and after the first comma. -/
def splitAtComma? (s : List Char) : Option (List Char × List Char) :=
  match s.dropWhile (· ≠ ',') with
  | _ :: after => some (s.takeWhile (· ≠ ','), after)
  | [] => none

/-- An integer with blanks around it. -/
def readComponent? (s : List Char) : Option Int64 :=
  (Numeral.readInteger (Text.trim s)).toOption

/-- Reads a text that is a pair from end to end. -/
def read? (s : List Char) : Option Pair := do
  let inner ← betweenParentheses? (Text.trim s)
  let (left, right) ← splitAtComma? inner
  let x ← readComponent? left
  let y ← readComponent? right
  return ⟨x, y⟩

/-- A text that is no pair. -/
structure Malformed where
  text : String
deriving DecidableEq

def Malformed.message (e : Malformed) : String :=
  "invalid ordered pair literal: " ++ Text.quoted e.text

/-- Reads a pair and keeps a text that is none for the error. -/
def read (s : String) : Except Malformed Pair :=
  match read? s.toList with
  | some p => .ok p
  | none => .error ⟨s⟩

/-! ## Arithmetic -/

def map (f : Int64 → Int64) (p : Pair) : Pair :=
  ⟨f p.x, f p.y⟩

def zipWith (f : Int64 → Int64 → Int64) (p q : Pair) : Pair :=
  ⟨f p.x q.x, f p.y q.y⟩

instance : Neg Pair := ⟨map (- ·)⟩
instance : Complement Pair := ⟨map (~~~ ·)⟩
instance : Add Pair := ⟨zipWith (· + ·)⟩
instance : Sub Pair := ⟨zipWith (· - ·)⟩
instance : Mul Pair := ⟨zipWith (· * ·)⟩
instance : AndOp Pair := ⟨zipWith (· &&& ·)⟩
instance : OrOp Pair := ⟨zipWith (· ||| ·)⟩

def increment : Pair → Pair :=
  map (· + 1)

def decrement : Pair → Pair :=
  map (· - 1)

def pow : Pair → Pair → Pair :=
  zipWith fun base exponent =>
    Binary64.integerPower (Binary64.ofInteger base) (Binary64.ofInteger exponent)

/-- A pair that cannot divide. -/
def hasZero (p : Pair) : Bool :=
  p.x == 0 || p.y == 0

/-- The componentwise quotient, truncated toward zero. A divisor with a zero is an error. -/
def div (p q : Pair) : Except OperatorError Pair :=
  if q.hasZero then .error (.zeroDivisor "/") else .ok (zipWith (· / ·) p q)

/-- The componentwise remainder, with the sign of the dividend. A divisor with a zero is an
error. -/
def rem (p q : Pair) : Except OperatorError Pair :=
  if q.hasZero then .error (.zeroDivisor "%") else .ok (zipWith (· % ·) p q)

end Pair

end ScriptValue
