/-!
# Integers as decimal text

The text of a 64-bit integer and the reader of such texts. A numeral is an optional sign and one
or more ASCII digits, with any number of leading zeros. The reader goes from left to right and
stops at the first fault, so a numeral that leaves the range of 64 bits is reported as too large
or too small even if a character after that point is no digit.
-/

namespace ScriptValue.Numeral

/-- Why a text is no 64-bit integer. -/
inductive IntegerFault where
  | empty
  | invalidDigit
  | tooLarge
  | tooSmall
deriving DecidableEq

def IntegerFault.message : IntegerFault → String
  | .empty => "cannot parse integer from empty string"
  | .invalidDigit => "invalid digit found in string"
  | .tooLarge => "number too large to fit in target type"
  | .tooSmall => "number too small to fit in target type"

def digitValue (c : Char) : Nat :=
  c.toNat - '0'.toNat

/-- An optional sign: whether it was a minus, and the text after it. -/
def splitSign : List Char → Bool × List Char
  | '-' :: cs => (true, cs)
  | '+' :: cs => (false, cs)
  | cs => (false, cs)

/-! ## Reading -/

/-- The value with one more digit, which moves away from zero on the side of the sign. -/
def appendDigit (negative : Bool) (value : Int) (digit : Nat) : Int :=
  if negative then value * 10 - digit else value * 10 + digit

/-- Takes the digits into `value` one by one. A step that leaves the range is a fault. -/
def readDigits (negative : Bool) (value : Int) : List Char → Except IntegerFault Int64
  | [] => .ok (Int64.ofInt value)
  | c :: cs =>
    if c.isDigit then
      let next := appendDigit negative value (digitValue c)
      if next < Int64.minValue.toInt then .error .tooSmall
      else if Int64.maxValue.toInt < next then .error .tooLarge
      else readDigits negative next cs
    else .error .invalidDigit

/-- Reads a text that is an integer from end to end. A lone sign is an invalid digit. -/
def readInteger (s : List Char) : Except IntegerFault Int64 :=
  match s, splitSign s with
  | [], _ => .error .empty
  | _, (_, []) => .error .invalidDigit
  | _, (negative, digits) => readDigits negative 0 digits

/-! ## Writing -/

/-- The decimal text of an integer: no plus sign and no leading zeros. -/
def integerText (i : Int64) : List Char :=
  let digits := Nat.toDigits 10 i.toInt.natAbs
  if i.toInt < 0 then '-' :: digits else digits

end ScriptValue.Numeral
