import ScriptValue.Binary64.Shortest

/-!
# Binary64 numbers as decimal text

The text of a number in scripts and the reader of floating-point numerals. The text has the
fewest digits that read back as the number, it never has an exponent, and it has a point only
before a fraction. Reading is correctly rounded.
-/

namespace ScriptValue.Binary64

open Numeral (Decimal FloatNumeral readFloatNumeral?)

/-! ## Reading -/

/-- The number nearest to a decimal. Decimals of at least `10 ^ 310` overflow and those below
`10 ^ -330` vanish, which is decided on the number of digits, so that a large exponent costs
nothing. -/
def ofDecimal (negative : Bool) (d : Decimal) : Float :=
  let order : Int := (Nat.toDigits 10 d.digits).length + d.exponent
  if d.digits = 0 ∨ order < -330 then zero negative
  else if 310 < order then infinity negative
  else if 0 ≤ d.exponent then
    nearest negative (d.digits * Nat.pow 10 d.exponent.toNat * unitsPerOne) 1
  else
    nearest negative (d.digits * unitsPerOne) (Nat.pow 10 d.exponent.natAbs)

def ofNumeral : FloatNumeral → Float
  | .nan => nan
  | .infinite negative => infinity negative
  | .finite negative value => ofDecimal negative value

/-- Why a text is no floating-point number. -/
inductive ReadFault where
  | empty
  | malformed
deriving DecidableEq

def ReadFault.message : ReadFault → String
  | .empty => "cannot parse float from empty string"
  | .malformed => "invalid float literal"

/-- Reads a text that is a floating-point numeral from end to end. -/
def read (s : List Char) : Except ReadFault Float :=
  match s, readFloatNumeral? s with
  | _, some numeral => .ok (ofNumeral numeral)
  | [], none => .error .empty
  | _ :: _, none => .error .malformed

/-! ## Writing -/

def signText (negative : Bool) : List Char :=
  if negative then ['-'] else []

/-- The text of a number. Of two shortest decimals that are equally near, the larger is taken. -/
def text (f : Float) : List Char :=
  match shape f with
  | .nan => ['N', 'a', 'N']
  | .infinite negative => signText negative ++ ['I', 'n', 'f', 'i', 'n', 'i', 't', 'y']
  | .finite negative mantissa shift =>
    signText negative ++
      (if mantissa = 0 then ['0'] else (shortest .up mantissa shift).text)

end ScriptValue.Binary64
