import ScriptValue.Numeral.Integer

/-!
# Decimal numbers and the texts of floating-point numbers

A `Decimal` is a natural number times a power of ten. This module holds its positional text, and
the grammar of floating-point numerals: an optional sign, then one of the words `inf`, `infinity`
and `nan` in any ASCII case, or digits with an optional point, at least one digit in all, and an
optional exponent.
-/

namespace ScriptValue.Numeral

structure Decimal where
  digits : Nat
  exponent : Int
deriving DecidableEq

/-! ## Positional text -/

/-- The digits before and after the point when the number is written without an exponent. There
is at least one digit before the point; after it there may be none. -/
def Decimal.positional (d : Decimal) : List Char × List Char :=
  let digits := Nat.toDigits 10 d.digits
  if 0 ≤ d.exponent then
    (digits ++ List.replicate d.exponent.toNat '0', [])
  else
    let places := d.exponent.natAbs
    if places < digits.length then
      (digits.take (digits.length - places), digits.drop (digits.length - places))
    else
      (['0'], List.replicate (places - digits.length) '0' ++ digits)

/-- The positional text, with a point only if digits follow it. -/
def Decimal.text (d : Decimal) : List Char :=
  match d.positional with
  | (whole, []) => whole
  | (whole, fraction) => whole ++ '.' :: fraction

/-! ## Numerals -/

/-- What a floating-point numeral says, before it is rounded. -/
inductive FloatNumeral where
  | nan
  | infinite (negative : Bool)
  | finite (negative : Bool) (value : Decimal)
deriving DecidableEq

/-- The exponent part of a numeral: nothing, or the letter `e`, an optional sign and digits. -/
def readExponent? : List Char → Option Int
  | [] => some 0
  | c :: cs =>
    if c = 'e' ∨ c = 'E' then
      let (negative, digits) := splitSign cs
      if digits ≠ [] ∧ digits.all Char.isDigit then
        let value : Int := Nat.ofDigitChars 10 digits 0
        some (if negative then -value else value)
      else none
    else none

/-- Reads digits with an optional point and an optional exponent. -/
def readDecimal? (s : List Char) : Option Decimal :=
  let whole := s.takeWhile Char.isDigit
  let afterWhole := s.dropWhile Char.isDigit
  let (fraction, afterFraction) :=
    match afterWhole with
    | '.' :: cs => (cs.takeWhile Char.isDigit, cs.dropWhile Char.isDigit)
    | cs => ([], cs)
  if whole = [] ∧ fraction = [] then none
  else
    (readExponent? afterFraction).map fun exponent =>
      ⟨Nat.ofDigitChars 10 (whole ++ fraction) 0, exponent - fraction.length⟩

/-- Reads a text that is a floating-point numeral from end to end. -/
def readFloatNumeral? (s : List Char) : Option FloatNumeral :=
  let (negative, body) := splitSign s
  let word := body.map Char.toLower
  if word = ['n', 'a', 'n'] then some .nan
  else if word = ['i', 'n', 'f'] ∨ word = ['i', 'n', 'f', 'i', 'n', 'i', 't', 'y'] then
    some (.infinite negative)
  else (readDecimal? body).map (.finite negative)

end ScriptValue.Numeral
