import ScriptValue.Binary64.Decimal
import ScriptValue.Json.Basic

/-!
# JSON numbers

What a JSON number denotes as an integer and in floating point, and the numbers that integers and
floating-point numbers are written as.

A number in floating point is read by one multiplication or division: the significand is taken
digit by digit while it stays below 2^64, rounded, and then scaled by a power of ten, which is
rounded too. So a number with many digits may be read as a neighbour of the nearest one.
-/

namespace ScriptValue.Json

open Binary64 (Shape shape nearest unitsPerOne)
open Numeral (Decimal)

namespace Number

/-! ## Integers -/

/-- The integer that a number denotes: a number without fraction and exponent, in the range of 64
bits, and not `-0`, which is a number in floating point. -/
def integer? (n : Number) : Option Int64 :=
  match n.fraction, n.exponent with
  | none, none =>
    let magnitude := Nat.ofDigitChars 10 n.whole 0
    let value : Int := if n.negative then -magnitude else magnitude
    if n.negative ∧ magnitude = 0 then none
    else if Int64.minValue.toInt ≤ value ∧ value ≤ Int64.maxValue.toInt then
      some (Int64.ofInt value)
    else none
  | _, _ => none

/-- The number that an integer is written as. -/
def ofInteger (i : Int64) : Number :=
  ⟨i.toInt < 0, Nat.toDigits 10 i.toInt.natAbs, none, none⟩

/-! ## Reading in floating point -/

/-- Takes digits into the significand while it stays below 2^64, and gives the digits left. -/
def absorb (significand : Nat) : List Char → Nat × List Char
  | [] => (significand, [])
  | c :: cs =>
    let next := significand * 10 + Numeral.digitValue c
    if next < Nat.pow 2 64 then absorb next cs else (significand, c :: cs)

/-- The power of ten nearest to `10 ^ n`. -/
def powerOfTen (n : Nat) : Float :=
  Binary64.ofDecimal false ⟨1, n⟩

/-- Divides by `10 ^ n`, by 308 powers at a time. -/
def scaleDown (f : Float) (n : Nat) : Float :=
  if n ≤ 308 then f / powerOfTen n
  else if f == 0 then f
  else scaleDown (f / powerOfTen 308) (n - 308)
termination_by n

/-- The significand times a power of ten, if it is finite. -/
def scale? (significand : Nat) (exponent : Int) : Option Float :=
  let f := nearest false (significand * unitsPerOne) 1
  if exponent < 0 then some (scaleDown f exponent.natAbs)
  else if exponent ≤ 308 then
    let g := f * powerOfTen exponent.toNat
    if g.isInf then none else some g
  else if f == 0 then some f
  else none

/-- The value of an exponent, which is zero if there is none. -/
def exponentValue : Option Exponent → Int
  | none => 0
  | some e =>
    let value : Int := Nat.ofDigitChars 10 e.digits 0
    if e.negative then -value else value

/-- The number in floating point that a number denotes, if it is not too large. Digits that the
significand has no room for count before the point and are dropped after it. -/
def float? (n : Number) : Option Float :=
  let (whole, dropped) := absorb 0 n.whole
  let fraction := n.fraction.getD []
  let (significand, rest) := absorb whole fraction
  let places : Int := (fraction.length - rest.length : Nat)
  let exponent := dropped.length - places + exponentValue n.exponent
  (scale? significand exponent).map fun f => if n.negative then -f else f

/-! ## Writing in floating point -/

/-- The number with a sign and a decimal. From 10^-5 to 10^16 it is written with a point and a
fraction, and beyond with one digit before the point and an exponent. -/
def ofDecimal (negative : Bool) (d : Decimal) : Number :=
  let digits := Nat.toDigits 10 d.digits
  let order : Int := digits.length - 1 + d.exponent
  if -5 ≤ order ∧ order ≤ 15 then
    let (whole, fraction) := d.positional
    ⟨negative, whole, some (if fraction = [] then ['0'] else fraction), none⟩
  else
    ⟨negative, digits.take 1, if digits.drop 1 = [] then none else some (digits.drop 1),
      some ⟨order < 0, Nat.toDigits 10 order.natAbs⟩⟩

/-- The number that a finite number in floating point is written as: its shortest decimal, and
of two that are equally near the one with an even last digit. -/
def ofFloat? (f : Float) : Option Number :=
  match shape f with
  | .finite negative mantissa shift =>
    some (ofDecimal negative
      (if mantissa = 0 then ⟨0, 0⟩ else Binary64.shortest .even mantissa shift))
  | _ => none

end Number

end ScriptValue.Json
