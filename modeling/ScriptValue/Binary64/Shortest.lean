import ScriptValue.Binary64.Basic
import ScriptValue.Numeral.Decimal

/-!
# Shortest decimals

The decimal with the fewest digits among those that round to a given binary64 number, and of
these the nearest to it. The decimals that round to a number fill an interval around it, so the
search goes through the powers of ten from above and takes the first one with a multiple in that
interval. All comparisons are of integers, in quarters of a unit.
-/

namespace ScriptValue.Binary64

open Numeral (Decimal)

/-- Which of two decimals is taken that are equally near. -/
inductive Tie where
  | up
  | even
deriving DecidableEq

/-- The numbers that round to a binary64 number: those from `low` to `high`, the ends included if
`closed`. All three are multiples of a quarter of a unit. -/
structure Interval where
  low : Nat
  value : Nat
  high : Nat
  closed : Bool

/-- The interval of `mantissa · 2 ^ shift` units. It ends half-way to the two neighbours; below a
power of two the neighbour is nearer. A half-way point rounds to the even mantissa. -/
def interval (mantissa shift : Nat) : Interval where
  low := (4 * mantissa - if mantissa = Nat.pow 2 52 ∧ shift ≠ 0 then 1 else 2) * Nat.pow 2 shift
  value := 4 * mantissa * Nat.pow 2 shift
  high := (4 * mantissa + 2) * Nat.pow 2 shift
  closed := mantissa % 2 = 0

/-- Whether `point` quarters lie in the interval whose three numbers are multiplied by `scale`. -/
def Interval.contains (i : Interval) (scale point : Nat) : Bool :=
  if i.closed then i.low * scale ≤ point && point ≤ i.high * scale
  else i.low * scale < point && point < i.high * scale

/-- The multiple of `step / scale` quarters that lies in the interval and is nearest to its
value: one of the two neighbours of the value, if any. -/
def Interval.multiple? (i : Interval) (tie : Tie) (scale step : Nat) : Option Nat :=
  let below := i.value * scale / step
  let above := below + 1
  match i.contains scale (below * step), i.contains scale (above * step) with
  | true, true =>
    let rest := i.value * scale % step
    if 2 * rest < step then some below
    else if step < 2 * rest then some above
    else match tie with
      | .up => some above
      | .even => some (below + below % 2)
  | true, false => some below
  | false, true => some above
  | false, false => none

/-- The multiple of a power of ten that is nearest to the value, if one lies in the interval. -/
def Interval.multipleOfPower? (i : Interval) (tie : Tie) (exponent : Int) : Option Nat :=
  if 0 ≤ exponent then i.multiple? tie 1 (4 * unitsPerOne * Nat.pow 10 exponent.toNat)
  else i.multiple? tie (Nat.pow 10 exponent.natAbs) (4 * unitsPerOne)

/-- Goes down from a power of ten, for at most `steps` powers. Without a hit the answer is the
exact value of `mantissa · 2 ^ shift` units; 17 digits always suffice, so this does not occur. -/
def shortestFrom (tie : Tie) (mantissa shift : Nat) : Nat → Int → Decimal
  | 0, _ => ⟨mantissa * Nat.pow 2 shift * Nat.pow 5 1074, -1074⟩
  | steps + 1, exponent =>
    match (interval mantissa shift).multipleOfPower? tie exponent with
    | some digits => ⟨digits, exponent⟩
    | none => shortestFrom tie mantissa shift steps (exponent - 1)

/-- The power of ten above `n / d`: the `k` with `10 ^ (k - 1) ≤ n / d < 10 ^ k`, for positive `n`
and `d`. -/
def decimalOrder (n d : Nat) : Int :=
  if d ≤ n then (Nat.toDigits 10 (n / d)).length
  else 1 - ((Nat.toDigits 10 ((d - 1) / n)).length : Int)

/-- The shortest decimal of `mantissa · 2 ^ shift` units, for a positive mantissa. -/
def shortest (tie : Tie) (mantissa shift : Nat) : Decimal :=
  shortestFrom tie mantissa shift 18 (decimalOrder (mantissa * Nat.pow 2 shift) unitsPerOne)

end ScriptValue.Binary64
