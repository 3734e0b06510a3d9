/-!
# Binary64 numbers as integers

A finite binary64 number is a sign and a whole number of units of 2^-1074, the least positive
number of the format. So rounding to the format is one division of natural numbers, and the
conversions of this library are exact integer arithmetic on `Float.toBits` and `Float.ofBits`.
Powers of natural numbers are written `Nat.pow`, which is the same function whatever is imported.

* `shape` takes a number apart into sign, mantissa and shift.
* `nearest` gives the number nearest to a quotient, ties to even, and infinity on overflow.
-/

namespace ScriptValue.Binary64

/-! ## Taking numbers apart -/

/-- What a binary64 number denotes: in the finite case `± mantissa · 2 ^ shift` units. -/
inductive Shape where
  | nan
  | infinite (negative : Bool)
  | finite (negative : Bool) (mantissa shift : Nat)
deriving DecidableEq

/-- Reads the sign bit, the eleven exponent bits and the 52 fraction bits. -/
def shape (f : Float) : Shape :=
  let bits := f.toBits.toNat
  let negative := decide (Nat.pow 2 63 ≤ bits)
  let exponent := bits / Nat.pow 2 52 % Nat.pow 2 11
  let fraction := bits % Nat.pow 2 52
  if exponent = 2047 then
    if fraction = 0 then .infinite negative else .nan
  else if exponent = 0 then .finite negative fraction 0
  else .finite negative (Nat.pow 2 52 + fraction) (exponent - 1)

/-! ## Rounding -/

def unitsPerOne : Nat := Nat.pow 2 1074

/-- The magnitude bits of infinity. -/
def infinityBits : Nat := 2047 * Nat.pow 2 52

/-- The natural number nearest to `n / d`, and the even one of two that are equally near. -/
def roundHalfEven (n d : Nat) : Nat :=
  let q := n / d
  let r := n % d
  if 2 * r < d then q else if d < 2 * r then q + 1 else q + q % 2

/-- The magnitude bits of the number nearest to `n / d` units. The shift leaves a quotient of 53
bits, or the shift zero if there are not so many. A quotient that rounds up to 2^53 carries into
the exponent, which is the right number. -/
def nearestBits (n d : Nat) : Nat :=
  let shift := (n / d).log2 - 52
  min (shift * Nat.pow 2 52 + roundHalfEven n (d * Nat.pow 2 shift)) infinityBits

/-- The number with a sign and magnitude bits. -/
def ofMagnitude (negative : Bool) (magnitude : Nat) : Float :=
  Float.ofBits (UInt64.ofNat (if negative then Nat.pow 2 63 + magnitude else magnitude))

/-- The number nearest to `± n / d` units. -/
def nearest (negative : Bool) (n d : Nat) : Float :=
  ofMagnitude negative (nearestBits n d)

def zero (negative : Bool) : Float :=
  ofMagnitude negative 0

def infinity (negative : Bool) : Float :=
  ofMagnitude negative infinityBits

def nan : Float :=
  Float.ofBits 0x7FF8000000000000

/-! ## Integers -/

/-- The number nearest to an integer, ties to even. -/
def ofInteger (i : Int64) : Float :=
  nearest (i.toInt < 0) (i.toInt.natAbs * unitsPerOne) 1

/-- The integer part of a number. Numbers beyond the range give its end, and NaN gives zero. -/
def truncate (f : Float) : Int64 :=
  match shape f with
  | .nan => 0
  | .infinite true => Int64.minValue
  | .infinite false => Int64.maxValue
  | .finite negative mantissa shift =>
    let magnitude : Int := (mantissa * Nat.pow 2 shift / unitsPerOne : Nat)
    Int64.ofIntClamp (if negative then -magnitude else magnitude)

/-! ## Power and remainder -/

def integerPower (base exponent : Float) : Int64 :=
  truncate (Float.pow base exponent)

/-- The remainder of a division that is truncated toward zero, computed exactly. It has the sign
of the dividend, also when it is zero. An infinite divisor leaves the dividend, and NaN answers a
NaN, an infinite dividend and a zero divisor. -/
def remainder (x y : Float) : Float :=
  match shape x, shape y with
  | .finite negative mantissa shift, .finite _ mantissa' shift' =>
    let divisor := mantissa' * Nat.pow 2 shift'
    if divisor = 0 then nan else nearest negative (mantissa * Nat.pow 2 shift % divisor) 1
  | .finite _ _ _, .infinite _ => x
  | _, _ => nan

end ScriptValue.Binary64
