import ScriptValue.Binary64.Decimal
import ScriptValue.Pair

/-!
# Readings

A value can be read in five domains: as a string, an integer, a number in floating point, a
boolean and a pair. This module says how a text reads in the other four, and which text each of
them reads as. A text that cannot be read in a domain has a fixed reading there: zero, NaN, false
or the pair of zeros. Blanks around a text never matter.
-/

namespace ScriptValue

/-- How a value reads in each of the five domains. -/
structure Readings where
  string : String
  integer : Int64
  float : Float
  boolean : Bool
  pair : Pair
deriving DecidableEq

/-! ## Readings of texts -/

/-- Reads one of the words `true` and `false` in any ASCII case. -/
def readBoolean? (s : List Char) : Option Bool :=
  let word := s.map Char.toLower
  if word = ['t', 'r', 'u', 'e'] then some true
  else if word = ['f', 'a', 'l', 's', 'e'] then some false
  else none

/-- The integer that a text reads as, or zero. -/
def integerReading (s : String) : Int64 :=
  ((Numeral.readInteger (Text.trim s.toList)).toOption).getD 0

/-- The number that a text reads as, or NaN. -/
def floatReading (s : String) : Float :=
  ((Binary64.read (Text.trim s.toList)).toOption).getD Binary64.nan

/-- The boolean that a text reads as, or false. -/
def booleanReading (s : String) : Bool :=
  (readBoolean? (Text.trim s.toList)).getD false

/-- The pair that a text reads as, or the pair of zeros. -/
def pairReading (s : String) : Pair :=
  (Pair.read? s.toList).getD .zero

/-! ## Texts as readings -/

def integerString (i : Int64) : String :=
  String.ofList (Numeral.integerText i)

def floatString (f : Float) : String :=
  String.ofList (Binary64.text f)

def booleanString (b : Bool) : String :=
  if b then "True" else "False"

def pairString (p : Pair) : String :=
  String.ofList p.text

end ScriptValue
