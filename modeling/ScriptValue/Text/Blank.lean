/-!
# Blank characters

The characters that Unicode calls `White_Space`, and the trimming of a text on both sides.
Every reader of this library trims with `trim`, so that surrounding blanks never matter.
-/

namespace ScriptValue.Text

/-- The property `White_Space` of Unicode: 25 characters. -/
def isBlank (c : Char) : Bool :=
  let n := c.toNat
  (0x09 ≤ n && n ≤ 0x0D) || n == 0x20 || n == 0x85 || n == 0xA0 || n == 0x1680 ||
    (0x2000 ≤ n && n ≤ 0x200A) || n == 0x2028 || n == 0x2029 || n == 0x202F || n == 0x205F ||
    n == 0x3000

def trimStart (s : List Char) : List Char :=
  s.dropWhile isBlank

def trimEnd (s : List Char) : List Char :=
  (s.reverse.dropWhile isBlank).reverse

def trim (s : List Char) : List Char :=
  trimEnd (trimStart s)

end ScriptValue.Text
