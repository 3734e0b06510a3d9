import ScriptValue.Text.Printed

/-!
# Quoted text

A text in double quotes, as error messages show it: on one line, and with every character
recognisable. The quote and the backslash are escaped, line feed, carriage return, tab and NUL
have short escapes, and every other character that is not visible by itself is written as
`\u{…}` with its code point in lower-case hexadecimal digits.
-/

namespace ScriptValue.Text

/-- The written form of one character inside quotes. -/
def quotedChar (c : Char) : List Char :=
  match c with
  | '"' => ['\\', '"']
  | '\\' => ['\\', '\\']
  | '\n' => ['\\', 'n']
  | '\r' => ['\\', 'r']
  | '\t' => ['\\', 't']
  | '\x00' => ['\\', '0']
  | c =>
    if isPrinted c then [c]
    else '\\' :: 'u' :: '\x7b' :: (Nat.toDigits 16 c.toNat ++ ['\x7d'])

def quoted (s : String) : String :=
  String.ofList ('"' :: (s.toList.flatMap quotedChar ++ ['"']))

end ScriptValue.Text
