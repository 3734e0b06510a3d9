import ScriptValue.Json.Basic
import ScriptValue.Json.Text

/-!
# Writing JSON

The compact form of a document, which has no blanks, and the pretty form, which has one element
or member a line, indented by two spaces for each level.
-/

namespace ScriptValue.Json

def exponentText : Option Exponent → List Char
  | none => []
  | some e => 'e' :: (if e.negative then '-' else '+') :: e.digits

def fractionText : Option (List Char) → List Char
  | none => []
  | some digits => '.' :: digits

def numberText (n : Number) : List Char :=
  (if n.negative then ['-'] else []) ++ n.whole ++ fractionText n.fraction ++
    exponentText n.exponent

/-! ## Layouts -/

inductive Layout where
  | compact
  | pretty
deriving DecidableEq

/-- What stands before each element or member and before the bracket that closes them: in the
pretty form a new line with an indentation. -/
def Layout.newLine : Layout → Nat → List Char
  | compact, _ => []
  | pretty, indentation => '\n' :: List.replicate indentation ' '

/-- What stands after the colon of a member. -/
def Layout.space : Layout → List Char
  | compact => []
  | pretty => [' ']

/-! ## Trees -/

mutual

/-- The text of a tree at an indentation. An empty array or object has no line break, and a break
has no text. -/
def print (layout : Layout) (indentation : Nat) : Json → List Char
  | null => ['n', 'u', 'l', 'l']
  | boolean true => ['t', 'r', 'u', 'e']
  | boolean false => ['f', 'a', 'l', 's', 'e']
  | number n => numberText n
  | string text => stringText text
  | array [] => ['[', ']']
  | array elements =>
    '[' :: (printElements layout (indentation + 2) elements ++
      (layout.newLine indentation ++ [']']))
  | object [] => ['\x7b', '\x7d']
  | object members =>
    '\x7b' :: (printMembers layout (indentation + 2) members ++
      (layout.newLine indentation ++ ['\x7d']))
  | broken => []

def printElements (layout : Layout) (indentation : Nat) : List Json → List Char
  | [] => []
  | [element] => layout.newLine indentation ++ print layout indentation element
  | element :: elements =>
    layout.newLine indentation ++ (print layout indentation element ++
      ',' :: printElements layout indentation elements)

def printMembers (layout : Layout) (indentation : Nat) : List (Option String × Json) → List Char
  | [] => []
  | [(key, value)] =>
    layout.newLine indentation ++ (stringText key ++
      ':' :: (layout.space ++ print layout indentation value))
  | (key, value) :: members =>
    layout.newLine indentation ++ (stringText key ++
      ':' :: (layout.space ++ (print layout indentation value ++
        ',' :: printMembers layout indentation members)))

end

/-- A document in one of the two forms. -/
def render (layout : Layout) (j : Json) : String :=
  String.ofList (j.print layout 0)

end ScriptValue.Json
