/-!
# Arguments of the command line

A command line is one of the words `eval`, `unary` and `inspect` with its operands, or a request
for help or for the version. The flags `--json` and `-v`, `-vv`, …, `--verbose` may stand before
the word and between the operands, up to the first `--` after the word. All other arguments after
the word are operands, also those that start with a dash, until the word has all it takes; but
`-h` and `--help` ask for help wherever flags may stand. Arguments are read from left to right, and
the first one that asks for help or is out of place decides.
-/

namespace ScriptValue

inductive Task where
  | eval (left operator right : String)
  | unary (operator operand : String)
  | inspect (operand : String)
deriving DecidableEq

namespace Request

/-- The first word of a command line. -/
inductive Word where
  | eval
  | unary
  | inspect
deriving DecidableEq

def Word.text : Word → String
  | eval => "eval"
  | unary => "unary"
  | inspect => "inspect"

def Word.ofText? : String → Option Word
  | "eval" => some eval
  | "unary" => some unary
  | "inspect" => some inspect
  | _ => none

/-- How many operands a word takes. -/
def Word.arity : Word → Nat
  | eval => 3
  | unary => 2
  | inspect => 1

/-- What there is help on: the program, one of its words, and help itself. -/
inductive Topic where
  | program
  | word (word : Word)
  | help
deriving DecidableEq

end Request

/-- What a command line asks for. -/
inductive Request where
  | help (topic : Request.Topic)
  | version
  | perform (json : Bool) (task : Task)
deriving DecidableEq

namespace Request

/-! ## Flags -/

/-- The flags `-v`, `-vv`, … and `--verbose`. They ask for more log output, of which there is
none. -/
def isVerbosity (arg : String) : Bool :=
  match arg.toList with
  | '-' :: '-' :: word => word == "verbose".toList
  | '-' :: 'v' :: letters => letters.all (· == 'v')
  | _ => false

/-- The flags `-h` and `--help`, where there is room for so many more operands. The letter may
stand behind letters `v`. What is behind it does not count, but while there is room, an argument
with any other letter is an operand. -/
def isHelp (room : Nat) (arg : String) : Bool :=
  match arg.toList with
  | '-' :: '-' :: word => word == "help".toList
  | '-' :: letters =>
    (letters.dropWhile (· == 'v')).head? == some 'h' &&
      (room == 0 || letters.all fun c => c == 'v' || c == 'h')
  | _ => false

/-- The flags `-V` and `--version`. The letter may stand behind letters `v`, and what is behind
it does not count. -/
def isVersion (arg : String) : Bool :=
  match arg.toList with
  | '-' :: '-' :: word => word == "version".toList
  | '-' :: letters => (letters.dropWhile (· == 'v')).head? == some 'V'
  | _ => false

/-- A flag with a value. No flag takes one. -/
def isFlagWithValue (arg : String) : Bool :=
  "--json=".toList.isPrefixOf arg.toList || "--verbose=".toList.isPrefixOf arg.toList ||
    "--help=".toList.isPrefixOf arg.toList

/-! ## Operands -/

/-- What stands behind a word: a request for help, or operands, with a note whether `--json` is
among them. -/
inductive Operands where
  | help
  | given (json : Bool) (operands : List String)
deriving DecidableEq

def Operands.cons (arg : String) : Operands → Operands
  | help => help
  | given json operands => given json (arg :: operands)

/-- The arguments after the word, which has room for so many more operands. A second `--json`, a
flag with a value and an operand too many are faults. -/
def operands? (room : Nat) (json : Bool) : List String → Option Operands
  | [] => some (.given json [])
  | arg :: args =>
    if arg = "--" then some (.given json args)
    else if arg = "--json" then if json then none else operands? room true args
    else if isFlagWithValue arg then none
    else if isVerbosity arg then operands? room json args
    else if isHelp room arg then some .help
    else
      match room with
      | 0 => none
      | room + 1 => (operands? room json args).map (.cons arg)

/-- The task of a word and its operands, if there are as many as it takes. -/
def Word.task? : Word → List String → Option Task
  | eval, [left, operator, right] => some (.eval left operator right)
  | unary, [operator, operand] => some (.unary operator operand)
  | inspect, [operand] => some (.inspect operand)
  | _, _ => none

/-- The request of a word and what stands behind it. The `--json` may also stand before it. -/
def Word.request? (json : Bool) (word : Word) : Operands → Option Request
  | .help => some (.help (.word word))
  | .given json' operands => (word.task? operands).map (.perform (json || json'))

/-! ## Command lines -/

/-- What the arguments after `help` ask about. There is help on one word at most. -/
def topic? : List String → Option Topic
  | [] => some .program
  | ["help"] => some .help
  | [text] => (Word.ofText? text).map .word
  | _ => none

/-- The arguments from the first one on. Before the word there are flags only, and `--json` stands
there at most once. -/
def read? (json : Bool) : List String → Option Request
  | [] => none
  | arg :: args =>
    if arg = "--json" then if json then none else read? true args
    else if isVerbosity arg then read? json args
    else if isHelp 0 arg then some (.help .program)
    else if isVersion arg then some .version
    else if arg = "help" then (topic? args).map .help
    else
      match Word.ofText? arg with
      | some word => (operands? word.arity false args).bind (word.request? json)
      | none => none

/-- What the arguments ask for, if they are well formed. -/
def ofArguments? (args : List String) : Option Request :=
  read? false args

end Request

end ScriptValue
