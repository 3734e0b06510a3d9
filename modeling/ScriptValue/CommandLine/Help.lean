import ScriptValue.CommandLine.Arguments

/-!
# Help

What the program prints when it is asked for help: what the program or one of its words is for,
how it is used, and lists of what may stand on the command line, with the meanings in a column.
-/

namespace ScriptValue.Request

/-- Something that may stand on a command line, and what it means. -/
structure Entry where
  name : String
  meaning : String

/-! ## Operands and flags -/

/-- The operands of a word, in their order. -/
def Word.entries : Word → List Entry
  | eval => [⟨"<LHS>", "Left operand"⟩, ⟨"<OP>", "Operator symbol"⟩, ⟨"<RHS>", "Right operand"⟩]
  | unary => [⟨"<OP>", "Operator symbol"⟩, ⟨"<OPERAND>", "Operand"⟩]
  | inspect => [⟨"<OPERAND>", "Operand"⟩]

/-- The flags that may stand before a word and behind it. -/
def flagEntries : List Entry :=
  [⟨"    --json", "Print results as JSON"⟩,
    ⟨"-v, --verbose...", "Increase log verbosity (-v for debug, -vv for trace)"⟩,
    ⟨"-h, --help", "Print help"⟩]

def versionEntry : Entry :=
  ⟨"-V, --version", "Print version"⟩

/-! ## Topics -/

namespace Topic

/-- What the program or a word is for. -/
def about : Topic → String
  | program => "Evaluate KerboScript value operators"
  | word .eval => "Apply a binary operator (== != + - * / % ^ & |)"
  | word .unary => "Apply a unary operator (+ - ~ ! ++ --)"
  | word .inspect => "Show the kind and every projection of a value"
  | help => "Print this message or the help of the given subcommand(s)"

/-- The words that the program knows. -/
def commands : List Entry :=
  [⟨"eval", about (word .eval)⟩, ⟨"unary", about (word .unary)⟩,
    ⟨"inspect", about (word .inspect)⟩, ⟨"help", about help⟩]

/-- The line that says how the program or a word is used. -/
def usage : Topic → String
  | program => "Usage: kerbo [OPTIONS] <COMMAND>\n"
  | word w => "Usage: kerbo " ++ w.text ++ " [OPTIONS] " ++
      String.intercalate " " (w.entries.map (·.name)) ++ "\n"
  | help => "Usage: kerbo help [COMMAND]...\n"

/-- The lists of what may stand on the command line, with their titles. -/
def lists : Topic → List (String × List Entry)
  | program => [("Commands", commands), ("Options", flagEntries ++ [versionEntry])]
  | word w => [("Arguments", w.entries), ("Options", flagEntries)]
  | help => [("Arguments", [⟨"[COMMAND]...", "Print help for the subcommand(s)"⟩])]

/-! ## Screens -/

/-- A list under its title. The meanings start two places behind the longest name. -/
def listText (title : String) (entries : List Entry) : String :=
  let width := entries.foldl (fun width entry => max width entry.name.length) 0
  let line (entry : Entry) : String :=
    "  " ++ entry.name.pushn ' ' (width - entry.name.length) ++ "  " ++ entry.meaning ++ "\n"
  title ++ ":\n" ++ String.join (entries.map line)

/-- All that is printed on a topic. An empty line stands before each part but the first. -/
def screen (topic : Topic) : String :=
  String.intercalate "\n" ((topic.about ++ "\n") :: topic.usage ::
    topic.lists.map fun (title, entries) => listText title entries)

/-- The screen on the word with one operand. -/
example : screen (word .inspect) =
    "Show the kind and every projection of a value\n\n" ++
    "Usage: kerbo inspect [OPTIONS] <OPERAND>\n\n" ++
    "Arguments:\n" ++
    "  <OPERAND>  Operand\n\n" ++
    "Options:\n" ++
    "      --json        Print results as JSON\n" ++
    "  -v, --verbose...  Increase log verbosity (-v for debug, -vv for trace)\n" ++
    "  -h, --help        Print help\n" := by
  decide +kernel

end Topic

end ScriptValue.Request
