import ScriptValue.CommandLine.Outcome

/-!
# The program

Applies script operators from the command line. It prints the outcome that the library computes
and decides nothing itself.
-/

/-- Prints the outcome of the arguments. -/
def main (args : List String) : IO UInt32 := do
  let outcome := ScriptValue.Outcome.ofArguments args
  (← IO.getStdout).putStr outcome.output
  (← IO.getStderr).putStr outcome.errorOutput
  return outcome.code.toUInt32
