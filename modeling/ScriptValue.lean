import ScriptValue.Main
import ScriptValue.Session
import ScriptValue.Proofs.Operator.Commutative
import ScriptValue.Proofs.Operator.Componentwise
import ScriptValue.Proofs.Operator.Expression
import ScriptValue.Proofs.Operator.Fault
import ScriptValue.Proofs.Operator.Reading
import ScriptValue.Proofs.Serial.Float
import ScriptValue.Proofs.Session.Reachable
import ScriptValue.Proofs.Numeral.Integer
import ScriptValue.Proofs.Operator.Modular
import ScriptValue.Proofs.Text.Blank
import ScriptValue.Proofs.Pair.Text
import ScriptValue.Proofs.CommandLine.Operand
import ScriptValue.Proofs.Serial.Record
import ScriptValue.Proofs.Serial.Layout
import ScriptValue.Proofs.CommandLine.Outcome
import ScriptValue.Proofs.CommandLine.Flags
import ScriptValue.Proofs.Binary64.Equality
import ScriptValue.Proofs.Operator.Comparison
import ScriptValue.Proofs.Pair.Grammar
import ScriptValue.Proofs.Binary64.Text
import ScriptValue.Proofs.Operator.TextComparison
import ScriptValue.Proofs.Operator.Division
import ScriptValue.Proofs.CommandLine.Strict
import ScriptValue.Proofs.Value.Representation
import ScriptValue.Proofs.CommandLine.Blank
import ScriptValue.Proofs.Operator.Concatenation
import ScriptValue.Proofs.Operator.Step
import ScriptValue.Proofs.Value.Detour
import ScriptValue.Proofs.Binary64.WholeText
