/-
**Diagnostics.**

What a reader had to tolerate, and where.  Every problem belongs to a kind and has a message; all are
errors except symbols that mean nothing, which are warnings.

Main definitions:

* `Problem` — the problems of dense and ultra-dense code;
* `Problem.kind`, `Problem.message`, `Problem.severity` — how they are reported;
* `Diagnostic` — a problem at a position;
* `Report` — the diagnostics of a whole source.
-/

import RobotShorthand.Text.Quoted

set_option relaxedAutoImplicit false
set_option autoImplicit false

namespace RobotShorthand

/-- The shorthands with operands in ultra-dense code. -/
inductive Shorthand
  | actuator
  | turn
  | sensor
  deriving DecidableEq

/-- Problems that reading tolerates. -/
inductive Problem
  /-- a literal without a value -/
  | malformedNumber (text : List Char)
  /-- a conditional threshold that is no signed 32-bit number -/
  | malformedThreshold (text : List Char)
  /-- two characters that are no hexadecimal degrees -/
  | malformedDegrees (text : List Char)
  /-- a conditional without a branch -/
  | malformedConditional (inner : List Char)
  /-- a loop bracket that is never closed -/
  | unclosedLoop
  /-- a conditional bracket that is never closed -/
  | unclosedConditional
  /-- a loop shorthand that is never closed -/
  | unclosedRepeat
  /-- a message that is never closed -/
  | unclosedMessage
  /-- a shorthand without its operands -/
  | truncated (shorthand : Shorthand)
  /-- a bracket with too many brackets around it -/
  | tooDeep
  /-- a closer without an opener -/
  | unmatchedCloser (c : Char)
  /-- a character that means nothing in dense code -/
  | unknownSymbol (c : Char)
  /-- a character that means nothing in ultra-dense code -/
  | unknownShorthand (c : Char)
  deriving DecidableEq

/-- How grave a problem is. -/
inductive Severity
  | error
  | warning
  deriving DecidableEq

/-- The name of a severity. -/
def Severity.name : Severity → String
  | error => "error"
  | warning => "warning"

/-- The number of brackets that may stand around a bracket. -/
def maxNesting : Nat := 100

/-- The threshold of a conditional whose own one is malformed. -/
def defaultThreshold : Int := 50

namespace Problem

/-- The kind that a problem is reported as. -/
def kind : Problem → String
  | malformedNumber _ => "MalformedLiteral"
  | malformedThreshold _ => "MalformedLiteral"
  | malformedDegrees _ => "MalformedLiteral"
  | malformedConditional _ => "MalformedConditional"
  | unclosedLoop => "UnterminatedBracket"
  | unclosedConditional => "UnterminatedBracket"
  | unclosedRepeat => "UnterminatedBracket"
  | unclosedMessage => "UnterminatedString"
  | truncated _ => "MalformedMacro"
  | tooDeep => "NestingTooDeep"
  | unmatchedCloser _ => "UnknownSymbol"
  | unknownSymbol _ => "UnknownSymbol"
  | unknownShorthand _ => "UnknownSymbol"

/-- The message of a problem. -/
def message : Problem → String
  | malformedNumber text => "cannot read number " ++ Text.quoted text ++ ", using 0"
  | malformedThreshold text =>
      "conditional threshold " ++ Text.quoted text ++ " is not a 32-bit integer, using "
        ++ toString defaultThreshold
  | malformedDegrees text => "invalid hex degrees " ++ Text.quoted text
  | malformedConditional inner =>
      "conditional " ++ Text.quoted inner ++ " needs at least a threshold and a branch"
  | unclosedLoop => "loop '[' is never closed"
  | unclosedConditional => "conditional '\x7b' is never closed"
  | unclosedRepeat => "loop macro has no closing '*'"
  | unclosedMessage => "log message is never closed"
  | truncated .actuator => "actuator macro needs two digits and a successor"
  | truncated .turn => "turn macro needs two hex digits and a successor"
  | truncated .sensor => "sensor macro needs a digit"
  | tooDeep => "brackets nest deeper than " ++ toString maxNesting ++ " levels, skipping"
  | unmatchedCloser c => "unmatched closing " ++ Text.quoted [c]
  | unknownSymbol c => "unknown symbol " ++ Text.quoted [c]
  | unknownShorthand c => "unknown ultra-dense symbol " ++ Text.quoted [c]

/-- Symbols that mean nothing are warned about; everything else is an error. -/
def severity : Problem → Severity
  | unmatchedCloser _ => .warning
  | unknownSymbol _ => .warning
  | unknownShorthand _ => .warning
  | _ => .error

end Problem

/-- A problem at a position. -/
structure Diagnostic where
  position : Int
  problem : Problem
  deriving DecidableEq

namespace Diagnostic

/-- Whether a diagnostic is an error. -/
def isError (d : Diagnostic) : Bool := d.problem.severity = .error

/-- The line of a diagnostic. -/
def text (d : Diagnostic) : String :=
  d.problem.severity.name ++ ": " ++ d.problem.kind ++ " at " ++ toString d.position ++ ": "
    ++ d.problem.message

end Diagnostic

/-- The diagnostics of a source. -/
structure Report where
  source : String
  diagnostics : List Diagnostic

namespace Report

/-- The errors of a report. -/
def errors (r : Report) : List Diagnostic := r.diagnostics.filter (·.isError)

/-- The warnings of a report. -/
def warnings (r : Report) : List Diagnostic := r.diagnostics.filter (!·.isError)

/-- A source is accepted when its report has no errors. -/
def isAccepted (r : Report) : Bool := r.errors.isEmpty

/-- Why a source is refused: all its errors on one line. -/
def refusal (r : Report) : String :=
  "Invalid dense code " ++ Text.quoted r.source.toList ++ ": "
    ++ "; ".intercalate (r.errors.map Diagnostic.text)

/-- A source is accepted when every diagnostic is a warning. -/
theorem isAccepted_iff (r : Report) :
    r.isAccepted = true ↔ ∀ d ∈ r.diagnostics, d.isError = false := by
  simp [isAccepted, errors, List.filter_eq_nil_iff]

end Report

end RobotShorthand
