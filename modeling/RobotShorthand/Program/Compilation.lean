/-
**Compiling code.**

Programs from code in either dialect.  Ultra-dense code is expanded first; dense code is read without
the blanks around it.  Compiling never fails, and the report of a source lists all that it tolerates;
strict compiling refuses a source whose report has errors.

Main definitions:

* `Dialect` — dense and ultra-dense code;
* `Dialect.compile` — **the program of a source;**
* `Dialect.report` — the diagnostics of a source;
* `Dialect.compileStrict` — the program of a source without errors, or its report.

Main results:

* `compileStrict_eq_ok_iff` — strict compiling succeeds for accepted sources, with the program that
  compiling gives.
-/

import RobotShorthand.Dense.Reading
import RobotShorthand.Ultra.Expansion

set_option relaxedAutoImplicit false
set_option autoImplicit false

namespace RobotShorthand

/-- The two ways to write a program. -/
inductive Dialect
  | dense
  | ultra
  deriving DecidableEq

namespace Dialect

/-- The name that a program has unless it is given another. -/
def defaultName : Dialect → String
  | dense => "dense"
  | ultra => "ultra"

/-- The dense code of a source. -/
def denseCode : Dialect → String → List Char
  | dense, code => code.toList
  | ultra, code => (Ultra.expand 0 code.toList).dense

/-- The instructions of dense code, read without the blanks around it. -/
def instructionsOf (code : List Char) : List Instruction :=
  (Dense.readAt 0 0 (Text.strip code)).instructions

/-- **The program of a source.** -/
def compile (d : Dialect) (code name : String) : Program := ⟨name, instructionsOf (d.denseCode code)⟩

/-! ### Reports -/

/-- The diagnostics of dense code, with positions in the code as it is, blanks included. -/
def denseDiagnostics (code : List Char) : List Diagnostic :=
  (Dense.readAt 0 (Text.leadingBlanks code) (Text.strip code)).diagnostics

/-- **The report of a source.**  For ultra-dense code the diagnostics of its expansion come first;
positions of the others are those in the dense code it expands to. -/
def report : Dialect → String → Report
  | dense, code => ⟨code, denseDiagnostics code.toList⟩
  | ultra, code =>
      let x := Ultra.expand 0 code.toList
      ⟨code, x.diagnostics ++ denseDiagnostics x.dense⟩

/-- The name of a program: the one given, unless it is empty or missing. -/
def nameOr (d : Dialect) (name? : Option String) : String :=
  match name? with
  | some name => if name = "" then d.defaultName else name
  | none => d.defaultName

/-- **The program of a source without errors,** or the report of a source with errors. -/
def compileStrict (d : Dialect) (code : String) (name? : Option String) : Except Report Program :=
  if (d.report code).isAccepted then .ok (d.compile code (d.nameOr name?))
  else .error (d.report code)

/-- Strict compiling succeeds for accepted sources, with the program that compiling gives. -/
theorem compileStrict_eq_ok_iff (d : Dialect) (code : String) (name? : Option String)
    (p : Program) :
    d.compileStrict code name? = .ok p
      ↔ (d.report code).isAccepted = true ∧ p = d.compile code (d.nameOr name?) := by
  unfold compileStrict
  split
  · rename_i h
    exact ⟨fun e => ⟨h, (Except.ok.inj e).symm⟩, fun e => congrArg Except.ok e.2.symm⟩
  · rename_i h
    exact ⟨fun e => (nomatch e), fun e => absurd e.1 h⟩

end Dialect

end RobotShorthand
