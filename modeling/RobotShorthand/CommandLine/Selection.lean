/-
**The program that options select.**

Options name a behaviour of the library, or give ultra-dense or dense code; a behaviour goes before
ultra-dense code, and that before dense code.  Ultra-dense code that is given as nothing is empty, while
dense code has to be written.

Main definitions:

* `SelectionError` — why nothing is selected;
* `Options.program` — **the program that options select.**

Main results:

* `Options.strict_of_compile_error` — code is refused only by strict compiling.
-/

import RobotShorthand.CommandLine.Options
import RobotShorthand.Program.Library

set_option relaxedAutoImplicit false
set_option autoImplicit false

namespace RobotShorthand

namespace CommandLine

/-- Why options select no program. -/
inductive SelectionError
  /-- a behaviour that is not in the library -/
  | unknownBehaviour (name : String)
  /-- code with errors, compiled strictly -/
  | refused (report : Report)
  /-- the empty name of a behaviour, and no code -/
  | noCode
  /-- dense code that is given as nothing -/
  | codeNotWritten

/-- Says that a behaviour is not in the library. -/
def unknownBehaviourMessage (name : String) : String := "Unknown behavior '" ++ name ++ "'"

namespace Options

/-- The program of a source, compiled strictly or not. -/
def compile (o : Options) (d : Dialect) (code : String) : Except SelectionError Program :=
  if o.strict then
    match d.compileStrict code none with
    | .ok p => .ok p
    | .error report => .error (.refused report)
  else .ok (d.compile code d.defaultName)

/-- The program of the code that options give. -/
def programOfCode (o : Options) : Except SelectionError Program :=
  match o.ultra, o.src with
  | some code, _ => o.compile .ultra (code.getD "")
  | none, some (.written code) => o.compile .dense code
  | none, some .nothing => .error .codeNotWritten
  | none, none => .error .noCode

/-- **The program that options select.**  The empty name of a behaviour counts as none, and so does one
that is given as nothing. -/
def program (o : Options) : Except SelectionError Program :=
  match o.behavior with
  | none => o.programOfCode
  | some .nothing => o.programOfCode
  | some (.written name) =>
      if name = "" then o.programOfCode
      else
        match behaviour? name with
        | some p => .ok p
        | none => .error (.unknownBehaviour name)

/-- Code is refused only by strict compiling. -/
theorem strict_of_compile_error {o : Options} {d : Dialect} {code : String} {e : SelectionError}
    (h : o.compile d code = .error e) : o.strict = true := by
  unfold compile at h
  split at h
  · assumption
  · exact absurd h (by simp)

end Options

end CommandLine

end RobotShorthand
