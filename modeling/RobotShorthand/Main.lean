/-
**The program.**

The outer layer: it reads the arguments and the lines of the shell, waits where a run waits, and prints.
It has no tools to draw with and says so when a drawing is asked for.

Main definitions:

* `main` — the program.
-/

import RobotShorthand.CommandLine.Invocation

set_option relaxedAutoImplicit false
set_option autoImplicit false

open RobotShorthand RobotShorthand.CommandLine

/-- Waits as long as a run does. -/
def pause (waits : Array Nat) : IO Unit := IO.sleep (waits.foldl (· + ·) 0).toUInt32

/-- Says what went wrong, for the exit code one. -/
def complain (message : String) : IO UInt32 := do
  IO.eprintln message
  return 1

/-- What an invocation without an end is said to have ended with. -/
def breakdownMessage : Breakdown → String
  | .seedNotWritten => "the seed is not written"
  | .noCode => "no code is given"
  | .codeNotWritten => "the code is not written"
  | .fault f => f.message
  | .foreign item => item.message

/-- The tool that a drawing needs. -/
def toolOf : Drawing → Tool
  | .clusters _ => .clusters
  | .plot _ => .plots

/-- Runs a shell on the lines of the input. -/
partial def interact (input : IO.FS.Stream) (shell : Shell Bench) : IO UInt32 := do
  IO.print prompt
  (← IO.getStdout).flush
  let line ← input.getLine
  if line.isEmpty then
    IO.println ""
    return 0
  let waited := shell.state.waits.size
  match shell.step Bench.surroundings line with
  | .error f => complain f.message
  | .ok (none, text) => do
      IO.print text
      return 0
  | .ok (some next, text) => do
      pause (next.state.waits.extract waited next.state.waits.size)
      IO.print text
      interact input next

/-- The program. -/
def main (arguments : List String) : IO UInt32 := do
  match parseOptions arguments with
  | .error r =>
      if r.message ≠ "" then IO.eprintln r.message
      return r.exitCode.toUInt32
  | .ok o =>
      let world := worldOf o (← IO.rand 0 (UInt32.size - 1))
      if o.repl ∧ ¬ o.listBehaviors ∧ o.seed ≠ some .nothing then
        IO.println greeting
        interact (← IO.getStdin) (.new (.new o.name.shown) world defaultLimit false)
      else
        match invoke Bench.surroundings o world [] with
        | .error b => complain (breakdownMessage b)
        | .ok c =>
            pause c.waits
            IO.print c.text
            match c.drawings with
            | [] => return c.exitCode.toUInt32
            | d :: _ => complain (toolOf d).missingMessage
