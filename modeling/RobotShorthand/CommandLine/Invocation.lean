/-
**An invocation.**

What the program does for its options: it lists the library, starts a shell, or compiles the selected
program, shows it, runs it, and asks for drawings of it.

Main definitions:

* `Completion` — what an invocation prints, its exit code, and the drawings it asks for;
* `runSelected` — the run of the selected program;
* `invoke` — **the invocation with some options.**
-/

import RobotShorthand.CommandLine.Selection
import RobotShorthand.CommandLine.Shell
import RobotShorthand.Graph.Drawing
import RobotShorthand.Run.Bench

set_option relaxedAutoImplicit false
set_option autoImplicit false

namespace RobotShorthand

namespace CommandLine

/-- What an invocation ends in: the text it prints before any drawing is made, its exit code, the
drawings it asks for, and the waits of its run in milliseconds. -/
structure Completion where
  text : String
  exitCode : Nat
  drawings : List Drawing
  waits : Array Nat

namespace Completion

/-- A completion that prints a text and asks for nothing. -/
def printing (text : String) (exitCode : Nat) : Completion := ⟨text, exitCode, [], #[]⟩

/-- All that is printed when every drawing is made. -/
def fullText (c : Completion) : String :=
  c.drawings.foldl (fun text d => text ++ d.doneText) c.text

end Completion

/-- What keeps an invocation from completing. -/
inductive Breakdown
  /-- a seed that is given as nothing -/
  | seedNotWritten
  | noCode
  | codeNotWritten
  | fault (fault : Fault)
  | foreign (item : NotAnInstruction)

/-! ### The parts of an invocation -/

/-- The library with the lengths of its programs. -/
def libraryText : String :=
  linesText (behaviourLibrary.map fun (name, p) =>
    name ++ ": " ++ toString p.instructions.length ++ " instructions")

/-- The code that is given, and its expansion if that is asked for. -/
def sourceText (o : Options) : String :=
  match o.ultra, o.src with
  | some code, _ =>
      "Ultra: " ++ code.shown ++ "\n"
        ++ (if o.expand then
              "Dense: " ++ String.ofList (Dialect.ultra.denseCode (code.getD "")) ++ "\n"
            else "")
  | none, some code => "Source: " ++ code.shown ++ "\n"
  | none, none => ""

/-- What is printed when code is refused. -/
def refusalText (report : Report) : String :=
  linesText ("  ✗ Compilation failed:" :: report.errors.map fun d => indentedLine d.text)

/-- The listing of a program, and its digest and counts if they are asked for. -/
def programText (o : Options) (p : Program) (digest : String) : String :=
  p.listing ++ "\n"
    ++ (if o.hash then "SHA256(" ++ p.name ++ ") = " ++ digest ++ "\n" else "")
    ++ (if o.stats then Shell.statisticsText p else "")

/-- What is printed of a run: the lines of the robot while it runs, or after it if it is quiet. -/
def runText (o : Options) (robot : Robot) (summary : Summary) : String :=
  "\nExecution:\n" ++ (if o.quiet then "" else linesText robot.journal.toList)
    ++ "  ✓ " ++ toString summary.steps ++ " steps, final state " ++ robot.mode.name ++ "\n"
    ++ (if o.quiet then summaryText summary.log else "")

/-- The drawings that options ask for; a path that is empty or nothing asks for no clusters. -/
def drawingsOf (o : Options) : List Drawing :=
  (((o.viz.map (·.getD "")).filter (· ≠ "")).map Drawing.ofClusters).toList
    ++ (o.visualize.map fun path => Drawing.ofPlot (some path)).toList

/-- Shows and runs a program on a robot in a world. -/
def runSelected {ω : Type} (env : Surroundings ω) (o : Options) (p : Program) (world : ω) :
    Except Breakdown Completion :=
  match p.digest with
  | .error item => .error (.foreign item)
  | .ok digest =>
      match Run.runProgram env p (.start (.new o.name.shown) world) with
      | (.error fault, _) => .error (.fault fault)
      | (.ok summary, s) =>
          .ok ⟨sourceText o ++ programText o p digest ++ runText o s.robot summary, 0, drawingsOf o,
            s.waits⟩

/-- **The invocation with some options,** in a world and with the lines that its shell would read.  The
library is listed without a world; all else needs a seed that is written if one is given. -/
def invoke {ω : Type} (env : Surroundings ω) (o : Options) (world : ω) (lines : List String) :
    Except Breakdown Completion :=
  if o.listBehaviors then .ok (.printing libraryText 0)
  else if o.seed = some .nothing then .error .seedNotWritten
  else if o.repl then
    match (Shell.new (.new o.name.shown) world defaultLimit false).session env lines with
    | .ok text => .ok (.printing text 0)
    | .error fault => .error (.fault fault)
  else
    match o.program with
    | .error (.refused report) => .ok (.printing (sourceText o ++ refusalText report) 1)
    | .error (.unknownBehaviour name) =>
        .ok (.printing (sourceText o ++ "  ✗ " ++ unknownBehaviourMessage name ++ "\n") 1)
    | .error .noCode => .error .noCode
    | .error .codeNotWritten => .error .codeNotWritten
    | .ok p => runSelected env o p world

/-- The world of an invocation: simulated sensors, with the seed that options give or another. -/
def worldOf (o : Options) (otherSeed : Int) : Bench :=
  .ofSensors (.ofSeed ((o.seed.map (·.getD otherSeed)).getD otherSeed) [])

end CommandLine

end RobotShorthand
