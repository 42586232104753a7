/-
**The shell.**

A shell reads lines: dense code, ultra-dense code behind a mark, and commands behind a colon.  Code is
compiled, numbered, run on the shell's robot and kept among the latest programs, which commands compare
and examine by number.

Main definitions:

* `Entry`, `Shell` — a kept program, and the state of a shell;
* `Shell.resolve` — the entry that a command means;
* `Shell.runLine` — a line of code;
* `Shell.command` — a command;
* `Shell.step` — **a line of either sort:** the text it prints, and the shell behind it unless the line
  ends it;
* `Shell.session` — all that a shell prints for some lines.
-/

import RobotShorthand.Diff.Unified
import RobotShorthand.Program.Compilation
import RobotShorthand.Run.Machine

set_option relaxedAutoImplicit false
set_option autoImplicit false

namespace RobotShorthand

namespace CommandLine

/-- A program that a shell keeps, with its number. -/
structure Entry where
  index : Nat
  program : Program

/-- A shell: its robot in its world, the programs it keeps, how many it has run, how many it may keep,
and whether its robot says its lines aloud. -/
structure Shell (ω : Type) where
  state : RunState ω
  history : List Entry
  counter : Nat
  limit : Int
  echo : Bool

/-- How many programs a shell keeps unless it is told otherwise. -/
def defaultLimit : Int := 10

/-- The text that asks for a line. -/
def prompt : String := "coconut> "

/-- The line that a shell begins with. -/
def greeting : String := "CoconutTelegraph REPL — enter dense code, u:<ultra>, or :help"

/-- Lines with their ends. -/
def linesText (lines : List String) : String := lines.foldl (fun text l => text ++ l ++ "\n") ""

/-- A line of a run, set in. -/
def indentedLine (l : String) : String := "    " ++ l

/-- The lines that the summary of a run shows, set in. -/
def summaryText (log : List String) : String := linesText (log.map indentedLine)

namespace Shell

variable {ω : Type}

/-- A shell at the beginning. -/
def new (robot : Robot) (world : ω) (limit : Int) (echo : Bool) : Shell ω :=
  ⟨.start robot world, [], 0, limit, echo⟩

/-- The lines that the robot has added to its journal since it had `heard` of them, if they are said
aloud. -/
def heardSince (sh : Shell ω) (heard : Nat) : String :=
  if sh.echo then
    let journal := sh.state.robot.journal
    linesText (journal.extract heard journal.size).toList
  else ""

/-! ### Entries -/

/-- The entry that a command means: the latest one, or the one of a number.  Otherwise what is said
instead. -/
def resolve (sh : Shell ω) (token? : Option (List Char)) : Except String Entry :=
  match sh.history.getLast? with
  | none => .error "No cached programs yet."
  | some latest =>
      match token? with
      | none => .ok latest
      | some token =>
          match Text.integer? token with
          | none => .error "Program index must be an integer."
          | some n =>
              match sh.history.find? fun e => (e.index : Int) = n with
              | some e => .ok e
              | none => .error ("No cached program #" ++ toString n ++ ".")

/-- The programs kept once another has been run: the oldest one goes when there are too many. -/
def keep (limit : Int) (history : List Entry) (e : Entry) : List Entry :=
  let longer := history ++ [e]
  if limit < longer.length then longer.drop 1 else longer

/-! ### Lines of code -/

/-- The program of a line: ultra-dense code behind its mark, or dense code. -/
def compileLine (l : List Char) : Program :=
  match l with
  | 'u' :: ':' :: code =>
      Dialect.ultra.compile (String.ofList (Text.strip code)) Dialect.ultra.defaultName
  | _ => Dialect.dense.compile (String.ofList l) Dialect.dense.defaultName

/-- A program with its number behind its name. -/
def numbered (p : Program) (n : Nat) : Program := { p with name := p.name ++ "#" ++ toString n }

/-- **A line of code:** it is compiled, run, and kept. -/
def runLine (env : Surroundings ω) (sh : Shell ω) (l : List Char) :
    Except Fault (Shell ω × String) :=
  let index := sh.counter + 1
  let program := numbered (compileLine l) index
  let heard := sh.state.robot.journal.size
  match Run.runProgram env program sh.state with
  | (.error fault, _) => .error fault
  | (.ok summary, state) =>
      let sh := { sh with
        state := state
        counter := index
        history := keep sh.limit sh.history ⟨index, program⟩ }
      let text := sh.heardSince heard
        ++ "[#" ++ toString index ++ "] " ++ toString program.instructions.length
        ++ " instructions, " ++ toString summary.steps ++ " steps\n" ++ summaryText summary.log
      .ok (sh, text)

/-! ### Commands -/

/-- The memory of a robot between braces. -/
def memoryText (m : Memory) : String :=
  let entry := fun (e : String × Number) => Text.quoted e.1.toList ++ ": " ++ e.2.text
  "\x7b" ++ ", ".intercalate (m.entries.map entry) ++ "\x7d"

/-- The lines of help. -/
def helpText (limit : Int) : String :=
  linesText
    ["Commands: :help, :quit, :hash [n], :diff n m, :stats [n], :reset, :state",
      "History: last " ++ toString limit ++ " programs cached."]

/-- What is shown of an entry, or what is said instead. -/
def showEntry (sh : Shell ω) (token? : Option (List Char)) (view : Entry → String) : String :=
  match sh.resolve token? with
  | .ok e => view e
  | .error text => text ++ "\n"

/-- The digest of an entry. -/
def digestText (e : Entry) : String :=
  match e.program.digest with
  | .ok digest => "SHA256(program_" ++ toString e.index ++ ") = " ++ digest ++ "\n"
  | .error why => why.message ++ "\n"

/-- The counts of an entry. -/
def statisticsText (p : Program) : String := p.statistics.document.indented ++ "\n"

/-- The difference of two entries, or what is said instead of either. -/
def diffText (sh : Shell ω) (a b : List Char) : String :=
  match sh.resolve (some a), sh.resolve (some b) with
  | .ok x, .ok y =>
      match x.program.diff y.program with
      | [] => "Programs are identical.\n"
      | lines => linesText lines
  | .error text, .ok _ => text ++ "\n"
  | .ok _, .error text => text ++ "\n"
  | .error text, .error text' => text ++ "\n" ++ text' ++ "\n"

/-- The mode, the heading and the memory of the robot. -/
def stateText (r : Robot) : String :=
  "state: " ++ r.mode.name ++ "  heading: " ++ r.heading.text ++ "\n"
    ++ "memory: " ++ memoryText r.memory ++ "\n"

/-- **A command** with the words behind it: what it prints, and the shell behind it unless it ends
the shell. -/
def command (sh : Shell ω) (name : List Char) (words : List (List Char)) :
    Option (Shell ω) × String :=
  match String.ofList name with
  | ":quit" => (none, "")
  | ":exit" => (none, "")
  | ":help" => (some sh, helpText sh.limit)
  | ":hash" => (some sh, sh.showEntry words.head? digestText)
  | ":stats" => (some sh, sh.showEntry words.head? fun e => statisticsText e.program)
  | ":diff" =>
      match words with
      | [a, b] => (some sh, sh.diffText a b)
      | _ => (some sh, "Usage: :diff <a> <b>\n")
  | ":reset" =>
      let heard := sh.state.robot.journal.size
      let sh := { sh with state := sh.state.withRobot sh.state.robot.reset }
      (some sh, sh.heardSince heard ++ "Robot reset.\n")
  | ":state" => (some sh, stateText sh.state.robot)
  | other => (some sh, "Unknown command: " ++ other ++ "\n")

/-! ### Sessions -/

/-- **A line:** what it prints, and the shell behind it unless it ends the shell. -/
def step (env : Surroundings ω) (sh : Shell ω) (line : String) :
    Except Fault (Option (Shell ω) × String) :=
  let stripped := Text.strip line.toList
  match stripped with
  | [] => .ok (some sh, "")
  | ':' :: _ =>
      match Text.words stripped with
      | name :: words => .ok (sh.command name words)
      | [] => .ok (some sh, "")
  | _ =>
      match sh.runLine env stripped with
      | .ok (sh, text) => .ok (some sh, text)
      | .error fault => .error fault

/-- All that a shell prints for some lines, prompts included, and the shell in the end.  When the lines
come to their end, so does the line of the prompt. -/
def run (env : Surroundings ω) (sh : Shell ω) (printed : String) :
    List String → Except Fault (Shell ω × String)
  | [] => .ok (sh, printed ++ prompt ++ "\n")
  | l :: ls =>
      match sh.step env l with
      | .error fault => .error fault
      | .ok (none, text) => .ok (sh, printed ++ prompt ++ text)
      | .ok (some next, text) => next.run env (printed ++ prompt ++ text) ls

/-- **All that a shell prints for some lines,** greeting included. -/
def session (env : Surroundings ω) (sh : Shell ω) (lines : List String) : Except Fault String :=
  match sh.run env (greeting ++ "\n") lines with
  | .ok (_, text) => .ok text
  | .error fault => .error fault

end Shell

end CommandLine

end RobotShorthand
