/-
**Listings.**

The text of a program for reading: its name and one line for each instruction, with blocks in
brackets inside the line.

Main definitions:

* `Instruction.text`, `bracketed` — an instruction and a block on one line;
* `Program.listing` — **the listing of a program.**
-/

import RobotShorthand.Program.Instruction
import RobotShorthand.Text.Title

set_option relaxedAutoImplicit false
set_option autoImplicit false

namespace RobotShorthand

/-- Texts between brackets, with semicolons between them. -/
def bracketed (texts : List String) : String := "[" ++ "; ".intercalate texts ++ "]"

/-- The name of a kind of sensor or actuator, with a number. -/
def addressText (kind : String) (number : Int) : String :=
  Text.titled kind ++ "#" ++ toString number

mutual

/-- An instruction on one line. -/
def Instruction.text : Instruction → String
  | .move direction distance => "MOVE(" ++ direction.name ++ ", " ++ toString distance ++ ")"
  | .turn degrees => "TURN(" ++ degrees.text ++ " deg)"
  | .sense kind sensor target =>
      "SENSE(" ++ addressText kind sensor.toInt ++ " -> " ++ target ++ ")"
  | .actuate kind actuator value =>
      "ACTUATE(" ++ addressText kind actuator.toInt ++ " <- " ++ value.text .listing ++ ")"
  | .cond predicate thenBranch elseBranch =>
      "IF(" ++ predicate.label ++ ") THEN " ++ bracketed (itemTexts thenBranch)
        ++ " ELSE " ++ bracketed (itemTexts elseBranch)
  | .loop count body => "LOOP(" ++ toString count ++ ") " ++ bracketed (itemTexts body)
  | .repeatWhile predicate body => "WHILE(" ++ predicate.label ++ ") " ++ bracketed (itemTexts body)
  | .parallel branches => "PARALLEL(" ++ " || ".intercalate (branchTexts branches) ++ ")"
  | .wait milliseconds => "WAIT(" ++ toString milliseconds ++ "ms)"
  | .log message => "LOG(" ++ message ++ ")"
  | .halt => "HALT"
  | .foreign item => item.shown

/-- The lines of the instructions of a block. -/
def itemTexts : List Instruction → List String
  | [] => []
  | i :: is => i.text :: itemTexts is

/-- The texts of several blocks. -/
def branchTexts : List (List Instruction) → List String
  | [] => []
  | b :: bs => bracketed (itemTexts b) :: branchTexts bs

end

/-- **The listing of a program:** its name, and its instructions indented below. -/
def Program.listing (p : Program) : String :=
  "\n".intercalate (("Program: " ++ p.name) :: p.instructions.map fun i => "  " ++ i.text)

end RobotShorthand
