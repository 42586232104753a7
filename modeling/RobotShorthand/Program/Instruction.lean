/-
**Instructions and programs.**

A program is a named list of instructions.  Instructions move and turn a robot, read its sensors, set
its actuators, wait, log and halt; five of them hold blocks of further instructions.  A tree may also
hold a foreign item, something that is no instruction: it is carried along, and refused by whatever has
to understand it.  One foreign item is nothing at all, and a run that meets it takes it for the end of
the block that it stands in.

Main definitions:

* `Direction`, `Comparison`, `Threshold`, `Predicate` — the parts of instructions;
* `Predicate.external` — a predicate known by number only, whose answers come from outside;
* `Foreign` — what is no instruction, but may stand where one is expected;
* `Instruction`, `Program` — the tree and the named list;
* `Kind`, `Instruction.kind` — the kind of an instruction;
* `Instruction.isNothing` — whether an item is nothing at all.
-/

import RobotShorthand.Robot.Memory
import RobotShorthand.Text.Quoted

set_option relaxedAutoImplicit false
set_option autoImplicit false

namespace RobotShorthand

/-! ### Directions -/

/-- The directions of a move. -/
inductive Direction
  | forward
  | backward
  | left
  | right
  deriving DecidableEq, Inhabited

namespace Direction

/-- The name of a direction. -/
def name : Direction → String
  | forward => "Forward"
  | backward => "Backward"
  | left => "Left"
  | right => "Right"

/-- All directions. -/
def all : List Direction := [forward, backward, left, right]

/-- The direction of a name. -/
def ofName? (name : String) : Option Direction := all.find? (·.name = name)

end Direction

/-! ### Predicates -/

/-- How a reading is compared with a threshold. -/
inductive Comparison
  | above
  | below
  | atLeast
  | atMost
  deriving DecidableEq, Inhabited

namespace Comparison

/-- The sign of a comparison. -/
def symbol : Comparison → String
  | above => ">"
  | below => "<"
  | atLeast => ">="
  | atMost => "<="

/-- All comparisons. -/
def all : List Comparison := [above, below, atLeast, atMost]

/-- The comparison of a sign. -/
def ofSymbol? (symbol : String) : Option Comparison := all.find? (·.symbol = symbol)

/-- Whether a reading compares so with a threshold. -/
def holds : Comparison → Number → Number → Bool
  | above, reading, threshold => threshold.lt reading
  | below, reading, threshold => reading.lt threshold
  | atLeast, reading, threshold => threshold.le reading
  | atMost, reading, threshold => reading.le threshold

end Comparison

/-- A comparison of the reading under one key with a fixed number. -/
structure Threshold where
  key : String
  threshold : Number
  comparison : Comparison
  deriving DecidableEq

namespace Threshold

/-- Whether the comparison holds in a memory; a missing reading never satisfies it. -/
def holds (t : Threshold) (m : Memory) : Bool :=
  match m.get? t.key with
  | some reading => t.comparison.holds reading t.threshold
  | none => false

/-- The threshold as it is shown in a listing. -/
def text (t : Threshold) : String :=
  t.key ++ " " ++ t.comparison.symbol ++ " " ++ t.threshold.text

end Threshold

/-- The predicates of conditions. -/
inductive Predicate
  /-- compares one reading with a number -/
  | threshold (t : Threshold)
  /-- holds when the left light reading exceeds the right one, a missing right one counting as zero -/
  | leftBrighter
  /-- is answered from outside, where it is known by this number -/
  | external (id : Nat)
  deriving DecidableEq

namespace Predicate

/-- The predicate as it is shown in a listing. -/
def label : Predicate → String
  | threshold t => t.text
  | leftBrighter => "?"
  | external _ => "?"

end Predicate

/-- Whether the reading under `left` exceeds the one under `right`. -/
def Memory.isLeftBrighter (m : Memory) : Bool :=
  match m.get? "left" with
  | some left => ((m.get? "right").getD (.float 0)).lt left
  | none => false

/-! ### Foreign items -/

/-- What is no instruction, but may stand where one is expected. -/
inductive Foreign
  /-- nothing at all -/
  | nothing
  /-- an object of another type, with the name of its type and the way it is shown -/
  | object (type shown : String)
  deriving DecidableEq

namespace Foreign

/-- A bare text. -/
def text (content : String) : Foreign := .object "str" (Text.quoted content.toList)

/-- The name of the type of an item. -/
def type : Foreign → String
  | nothing => "NoneType"
  | object type _ => type

/-- An item as messages show it. -/
def shown : Foreign → String
  | nothing => "None"
  | object _ shown => shown

end Foreign

/-! ### Instructions -/

/-- The instructions.  Numbers of sensors and actuators are single signed bytes; distances, durations
and counts are not negative. -/
inductive Instruction
  | move (direction : Direction) (distance : Nat)
  | turn (degrees : Number)
  | sense (kind : String) (sensor : Int8) (target : String)
  | actuate (kind : String) (actuator : Int8) (value : Binary64)
  | cond (predicate : Predicate) (thenBranch elseBranch : List Instruction)
  | loop (count : Nat) (body : List Instruction)
  | repeatWhile (predicate : Predicate) (body : List Instruction)
  | parallel (branches : List (List Instruction))
  | wait (milliseconds : Nat)
  | log (message : String)
  | halt
  | foreign (item : Foreign)

/-- A named list of instructions. -/
structure Program where
  name : String
  instructions : List Instruction

/-- The kinds of instructions. -/
inductive Kind
  | move
  | turn
  | sense
  | actuate
  | cond
  | loop
  | repeatWhile
  | parallel
  | wait
  | log
  | halt
  | foreign (type : String)
  deriving DecidableEq

namespace Kind

/-- The name of a kind. -/
def name : Kind → String
  | move => "Move"
  | turn => "Turn"
  | sense => "Sense"
  | actuate => "Actuate"
  | cond => "Cond"
  | loop => "Loop"
  | .repeatWhile => "While"
  | parallel => "Parallel"
  | wait => "Wait"
  | log => "Log"
  | halt => "Halt"
  | foreign type => type

end Kind

/-- The kind of an instruction. -/
def Instruction.kind : Instruction → Kind
  | .move .. => .move
  | .turn _ => .turn
  | .sense .. => .sense
  | .actuate .. => .actuate
  | .cond .. => .cond
  | .loop .. => .loop
  | .repeatWhile .. => .repeatWhile
  | .parallel _ => .parallel
  | .wait _ => .wait
  | .log _ => .log
  | .halt => .halt
  | .foreign item => .foreign item.type

/-- Whether an item is nothing at all. -/
def Instruction.isNothing : Instruction → Bool
  | .foreign .nothing => true
  | _ => false

end RobotShorthand
