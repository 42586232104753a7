/-
**Robots.**

A robot has a name, a memory, a heading, actuators and a mode, and it keeps a trace of what it does.
Every line of the trace carries the robot's name; it is also entered in a journal, which unlike the
trace is never cleared.

Main definitions:

* `Robot`, `Robot.new` — robots, and a robot at the beginning;
* `Robot.say` — a line of the trace;
* `Robot.transition`, `Robot.setMode` — checked and unchecked changes of mode;
* `Robot.turn?`, `Robot.setActuator` — a turn, and the setting of an actuator;
* `Robot.stop`, `Robot.reset` — all actuators to zero, and everything to its beginning.

Main results:

* `transition_eq_ok_iff` — **a checked change succeeds exactly for legal transitions**;
* `trace_say`, `journal_say` — a line is added to the trace and to the journal.
-/

import RobotShorthand.Robot.Actuator
import RobotShorthand.Robot.Memory
import RobotShorthand.Robot.Mode
import RobotShorthand.Program.Instruction

set_option relaxedAutoImplicit false
set_option autoImplicit false

namespace RobotShorthand

/-- A robot. -/
structure Robot where
  name : String
  memory : Memory
  heading : Number
  actuators : Bank
  mode : Mode
  trace : Array String
  journal : Array String

namespace Robot

/-- A robot at the beginning. -/
def new (name : String) : Robot :=
  { name := name
    memory := .empty
    heading := .float 0
    actuators := .initial
    mode := .idle
    trace := #[]
    journal := #[] }

/-- A message with the name of the robot in front. -/
def line (r : Robot) (message : String) : String := "[" ++ r.name ++ "] " ++ message

/-- Adds a line to the trace and to the journal. -/
def say (r : Robot) (message : String) : Robot :=
  let line := r.line message
  { r with trace := r.trace.push line, journal := r.journal.push line }

@[simp] theorem trace_say (r : Robot) (message : String) :
    (r.say message).trace = r.trace.push (r.line message) := rfl

@[simp] theorem journal_say (r : Robot) (message : String) :
    (r.say message).journal = r.journal.push (r.line message) := rfl

/-! ### Modes -/

/-- The line of a change of mode. -/
def modeLine (source target : Mode) : String := "State: " ++ source.name ++ " -> " ++ target.name

/-- **A checked change of mode:** refused unless it is legal. -/
def transition (r : Robot) (source target : Mode) : Except IllegalTransition Robot :=
  if source.mayBecome target then
    .ok ({ r with mode := target }.say (modeLine source target))
  else .error ⟨source, target⟩

/-- An unchecked change of mode. -/
def setMode (r : Robot) (mode : Mode) : Robot :=
  { r.say (modeLine r.mode mode) with mode := mode }

/-- A checked change succeeds exactly for legal transitions. -/
theorem transition_eq_ok_iff (r r' : Robot) (source target : Mode) :
    r.transition source target = .ok r'
      ↔ source.mayBecome target = true
        ∧ r' = { r with mode := target }.say (modeLine source target) := by
  unfold transition
  split
  · rename_i h
    exact ⟨fun e => ⟨h, (Except.ok.inj e).symm⟩, fun e => congrArg Except.ok e.2.symm⟩
  · rename_i h
    exact ⟨fun e => (nomatch e), fun e => absurd e.1 h⟩

/-! ### Heading and actuators -/

/-- The degrees of a whole turn. -/
def wholeTurn : Nat := 360

/-- The robot turned by some degrees; none if heading and degrees cannot be added. -/
def turn? (r : Robot) (degrees : Number) : Option Robot :=
  (r.heading.add? degrees).map fun h => { r with heading := h.modulo wholeTurn }

/-- The robot with an actuator registered. -/
def register (r : Robot) (a : Address) : Robot := { r with actuators := r.actuators.register a }

/-- The robot with a registered actuator set to a value. -/
def setActuator (r : Robot) (a : Address) (x : Binary64) : Robot :=
  { r with actuators := r.actuators.set a x }

/-- The powers of the two motors in a move. -/
def movePowers : Direction → Binary64 × Binary64
  | .forward => (50, 50)
  | .backward => (-50, -50)
  | .left => (-30, 30)
  | .right => (30, -30)

/-- The robot with its motors set for a move. -/
def drive (r : Robot) (direction : Direction) : Robot :=
  let (left, right) := movePowers direction
  (r.setActuator ⟨.motor, 0⟩ left).setActuator ⟨.motor, 1⟩ right

/-- The robot with a reading stored. -/
def remember (r : Robot) (key : String) (reading : Number) : Robot :=
  { r with memory := r.memory.set key reading }

/-- The robot with every actuator at zero. -/
def stop (r : Robot) : Robot := { r with actuators := r.actuators.stop }

/-- **The robot as at the beginning,** except that its actuators stay registered; the trace begins with
a line that says so. -/
def reset (r : Robot) : Robot :=
  { r with
    memory := .empty
    heading := .float 0
    actuators := r.actuators.stop
    mode := .idle
    trace := #[] }.say "Robot reset"

end Robot

end RobotShorthand
