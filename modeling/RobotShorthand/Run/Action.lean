/-
**Actions.**

What the instructions without blocks do to a robot.  An action that fails leaves the robot as it found
it, with two exceptions: a turn has said its line, and an actuator stays registered.

Main definitions:

* `Run.turn`, `Run.sense`, `Run.actuate` — the actions that can fail;
* `Run.address` — an actuator addressed and set from outside a program;
* `Run.move`, `Run.wait`, `Run.halt` — the actions that always succeed.
-/

import RobotShorthand.Program.Listing
import RobotShorthand.Run.Surroundings

set_option relaxedAutoImplicit false
set_option autoImplicit false

namespace RobotShorthand

namespace Run

variable {ω : Type}

/-- A turn: the line is said before heading and degrees are added. -/
def turn (degrees : Number) (s : RunState ω) : Outcome ω Unit :=
  let s := s.say ("Turning " ++ degrees.text ++ " degrees")
  match s.robot.turn? degrees with
  | some r => (.ok (), s.withRobot r)
  | none => (.error .integerTooLarge, s)

/-- A sensor is read, the reading stored and the line said. -/
def sense (env : Surroundings ω) (kind : String) (sensor : Int8) (target : String)
    (s : RunState ω) : Outcome ω Unit :=
  match env.sample ⟨kind, sensor.toInt⟩ s with
  | (.error fault, s) => (.error fault, s)
  | (.ok x, s) =>
      (.ok (), (s.withRobot (s.robot.remember target (.float x))).say
        ("Read " ++ addressText kind sensor.toInt ++ " = " ++ x.text .listing))

/-- An actuator is registered and set, and the line said; the line shows the value as it was given. -/
def actuate (kind : String) (actuator : Int8) (value : Binary64) (s : RunState ω) :
    Outcome ω Unit :=
  match ActuatorKind.ofName? kind with
  | none => (.error (.unknownActuator kind), s)
  | some k =>
      let address : Address := ⟨k, actuator.toInt⟩
      let r := s.robot.register address
      match (r.actuators.actuator address).accept? value with
      | none => (.error .angleInfinite, s.withRobot r)
      | some x =>
          (.ok (), (s.withRobot (r.setActuator address x)).say
            ("Set " ++ addressText kind actuator.toInt ++ " = " ++ value.text .listing))

/-- An actuator is addressed, which registers it, and set if a value is given; its value is the answer.
Nothing is said. -/
def address (kind : String) (number : Int) (value? : Option Number) (s : RunState ω) :
    Outcome ω Binary64 :=
  match ActuatorKind.ofName? kind with
  | none => (.error (.unknownActuator kind), s)
  | some k =>
      let address : Address := ⟨k, number⟩
      let r := s.robot.register address
      match value? with
      | none => (.ok (r.actuators.actuator address).value, s.withRobot r)
      | some value =>
          match value.toFloat? with
          | none => (.error .integerTooLarge, s.withRobot r)
          | some given =>
              match (r.actuators.actuator address).accept? given with
              | none => (.error .angleInfinite, s.withRobot r)
              | some x => (.ok x, s.withRobot (r.setActuator address x))

/-- The longest wait, in milliseconds. -/
def longestWait : Nat := 100

/-- Milliseconds in seconds. -/
def seconds (milliseconds : Nat) : Binary64 := .round false (milliseconds * unitsPerOne) 1000

/-- A wait: the line shows the duration, and the wait itself is cut to the longest one. -/
def wait (milliseconds : Nat) (s : RunState ω) : RunState ω :=
  let s := s.say ("Waiting " ++ toString milliseconds ++ "ms")
  { s with waits := s.waits.push (min milliseconds longestWait) }

/-- A move: the line is said and the motors are set. -/
def move (direction : Direction) (distance : Nat) (s : RunState ω) : RunState ω :=
  let s := s.say ("Moving " ++ direction.name ++ " for " ++ toString distance ++ " units")
  s.withRobot (s.robot.drive direction)

/-- A halt: all actuators are set to zero and the line is said. -/
def halt (s : RunState ω) : RunState ω := (s.withRobot s.robot.stop).say "HALT"

end Run

end RobotShorthand
