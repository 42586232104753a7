/-
**Surroundings of a run.**

What a running program meets outside the robot: sensors that are read and predicates that are asked.
Both may answer anything, may fail, and may change the world they belong to; nothing else is assumed of
them.

Main definitions:

* `Fault`, `Fault.message` — what ends a run early;
* `Fault.outOfLoop` — a fault as a conditional loop passes it on;
* `Channel` — a sensor by kind and number;
* `Surroundings` — sensors and predicates over the states of a world;
* `RunState` — a robot in a world, with what the run has counted;
* `Surroundings.test`, `Surroundings.recheck` — a predicate asked, and asked by a conditional loop.
-/

import RobotShorthand.Program.Fields
import RobotShorthand.Robot.Basic

set_option relaxedAutoImplicit false
set_option autoImplicit false

namespace RobotShorthand

/-- What ends a run early. -/
inductive Fault
  /-- a predicate fails, with a text of its own -/
  | predicateFailed (text : String)
  /-- the sensors give no more readings -/
  | sensorOffline
  /-- an integer meets a double and is beyond all doubles -/
  | integerTooLarge
  /-- a servo is set to an infinity -/
  | angleInfinite
  /-- an actuator is of no known kind -/
  | unknownActuator (kind : String)
  /-- an item is no instruction -/
  | foreignItem (item : Foreign)
  /-- a predicate or a sensor says that it has come to its end, with a text of its own -/
  | stopped (text : String)
  /-- the predicate of a conditional loop says that it has come to its end -/
  | loopStopped
  deriving DecidableEq

/-- Says what ended a run. -/
def Fault.message : Fault → String
  | predicateFailed text => text
  | sensorOffline => "sensor offline"
  | integerTooLarge => integerTooLargeMessage
  | angleInfinite => "math domain error"
  | unknownActuator kind => "Unknown actuator kind '" ++ kind ++ "'"
  | foreignItem item => "Unknown instruction " ++ item.shown
  | stopped text => text
  | loopStopped => "generator raised StopIteration"

/-- A fault of its predicate as a conditional loop passes it on.  The loop is itself a supply of
instructions that may come to its end, so a predicate that says it has come to its end would be mistaken
for that; all other faults are passed on as they are. -/
def Fault.outOfLoop : Fault → Fault
  | stopped _ => loopStopped
  | fault => fault

/-- A conditional loop changes no fault but the one that would be mistaken for its end. -/
theorem Fault.outOfLoop_eq_self_iff (fault : Fault) :
    fault.outOfLoop = fault ↔ ¬ ∃ text, fault = stopped text := by
  cases fault <;> simp [outOfLoop]

/-- A sensor, by its kind and its number. -/
structure Channel where
  kind : String
  number : Int
  deriving DecidableEq

/-- Sensors that can be read and predicates that can be asked, over the states `ω` of a world. -/
structure Surroundings (ω : Type) where
  read : Channel → ω → Except Fault Number × ω
  ask : Nat → Memory → ω → Except Fault Bool × ω

/-- The state of a run: the robot, the world around it, the number of instructions entered, and the
waits made, in milliseconds. -/
structure RunState (ω : Type) where
  robot : Robot
  world : ω
  steps : Nat
  waits : Array Nat

namespace RunState

variable {ω : Type}

/-- A robot in a world before anything is run. -/
def start (robot : Robot) (world : ω) : RunState ω := ⟨robot, world, 0, #[]⟩

/-- The state with another robot. -/
def withRobot (s : RunState ω) (r : Robot) : RunState ω := { s with robot := r }

/-- The state with a line added to the trace. -/
def say (s : RunState ω) (message : String) : RunState ω := { s with robot := s.robot.say message }

/-- The state with one more instruction entered. -/
def tick (s : RunState ω) : RunState ω := { s with steps := s.steps + 1 }

end RunState

/-- What an action leads to: a value or a fault, and the state it leaves in either case. -/
abbrev Outcome (ω α : Type) : Type := Except Fault α × RunState ω

namespace Surroundings

variable {ω : Type}

/-- **A reading of a sensor** as a double. -/
def sample (env : Surroundings ω) (channel : Channel) (s : RunState ω) : Outcome ω Binary64 :=
  match env.read channel s.world with
  | (.error fault, world) => (.error fault, { s with world := world })
  | (.ok reading, world) =>
      match reading.toFloat? with
      | some x => (.ok x, { s with world := world })
      | none => (.error .integerTooLarge, { s with world := world })

/-- **The answer of a predicate** on the memory of the robot. -/
def test (env : Surroundings ω) (p : Predicate) (s : RunState ω) : Outcome ω Bool :=
  match p with
  | .threshold t => (.ok (t.holds s.robot.memory), s)
  | .leftBrighter => (.ok s.robot.memory.isLeftBrighter, s)
  | .external id =>
      let (answer, world) := env.ask id s.robot.memory s.world
      (answer, { s with world := world })

/-- An answer as a conditional loop passes it on. -/
def answerOutOfLoop : Except Fault Bool → Except Fault Bool
  | .ok answer => .ok answer
  | .error fault => .error fault.outOfLoop

/-- **The answer of a predicate to a conditional loop,** which passes faults on in its own way. -/
def recheck (env : Surroundings ω) (p : Predicate) (s : RunState ω) : Outcome ω Bool :=
  let (answer, s) := env.test p s
  (answerOutOfLoop answer, s)

section Recheck

variable (env : Surroundings ω) (p : Predicate) (s s' : RunState ω)

theorem recheck_eq_ok_iff (answer : Bool) :
    env.recheck p s = (.ok answer, s') ↔ env.test p s = (.ok answer, s') := by
  rcases h : env.test p s with ⟨fault | answer', t⟩ <;>
    simp [recheck, h, answerOutOfLoop]

theorem recheck_eq_error_iff (fault : Fault) :
    env.recheck p s = (.error fault, s')
      ↔ ∃ raised, env.test p s = (.error raised, s') ∧ fault = raised.outOfLoop := by
  rcases h : env.test p s with ⟨raised | answer, t⟩
  · simp only [recheck, h, answerOutOfLoop, Prod.mk.injEq, Except.error.injEq]
    exact ⟨fun ⟨hfault, hs⟩ => ⟨raised, ⟨rfl, hs⟩, hfault.symm⟩,
      fun ⟨_, ⟨hraised, hs⟩, hfault⟩ => ⟨hraised ▸ hfault.symm, hs⟩⟩
  · simp [recheck, h, answerOutOfLoop]

end Recheck

end Surroundings

end RobotShorthand
