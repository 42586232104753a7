/-
**Compiled programs run to their end.**

A run can end in a fault for six reasons, and for each there is an instruction that brings it about.
The trees that reading gives hold none of them: their predicates compare a reading with a number,
their turns are small enough to be added to any heading, their actuators are motors, and no item in
them is foreign.  What is left to fail is a sensor.  With sensors that answer, a program that was
compiled from any text runs to its end on any robot.

What holds of the summary holds of every program that completes: its lines are between the one that
announces the run and the one that says it is complete, and it counts a step at least for every
instruction at the top.

Main definitions:

* `SensorsAnswer` — every sensor gives a reading that is a double or can be made one.

Main results:

* `enter_of_isShaped` — **no instruction that reading gives ends in a fault** when it is entered;
* `executeBlock_of_isShaped` — a block of such instructions is run to its end;
* `exists_log_runProgram`, `length_le_steps_runProgram` — the lines and the steps of a summary;
* `runProgram_compile` — **a compiled program runs to its end,** whatever its text and the robot.
-/

import RobotShorthand.Proofs.Dense.Image
import RobotShorthand.Proofs.Run.Steps

set_option relaxedAutoImplicit false
set_option autoImplicit false

namespace RobotShorthand

namespace Run

open RobotShorthand.Dense (IsShaped isInt32)

variable {ω : Type}

/-! ### Actions without a fault -/

/-- **Sensors that answer:** every reading is a double, or an integer with one near it. -/
def SensorsAnswer (env : Surroundings ω) : Prop :=
  ∀ channel world, ∃ reading world' x,
    env.read channel world = (.ok reading, world') ∧ reading.toFloat? = some x

/-- A 32-bit integer can be added to any heading, also to one that is infinite or not a number. -/
theorem exists_add? (heading : Number) {n : Int} (h : isInt32 n = true) :
    ∃ sum, heading.add? (.int n) = some sum := by
  cases heading with
  | int m => exact ⟨_, rfl⟩
  | float x =>
      obtain ⟨y, hy⟩ := Dense.exists_ofInt? h
      refine ⟨.float (x.add y), ?_⟩
      simp [Number.add?, Number.combine?, Number.toFloat?, hy]

theorem turn_of_isInt32 {n : Int} (h : isInt32 n = true) (s : RunState ω) :
    ∃ s', turn (.int n) s = (.ok (), s') := by
  obtain ⟨sum, hsum⟩ := exists_add? s.robot.heading h
  rcases turn_cases (.int n) s with ⟨heading, _, hturn⟩ | ⟨hnone, _⟩
  · exact ⟨_, hturn⟩
  · rw [hsum] at hnone
    exact absurd hnone (by simp)

theorem sense_of_sensorsAnswer {env : Surroundings ω} (hs : SensorsAnswer env) (kind : String)
    (sensor : Int8) (target : String) (s : RunState ω) :
    ∃ s', sense env kind sensor target s = (.ok (), s') := by
  obtain ⟨reading, world', x, hread, hx⟩ := hs ⟨kind, sensor.toInt⟩ s.world
  have hsample : env.sample ⟨kind, sensor.toInt⟩ s = (.ok x, { s with world := world' }) := by
    simp only [Surroundings.sample, hread, hx]
  rcases sense_cases env kind sensor target s with ⟨fault, world, hfault, _⟩ | ⟨y, world, _, hsense⟩
  · rw [hsample] at hfault
    exact absurd (Prod.mk.inj hfault).1 (by simp)
  · exact ⟨_, hsense⟩

/-- A motor takes every value. -/
theorem actuate_motor (actuator : Int8) (value : Binary64) (s : RunState ω) :
    ∃ s', actuate "motor" actuator value s = (.ok (), s') := by
  have hmotor : ActuatorKind.ofName? "motor" = some .motor := by decide
  rcases actuate_cases "motor" actuator value s with ⟨hnone, _⟩ | ⟨k, hk, hset⟩
  · rw [hmotor] at hnone
    exact absurd hnone (by simp)
  · rw [hmotor] at hk
    obtain rfl := Option.some.inj hk
    rcases hset with ⟨hnone, _⟩ | ⟨x, _, hactuate⟩
    · exact absurd hnone (by simp [ActuatorKind.accept?])
    · exact ⟨_, hactuate⟩

/-- **No instruction that reading gives ends in a fault when it is entered.** -/
theorem enter_of_isShaped {env : Surroundings ω} (hs : SensorsAnswer env) {i : Instruction}
    (hi : IsShaped i) (s : RunState ω) : ∃ answer s', enter env i s = (.ok answer, s') := by
  cases i with
  | move direction distance => exact ⟨_, _, rfl⟩
  | turn degrees =>
      obtain ⟨n, hn, rfl⟩ := hi
      obtain ⟨s', hturn⟩ := turn_of_isInt32 hn s
      exact ⟨none, s', by rw [enter, hturn, closed]⟩
  | sense kind sensor target =>
      obtain ⟨s', hsense⟩ := sense_of_sensorsAnswer hs kind sensor target s
      exact ⟨none, s', by rw [enter, hsense, closed]⟩
  | actuate kind actuator value =>
      obtain ⟨rfl, _⟩ := hi
      obtain ⟨s', hactuate⟩ := actuate_motor actuator value s
      exact ⟨none, s', by rw [enter, hactuate, closed]⟩
  | cond predicate thenBranch elseBranch =>
      obtain ⟨n, _, rfl⟩ := hi
      simp only [enter, Surroundings.test]
      cases Threshold.holds ⟨"s0", .int n, .above⟩ s.robot.memory with
      | true => exact ⟨_, _, rfl⟩
      | false => exact ⟨_, _, rfl⟩
  | loop count body => exact ⟨_, _, rfl⟩
  | wait milliseconds => exact ⟨_, _, rfl⟩
  | log message => exact ⟨_, _, rfl⟩
  | halt => exact ⟨_, _, rfl⟩
  | repeatWhile predicate body => exact False.elim hi
  | parallel branches => exact False.elim hi
  | foreign item => exact False.elim hi

theorem kept_completion {env : Surroundings ω} (hs : SensorsAnswer env) :
    Kept env IsShaped (fun _ o => ∃ s', o = (.ok (), s')) where
  done s := ⟨s, rfl⟩
  next _ h := h
  enter i s hi := by
    obtain ⟨answer, s', henter⟩ := enter_of_isShaped hs hi s.tick
    exact ⟨s', by rw [henter]; rfl⟩
  line _ s := ⟨_, rfl⟩
  ask predicate body s hi := False.elim hi

/-- A block of instructions that reading gives is run to its end. -/
theorem executeBlock_of_isShaped {env : Surroundings ω} (hs : SensorsAnswer env)
    {is : List Instruction} (his : Throughout IsShaped is) (s : RunState ω) :
    ∃ s', executeBlock env is s = (.ok (), s') := (kept_completion hs).executeBlock his s

theorem throughout_isShaped_compile (d : Dialect) (code name : String) :
    Throughout IsShaped (d.compile code name).instructions :=
  fun e he => ((Dense.inImage_compile d code name).fits (Nat.zero_add _) e he).shaped

theorem isSomething_of_isShaped {i : Instruction} (hi : IsShaped i) : IsSomething i := by
  cases i with
  | foreign item => exact False.elim hi
  | _ => rfl

/-! ### Summaries -/

/-- The lines of a run that completes stand between the one that announces it and the one that says
it is complete, under the same name. -/
theorem exists_log_runProgram {env : Surroundings ω} {p : Program} {s s' : RunState ω}
    {summary : Summary} (h : runProgram env p s = (.ok summary, s')) :
    ∃ lines, summary.log = [s.robot.line ("=== Running program: " ++ p.name ++ " ===")]
      ++ lines ++ [s.robot.line ("=== Program complete: " ++ p.name ++ " ===")] := by
  obtain ⟨t, hrun, rfl, _, hlog⟩ := executeBlock_of_runProgram h
  have hextends := extends_executeBlock env p.instructions
    (s.say ("=== Running program: " ++ p.name ++ " ==="))
  rw [hrun] at hextends
  obtain ⟨hname, lines, hlines⟩ := hextends
  have htrace : (t.say ("=== Program complete: " ++ p.name ++ " ===")).robot.trace
      = (s.robot.trace.push (s.robot.line ("=== Running program: " ++ p.name ++ " ==="))
          ++ lines).push (t.robot.line ("=== Program complete: " ++ p.name ++ " ===")) :=
    congrArg (Array.push · _) hlines
  have hline : t.robot.line ("=== Program complete: " ++ p.name ++ " ===")
      = s.robot.line ("=== Program complete: " ++ p.name ++ " ===") := by
    unfold Robot.line
    rw [hname]
    rfl
  refine ⟨lines.toList, ?_⟩
  rw [hlog, htrace, hline]
  simp [List.take_of_length_le]

theorem length_le_steps_runProgram {env : Surroundings ω} {p : Program} {s s' : RunState ω}
    {summary : Summary} (hp : Throughout IsSomething p.instructions)
    (h : runProgram env p s = (.ok summary, s')) :
    p.instructions.length ≤ summary.steps := by
  obtain ⟨t, hrun, _, hsteps, _⟩ := executeBlock_of_runProgram h
  have hfewest := le_steps_executeBlock hp hrun
  have hsaid : (s.say ("=== Running program: " ++ p.name ++ " ===")).steps = s.steps := rfl
  have hlength := Counting.fewest.length_le_block p.instructions
  omega

/-! ### Compiled programs -/

/-- **A compiled program runs to its end,** whatever its text, in either dialect, and whatever the
robot, provided that the sensors answer.  Its lines begin with the one that announces it and end with
the one that says it is complete, and it counts a step at least for every instruction at the top. -/
theorem runProgram_compile (env : Surroundings ω) (hs : SensorsAnswer env) (d : Dialect)
    (code name : String) (s : RunState ω) :
    ∃ summary s', runProgram env (d.compile code name) s = (.ok summary, s')
      ∧ summary.log.head? = some (s.robot.line ("=== Running program: " ++ name ++ " ==="))
      ∧ summary.log.getLast? = some (s.robot.line ("=== Program complete: " ++ name ++ " ==="))
      ∧ (d.compile code name).instructions.length ≤ summary.steps := by
  obtain ⟨t, hrun⟩ := executeBlock_of_isShaped hs (throughout_isShaped_compile d code name)
    (s.say ("=== Running program: " ++ name ++ " ==="))
  obtain ⟨summary, hprogram⟩ := runProgram_of_executeBlock hrun
  obtain ⟨lines, hlog⟩ := exists_log_runProgram hprogram
  have hsomething : Throughout IsSomething (d.compile code name).instructions :=
    fun e he => isSomething_of_isShaped (throughout_isShaped_compile d code name e he)
  refine ⟨summary, _, hprogram, ?_, ?_, length_le_steps_runProgram hsomething hprogram⟩
  · rw [hlog]
    rfl
  · rw [hlog]
    exact List.getLast?_concat

/-- Sensors that answer with an integer, and a robot with an infinite heading: it reads a sensor and
turns. -/
theorem runProgram_compile_scout :
    SensorsAnswer (⟨fun _ world => (.ok 7, world), fun _ _ world => (.ok false, world)⟩ :
        Surroundings Unit)
      ∧ ∃ summary s', runProgram
          ⟨fun _ world => (.ok 7, world), fun _ _ world => (.ok false, world)⟩
          (Dialect.dense.compile " ?0@90" "scout")
          (.start { Robot.new "Coco" with heading := .float (.infinite true) } ())
            = (.ok summary, s')
        ∧ summary.log.head? = some "[Coco] === Running program: scout ==="
        ∧ summary.log.getLast? = some "[Coco] === Program complete: scout ==="
        ∧ 2 ≤ summary.steps := by
  have hanswer : SensorsAnswer
      (⟨fun _ world => (.ok 7, world), fun _ _ world => (.ok false, world)⟩ :
        Surroundings Unit) := by
    intro channel world
    obtain ⟨x, hx⟩ := Dense.exists_ofInt? (by decide : isInt32 7 = true)
    exact ⟨7, world, x, rfl, hx⟩
  have hread : (Dialect.dense.compile " ?0@90" "scout").instructions
      = [Dense.senseOf 0, .turn (.int 90)] := by
    have htext : Text.strip " ?0@90".toList = '?' :: Text.decimal 0 ++ '@' :: Text.decimal 90 := by
      decide
    have hgives : Dense.Gives maxNesting ('?' :: Text.decimal 0 ++ '@' :: Text.decimal 90)
        ([Dense.senseOf 0] ++ [.turn (.int 90)]) :=
      (Dense.gives_sense (by decide)).append (Dense.gives_turn (by decide))
        (Dense.endsLiteral_cons (by decide))
    show (Dense.read _ 0 (Text.strip " ?0@90".toList)).instructions = _
    rw [htext]
    exact congrArg Dense.Reading.instructions (hgives.read_eq 0)
  refine ⟨hanswer, ?_⟩
  obtain ⟨summary, s', hrun, hfirst, hlast, hsteps⟩ :=
    runProgram_compile _ hanswer .dense " ?0@90" "scout"
      (.start { Robot.new "Coco" with heading := .float (.infinite true) } ())
  rw [hread] at hsteps
  exact ⟨summary, s', hrun, hfirst, hlast, hsteps⟩

end Run

end RobotShorthand
