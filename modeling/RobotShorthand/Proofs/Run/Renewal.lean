/-
**A robot that is reset is as good as new.**

A robot with a history carries traces of it: the actuators it has addressed stay registered, its trace
begins with a line of its own, and its steps have been counted on.  Resetting does not take these away,
and yet nothing that a program does afterwards shows them.  All actuators stand at zero after a reset,
and an actuator that is registered at zero behaves like one that is not registered, since registering
gives it that value; what a program reads of the robot is its memory and its heading; and the summary of
a run tells only the lines and steps that the run has added.

So the robot that was reset and a new one are twins: they agree in everything that actions look at.
Every move keeps twins twins and has equal outcomes, and so has every run, faults included.

Main definitions:

* `Bank.value` — the value of an actuator, which is zero if it is not registered;
* `Twins` — **states that differ in nothing that an action looks at;**
* `Abreast` — twins that have made the same steps and said the same lines since two given states;
* `Observation`, `observe` — what is seen of programs that are run one after another;
* `Operation`, `Reached` — what can be done with a robot, and the states that can be reached.

Main results:

* `congruent_abreast` — every single change keeps twins abreast;
* `Twins.runProgram` — **programs have the same results for twins, and leave twins;**
* `Intact.perform` — a robot keeps its name and its standard actuators, whatever is done with it;
* `twins_reset` — **the robot that was reset and a new one are twins;**
* `observe_reset` — **what is seen of programs after a reset is what is seen of them on a new robot.**
-/

import RobotShorthand.Proofs.Run.Coupling
import RobotShorthand.Proofs.Run.Footprint

set_option relaxedAutoImplicit false
set_option autoImplicit false

namespace RobotShorthand

/-! ### Values of actuators -/

namespace Bank

/-- The value of an actuator, which is zero if it is not registered. -/
def value (b : Bank) (a : Address) : Binary64 := (b.get? a).getD (.zero false)

/-- Registering does not show in any value. -/
@[simp] theorem value_register (b : Bank) (a k : Address) : (b.register a).value k = b.value k := by
  by_cases h : k = a
  · subst h
    simp only [value, get?_register, Option.getD_some]
  · simp only [value, get?_register_of_ne b h]

theorem value_set (b : Bank) (a k : Address) (x : Binary64) :
    (b.set a x).value k = if k = a then x else b.value k := by
  by_cases h : k = a
  · subst h
    simp only [value, get?_set_self, Option.getD_some, if_pos]
  · simp only [value, get?_set_of_ne b x h, if_neg h]

@[simp] theorem value_stop (b : Bank) (a : Address) : b.stop.value a = .zero false := by
  rw [value, get?_stop]
  cases b.get? a <;> rfl

/-- The standard actuators of a new robot are at zero, and so is everything else. -/
@[simp] theorem value_initial (a : Address) : initial.value a = .zero false := by
  rw [value, get?_initial]
  split <;> rfl

end Bank

namespace Run

variable {ω : Type} {env : Surroundings ω}

/-! ### Twins -/

/-- **States that differ in nothing that an action looks at.**  Which actuators are registered may be
different, and so may trace, journal, steps and waits. -/
structure Twins (s t : RunState ω) : Prop where
  name_eq : t.robot.name = s.robot.name
  memory_eq : t.robot.memory = s.robot.memory
  heading_eq : t.robot.heading = s.robot.heading
  mode_eq : t.robot.mode = s.robot.mode
  value_eq : ∀ a, t.robot.actuators.value a = s.robot.actuators.value a
  world_eq : t.world = s.world

/-- Twins that have made the same steps and said the same lines since two given states. -/
structure Abreast (s₀ t₀ s t : RunState ω) : Prop extends Twins s t where
  exists_steps : ∃ n, s.steps = s₀.steps + n ∧ t.steps = t₀.steps + n
  exists_lines : ∃ lines : Array String,
    s.robot.trace = s₀.robot.trace ++ lines ∧ t.robot.trace = t₀.robot.trace ++ lines

/-- Twins are abreast of each other when nothing has been done yet. -/
theorem Twins.abreast {s t : RunState ω} (h : Twins s t) : Abreast s t s t :=
  { h with
    exists_steps := ⟨0, rfl, rfl⟩
    exists_lines := ⟨#[], (Array.append_empty ..).symm, (Array.append_empty ..).symm⟩ }

namespace Abreast

variable {s₀ t₀ s t : RunState ω}

/-! ### Single changes -/

theorem tick (h : Abreast s₀ t₀ s t) : Abreast s₀ t₀ s.tick t.tick :=
  { h with
    exists_steps := by
      obtain ⟨n, hs, ht⟩ := h.exists_steps
      exact ⟨n + 1, congrArg (· + 1) hs, congrArg (· + 1) ht⟩ }

/-- Twins say the same line, since they have one name. -/
theorem say (h : Abreast s₀ t₀ s t) (message : String) :
    Abreast s₀ t₀ (s.say message) (t.say message) :=
  { h with
    exists_lines := by
      obtain ⟨lines, hs, ht⟩ := h.exists_lines
      have hline : t.robot.line message = s.robot.line message := by
        unfold Robot.line
        rw [h.name_eq]
      refine ⟨lines.push (s.robot.line message), ?_, ?_⟩
      · show s.robot.trace.push _ = _
        rw [hs, Array.append_push]
      · show t.robot.trace.push _ = _
        rw [ht, hline, Array.append_push] }

theorem register (h : Abreast s₀ t₀ s t) (a : Address) :
    Abreast s₀ t₀ (s.withRobot (s.robot.register a)) (t.withRobot (t.robot.register a)) :=
  { h with
    value_eq := by
      intro k
      show (t.robot.actuators.register a).value k = (s.robot.actuators.register a).value k
      rw [Bank.value_register, Bank.value_register, h.value_eq] }

theorem setActuator (h : Abreast s₀ t₀ s t) (a : Address) (x : Binary64) :
    Abreast s₀ t₀ (s.withRobot (s.robot.setActuator a x)) (t.withRobot (t.robot.setActuator a x)) :=
  { h with
    value_eq := by
      intro k
      show (t.robot.actuators.set a x).value k = (s.robot.actuators.set a x).value k
      rw [Bank.value_set, Bank.value_set, h.value_eq] }

theorem stop (h : Abreast s₀ t₀ s t) :
    Abreast s₀ t₀ (s.withRobot s.robot.stop) (t.withRobot t.robot.stop) :=
  { h with
    value_eq := by
      intro a
      show t.robot.actuators.stop.value a = s.robot.actuators.stop.value a
      rw [Bank.value_stop, Bank.value_stop] }

end Abreast

/-- **Every single change keeps twins abreast.** -/
theorem congruent_abreast (s₀ t₀ : RunState ω) : Congruent (Abreast s₀ t₀) where
  memory_eq h := h.memory_eq
  heading_eq h := h.heading_eq
  world_eq h := h.world_eq
  tick h := h.tick
  say h := h.say
  world h _ := { h with world_eq := rfl }
  waits h _ := { h with }
  heading h _ := { h with heading_eq := rfl }
  remember h key reading := { h with memory_eq := congrArg (Memory.set · key reading) h.memory_eq }
  register h := h.register
  setActuator h := h.setActuator
  stop h := h.stop

/-! ### Programs -/

/-- The summary of a run tells only what the run has added. -/
theorem Abreast.summary_eq {s₀ t₀ s t : RunState ω} (h : Abreast s₀ t₀ s t) :
    (⟨s.steps - s₀.steps,
        (s.robot.trace.extract s₀.robot.trace.size s.robot.trace.size).toList⟩ : Summary)
      = ⟨t.steps - t₀.steps,
        (t.robot.trace.extract t₀.robot.trace.size t.robot.trace.size).toList⟩ := by
  obtain ⟨n, hs, ht⟩ := h.exists_steps
  obtain ⟨lines, hslines, htlines⟩ := h.exists_lines
  have hsteps : s.steps - s₀.steps = t.steps - t₀.steps := by omega
  have hlog : s.robot.trace.extract s₀.robot.trace.size s.robot.trace.size
      = t.robot.trace.extract t₀.robot.trace.size t.robot.trace.size := by
    rw [hslines, htlines, Array.size_append, Array.size_append, Array.extract_append_right,
      Array.extract_append_right]
  rw [hsteps, hlog]

/-- **A program has the same result for twins,** a summary or a fault, and leaves twins. -/
theorem Twins.runProgram {s t : RunState ω} (h : Twins s t) (env : Surroundings ω) (p : Program) :
    Matched Twins (Run.runProgram env p s) (Run.runProgram env p t) := by
  have hsaid := h.abreast.say ("=== Running program: " ++ p.name ++ " ===")
  have hblock := ((congruent_abreast s t).coupled env).executeBlock p.instructions hsaid
  unfold Run.runProgram
  rcases hs : executeBlock env p.instructions
    (s.say ("=== Running program: " ++ p.name ++ " ===")) with ⟨fault | u, s'⟩
  · obtain ⟨t', ht, hstates⟩ := hblock.exists_eq hs
    rw [ht]
    exact ⟨rfl, hstates.toTwins⟩
  · obtain ⟨t', ht, hstates⟩ := hblock.exists_eq hs
    have hcomplete := hstates.say ("=== Program complete: " ++ p.name ++ " ===")
    rw [ht]
    exact ⟨congrArg Except.ok hcomplete.summary_eq, hcomplete.toTwins⟩

/-! ### Observations -/

/-- What is seen of a program that is run: its result, and then memory, heading, mode and the standard
actuators of the robot. -/
structure Observation where
  result : Except Fault Summary
  memory : Memory
  heading : Number
  mode : Mode
  standard : List (Option Binary64)

/-- What is seen of an outcome. -/
def Observation.of (o : Outcome ω Summary) : Observation :=
  ⟨o.1, o.2.robot.memory, o.2.robot.heading, o.2.robot.mode,
    Bank.standard.map o.2.robot.actuators.get?⟩

/-- **What is seen of programs that are run one after another,** each in the state that the one before
it leaves, whether it completes or ends in a fault. -/
def observe (env : Surroundings ω) : List Program → RunState ω → List Observation
  | [], _ => []
  | p :: ps, s => .of (runProgram env p s) :: observe env ps (runProgram env p s).2

/-- Twins that have their standard actuators have them at the same values. -/
theorem Twins.map_get?_standard {s t : RunState ω} (h : Twins s t) (hs : s.robot.IsEquipped)
    (ht : t.robot.IsEquipped) :
    Bank.standard.map s.robot.actuators.get? = Bank.standard.map t.robot.actuators.get? := by
  refine List.map_congr_left ?_
  intro a ha
  obtain ⟨x, hx⟩ := hs a ha
  obtain ⟨y, hy⟩ := ht a ha
  have hvalue := h.value_eq a
  simp only [Bank.value, hx, hy, Option.getD_some] at hvalue
  rw [hx, hy, hvalue]

/-- The same is seen of the same programs on twins. -/
theorem Twins.observe_eq (env : Surroundings ω) (ps : List Program) {s t : RunState ω}
    (h : Twins s t) (hs : s.robot.IsEquipped) (ht : t.robot.IsEquipped) :
    observe env ps s = observe env ps t := by
  induction ps generalizing s t with
  | nil => rfl
  | cons p ps ih =>
      obtain ⟨hresult, hleft⟩ := h.runProgram env p
      have hs' := (footprint_of_program env p hs).isEquipped hs
      have ht' := (footprint_of_program env p ht).isEquipped ht
      have hfirst : Observation.of (Run.runProgram env p s)
          = Observation.of (Run.runProgram env p t) := by
        simp only [Observation.of, hresult, hleft.memory_eq, hleft.heading_eq, hleft.mode_eq,
          hleft.map_get?_standard hs' ht']
      rw [observe, observe, hfirst, ih hleft hs' ht']

/-! ### Histories -/

/-- What can be done with a robot. -/
inductive Operation
  /-- a program is run -/
  | run (p : Program)
  /-- instructions are run without the lines of a program -/
  | execute (is : List Instruction)
  /-- an actuator is addressed, and set as its kind takes values if one is given -/
  | address (kind : String) (number : Int) (value? : Option Number)
  /-- an actuator is addressed and given a value, whatever its kind takes -/
  | assign (a : Address) (value : Binary64)
  /-- a sensor is read -/
  | read (channel : Channel)
  /-- a reading is stored -/
  | remember (key : String) (reading : Number)
  /-- the memory is replaced -/
  | replace (memory : Memory)
  /-- the heading is set -/
  | head (heading : Number)
  /-- the mode is changed, if the transition is legal -/
  | transition (source target : Mode)
  /-- the mode is changed -/
  | setMode (mode : Mode)
  | say (message : String)
  | stop
  | reset

/-- What an operation leaves, whether it fails or not. -/
def Operation.perform (env : Surroundings ω) : Operation → RunState ω → RunState ω
  | run p, s => (runProgram env p s).2
  | execute is, s => (executeBlock env is s).2
  | address kind number value?, s => (Run.address kind number value? s).2
  | assign a value, s => s.withRobot ((s.robot.register a).setActuator a value)
  | read channel, s => (env.sample channel s).2
  | remember key reading, s => s.withRobot (s.robot.remember key reading)
  | replace memory, s => s.withRobot { s.robot with memory := memory }
  | head heading, s => s.withRobot { s.robot with heading := heading }
  | transition source target, s =>
      match s.robot.transition source target with
      | .ok r => s.withRobot r
      | .error _ => s
  | setMode mode, s => s.withRobot (s.robot.setMode mode)
  | say message, s => s.say message
  | stop, s => s.withRobot s.robot.stop
  | reset, s => s.withRobot s.robot.reset

/-- **A state that can be reached** with a robot that was new under a name. -/
inductive Reached (env : Surroundings ω) (name : String) : RunState ω → Prop
  | new (world : ω) : Reached env name (.start (.new name) world)
  | perform {s : RunState ω} (operation : Operation) :
      Reached env name s → Reached env name (operation.perform env s)

/-- A robot that has its name and its standard actuators. -/
structure Intact (name : String) (r : Robot) : Prop where
  name_eq : r.name = name
  isEquipped : r.IsEquipped

namespace Intact

variable {name : String} {r : Robot}

theorem footprint {Q : Instruction → Prop} {r' : Robot} (h : Intact name r) (hf : Footprint Q r r') :
    Intact name r' := ⟨hf.name_eq.trans h.name_eq, hf.isEquipped h.isEquipped⟩

theorem register (h : Intact name r) (a : Address) : Intact name (r.register a) where
  name_eq := h.name_eq
  isEquipped := by
    intro k hk
    obtain ⟨x, hx⟩ := h.isEquipped k hk
    exact Bank.exists_get?_register r.actuators a hx

theorem setActuator (h : Intact name r) (a : Address) (x : Binary64) :
    Intact name (r.setActuator a x) where
  name_eq := h.name_eq
  isEquipped := by
    intro k hk
    obtain ⟨y, hy⟩ := h.isEquipped k hk
    exact Bank.exists_get?_set r.actuators a x hy

theorem stop (h : Intact name r) : Intact name r.stop where
  name_eq := h.name_eq
  isEquipped := by
    intro k hk
    obtain ⟨x, hx⟩ := h.isEquipped k hk
    exact Bank.exists_get?_stop r.actuators hx

theorem address {s : RunState ω} (h : Intact name s.robot) (kind : String) (number : Int)
    (value? : Option Number) : Intact name (Run.address kind number value? s).2.robot := by
  unfold Run.address
  cases ActuatorKind.ofName? kind with
  | none => exact h
  | some k =>
      have hregister : Intact name (s.robot.register ⟨k, number⟩) := h.register _
      cases value? with
      | none => exact hregister
      | some value =>
          simp only
          cases value.toFloat? with
          | none => exact hregister
          | some given =>
              simp only
              cases ((s.robot.register ⟨k, number⟩).actuators.actuator ⟨k, number⟩).accept? given with
              | none => exact hregister
              | some x => exact hregister.setActuator _ x

theorem transition (h : Intact name r) {source target : Mode} {r' : Robot}
    (hr : r.transition source target = .ok r') : Intact name r' := by
  obtain ⟨_, rfl⟩ := (Robot.transition_eq_ok_iff r r' source target).1 hr
  exact ⟨h.name_eq, h.isEquipped⟩

/-- **Whatever is done with a robot,** it keeps its name and its standard actuators. -/
theorem perform {s : RunState ω} (h : Intact name s.robot) (operation : Operation) :
    Intact name (operation.perform env s).robot := by
  cases operation with
  | run p => exact h.footprint (footprint_of_program env p h.isEquipped)
  | execute is => exact h.footprint (footprint_executeBlock env is h.isEquipped)
  | address kind number value? => exact h.address kind number value?
  | assign a value => exact (h.register a).setActuator a value
  | read channel =>
      obtain ⟨world, hworld⟩ := exists_world_sample env channel s
      rw [Operation.perform, hworld]
      exact h
  | remember key reading => exact ⟨h.name_eq, h.isEquipped⟩
  | replace memory => exact ⟨h.name_eq, h.isEquipped⟩
  | head heading => exact ⟨h.name_eq, h.isEquipped⟩
  | transition source target =>
      rw [Operation.perform]
      cases hr : s.robot.transition source target with
      | error refusal => exact h
      | ok r => exact h.transition hr
  | setMode mode => exact ⟨h.name_eq, h.isEquipped⟩
  | say message => exact ⟨h.name_eq, h.isEquipped⟩
  | stop => exact h.stop
  | reset => exact ⟨h.name_eq, h.stop.isEquipped⟩

end Intact

/-- A robot keeps its name and its standard actuators in all states that can be reached. -/
theorem Reached.intact {name : String} {s : RunState ω} (h : Reached env name s) :
    Intact name s.robot := by
  induction h with
  | new world => exact ⟨rfl, Robot.isEquipped_new name⟩
  | perform operation _ ih => exact ih.perform operation

/-! ### Renewal -/

/-- **The robot that was reset and a new one are twins.** -/
theorem twins_reset {name : String} {s : RunState ω} (hname : s.robot.name = name) :
    Twins (s.withRobot s.robot.reset) (.start (.new name) s.world) where
  name_eq := hname.symm
  memory_eq := rfl
  heading_eq := rfl
  mode_eq := rfl
  value_eq := by
    intro a
    show Bank.initial.value a = s.robot.actuators.stop.value a
    rw [Bank.value_initial, Bank.value_stop]
  world_eq := rfl

/-- **A robot that is reset is as good as new.**  Whatever has been done with a robot, once it is reset
the same is seen of all programs as on a new robot of its name in the same world: summaries and faults,
and after each program memory, heading, mode and the standard actuators.  The actuators that had been
registered are still there, at zero. -/
theorem observe_reset {name : String} {s : RunState ω} (h : Reached env name s) (ps : List Program) :
    observe env ps (s.withRobot s.robot.reset) = observe env ps (.start (.new name) s.world)
      ∧ ∀ a, s.robot.reset.actuators.get? a = (s.robot.actuators.get? a).map fun _ => .zero false := by
  have hs : Intact name s.robot := h.intact
  have htwins : Twins (s.withRobot s.robot.reset) (.start (.new name) s.world) :=
    twins_reset hs.name_eq
  refine ⟨?_, Bank.get?_stop s.robot.actuators⟩
  exact htwins.observe_eq env ps hs.stop.isEquipped (Robot.isEquipped_new name)

/-- A robot that has set a servo of its own, and has turned before a sensor failed, is as good as new
once it is reset, for the program that failed and for one that halts; the servo stays, at zero. -/
theorem observe_reset_wave :
    let wave : Program := ⟨"wave", [.turn (.int 90), .sense "light" 1 "right"]⟩
    let rest : Program := ⟨"rest", [.actuate "led" 0 100, .halt]⟩
    let env := Bench.surroundings
    let s₁ : RunState Bench :=
      Operation.perform env (.assign ⟨.servo, 7⟩ 45) (.start (.new "Coco") (.ofSensors (.scripted [])))
    let s₂ : RunState Bench := Operation.perform env (.run wave) s₁
    Reached env "Coco" s₂
      ∧ observe env [wave, rest] (s₂.withRobot s₂.robot.reset)
          = observe env [wave, rest] (.start (.new "Coco") s₂.world)
      ∧ s₂.robot.reset.actuators.get? ⟨.servo, 7⟩ = some (.zero false) := by
  intro wave rest env s₁ s₂
  have hs₁ : Reached env "Coco" s₁ := .perform _ (.new _)
  have hs₂ : Reached env "Coco" s₂ := .perform _ hs₁
  obtain ⟨hseen, hstopped⟩ := observe_reset hs₂ [wave, rest]
  refine ⟨hs₂, hseen, ?_⟩
  -- the servo is registered before the run, and the run takes no actuator away
  have hset : s₁.robot.actuators.get? ⟨.servo, 7⟩ = some 45 := Bank.get?_set_self _ _ _
  obtain ⟨y, hy⟩ :=
    (footprint_of_program env wave hs₁.intact.isEquipped).registered ⟨.servo, 7⟩ 45 hset
  rw [hstopped]
  show (s₂.robot.actuators.get? ⟨.servo, 7⟩).map _ = _
  rw [show s₂.robot.actuators.get? ⟨.servo, 7⟩ = some y from hy, Option.map_some]

end Run

end RobotShorthand
