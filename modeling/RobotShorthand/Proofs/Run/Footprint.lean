/-
**The footprint of a run.**

How far a run reaches can be read off the tree of its program, without running it.  Name and mode of the
robot are never touched.  The trace only grows, and the journal by the same lines.  A reading is stored
only under the keys of the readings in the tree, a heading changes only by a turn, and an actuator only
where the tree addresses it, halts, or moves the robot.

All this is said of two robots by one relation, which holds of no change at all, of one change after
another, and of every single change that an action makes.  An action makes only the changes that its own
instruction allows, and a run enters only instructions of the tree; so what the tree allows is a bound
for the run, whether it completes or ends in a fault.

A move sets the two motors and would register them if they were missing.  They never are: a robot begins
with its standard actuators, and none is ever taken away.

Main definitions:

* `Robot.IsEquipped` — a robot that has the actuators that every robot has;
* `Addresses` — an actuator that an instruction of a class addresses;
* `Footprint` — **what instructions of a class may leave of a robot;**
* `Occurs` — the instructions of a block and of all blocks in it.

Main results:

* `Footprint.refl`, `Footprint.trans` — no change, and one change after another;
* `footprint_enter` — **an action makes the changes that its instruction allows and no others;**
* `footprint_executeBlock` — a run makes the changes that its instructions allow;
* `footprint_runProgram` — **the footprint of a program,** and its log.
-/

import RobotShorthand.Proofs.Run.Faults

set_option relaxedAutoImplicit false
set_option autoImplicit false

namespace RobotShorthand

/-! ### Standard actuators -/

/-- A robot that has the actuators that every robot has. -/
def Robot.IsEquipped (r : Robot) : Prop := ∀ a ∈ Bank.standard, ∃ x, r.actuators.get? a = some x

/-- A new robot has its standard actuators, all of them at zero. -/
theorem Robot.get?_new (name : String) {a : Address} (h : a ∈ Bank.standard) :
    (Robot.new name).actuators.get? a = some (.zero false) :=
  (Bank.get?_initial a).trans (if_pos h)

theorem Robot.isEquipped_new (name : String) : (Robot.new name).IsEquipped :=
  fun _ ha => ⟨_, Robot.get?_new name ha⟩

namespace Run

variable {ω : Type}

/-! ### Footprints -/

/-- An actuator that an instruction of a class addresses, by its kind and its number. -/
def Addresses (Q : Instruction → Prop) (a : Address) : Prop :=
  ∃ actuator value, Q (.actuate a.kind.name actuator value) ∧ a.number = actuator.toInt

/-- The actuators that a move sets. -/
def IsDriven (a : Address) : Prop := a = ⟨.motor, 0⟩ ∨ a = ⟨.motor, 1⟩

/-- **What instructions of a class may leave of a robot.** -/
structure Footprint (Q : Instruction → Prop) (r r' : Robot) : Prop where
  /-- the name stays -/
  name_eq : r'.name = r.name
  /-- the mode stays -/
  mode_eq : r'.mode = r.mode
  /-- the same lines are added to the trace and to the journal, each with the name in front -/
  exists_lines : ∃ lines : Array String, r'.trace = r.trace ++ lines
    ∧ r'.journal = r.journal ++ lines
    ∧ ∀ line ∈ lines, ∃ message, line = "[" ++ r.name ++ "] " ++ message
  /-- no key of the memory is removed -/
  mem_keys : ∀ key ∈ r.memory.keys, key ∈ r'.memory.keys
  /-- a reading changes only where one is stored -/
  memory : ∀ key, r'.memory.get? key ≠ r.memory.get? key →
    ∃ kind sensor, Q (.sense kind sensor key)
  /-- no actuator is removed -/
  registered : ∀ a x, r.actuators.get? a = some x → ∃ y, r'.actuators.get? a = some y
  /-- an actuator is new only where one is addressed -/
  addressed : ∀ a y, r.actuators.get? a = none → r'.actuators.get? a = some y → Addresses Q a
  /-- an actuator changes only where it is addressed, in a halt, or as a motor in a move -/
  actuators : ∀ a x y, r.actuators.get? a = some x → r'.actuators.get? a = some y → y ≠ x →
    Q .halt ∨ Addresses Q a ∨ IsDriven a ∧ ∃ direction distance, Q (.move direction distance)
  /-- the heading changes only in a turn -/
  heading : r'.heading ≠ r.heading → ∃ degrees, Q (.turn degrees)

namespace Footprint

variable {Q : Instruction → Prop}

theorem refl (r : Robot) : Footprint Q r r where
  name_eq := rfl
  mode_eq := rfl
  exists_lines := by
    refine ⟨#[], (Array.append_empty ..).symm, (Array.append_empty ..).symm, ?_⟩
    intro line hline
    exact absurd hline (Array.not_mem_empty line)
  mem_keys := fun _ hkey => hkey
  memory := fun _ h => absurd rfl h
  registered := fun _ x hx => ⟨x, hx⟩
  addressed := fun a y hnone hsome => by simp [hnone] at hsome
  actuators := fun a x y hx hy hne => absurd (Option.some.inj (hy.symm.trans hx)) hne
  heading := fun h => absurd rfl h

/-- **One change after another.** -/
theorem trans {r r' r'' : Robot} (h : Footprint Q r r') (h' : Footprint Q r' r'') :
    Footprint Q r r'' where
  name_eq := h'.name_eq.trans h.name_eq
  mode_eq := h'.mode_eq.trans h.mode_eq
  exists_lines := by
    obtain ⟨lines, htrace, hjournal, hlines⟩ := h.exists_lines
    obtain ⟨lines', htrace', hjournal', hlines'⟩ := h'.exists_lines
    refine ⟨lines ++ lines', ?_, ?_, ?_⟩
    · rw [htrace', htrace, Array.append_assoc]
    · rw [hjournal', hjournal, Array.append_assoc]
    · intro line hline
      rcases Array.mem_append.1 hline with hfirst | hsecond
      · exact hlines line hfirst
      · rw [← h.name_eq]
        exact hlines' line hsecond
  mem_keys := fun key hkey => h'.mem_keys key (h.mem_keys key hkey)
  memory := by
    intro key hne
    by_cases hfirst : r'.memory.get? key = r.memory.get? key
    · exact h'.memory key (hfirst ▸ hne)
    · exact h.memory key hfirst
  registered := by
    intro a x hx
    obtain ⟨y, hy⟩ := h.registered a x hx
    exact h'.registered a y hy
  addressed := by
    intro a z hnone hz
    cases hy : r'.actuators.get? a with
    | none => exact h'.addressed a z hy hz
    | some y => exact h.addressed a y hnone hy
  actuators := by
    intro a x z hx hz hne
    obtain ⟨y, hy⟩ := h.registered a x hx
    by_cases hyx : y = x
    · exact h'.actuators a y z hy hz (hyx ▸ hne)
    · exact h.actuators a x y hx hy hyx
  heading := by
    intro hne
    by_cases hfirst : r'.heading = r.heading
    · exact h'.heading (hfirst ▸ hne)
    · exact h.heading hfirst

/-- Actuators stay registered, the standard ones among them. -/
theorem isEquipped {r r' : Robot} (h : Footprint Q r r') (hr : r.IsEquipped) : r'.IsEquipped := by
  intro a ha
  obtain ⟨x, hx⟩ := hr a ha
  exact h.registered a x hx

/-! ### Single changes -/

/-- A line is said. -/
theorem say (r : Robot) (message : String) : Footprint Q r (r.say message) :=
  { refl r with
    exists_lines := by
      refine ⟨#[r.line message], Array.push_eq_append, Array.push_eq_append, ?_⟩
      intro line hline
      exact ⟨message, Array.eq_of_mem_singleton hline⟩ }

/-- The heading is changed by a turn. -/
theorem turn {r : Robot} {degrees : Number} (hQ : Q (.turn degrees)) (heading : Number) :
    Footprint Q r { r with heading := heading } :=
  { refl r with heading := fun _ => ⟨degrees, hQ⟩ }

/-- A reading is stored. -/
theorem remember {r : Robot} {kind key : String} {sensor : Int8} (hQ : Q (.sense kind sensor key))
    (reading : Number) : Footprint Q r (r.remember key reading) :=
  { refl r with
    mem_keys := by
      intro k hk
      show k ∈ (r.memory.set key reading).keys
      rw [Memory.keys_set]
      split
      · exact hk
      · exact List.mem_append_left _ hk
    memory := by
      intro k hne
      by_cases h : k = key
      · subst h
        exact ⟨kind, sensor, hQ⟩
      · exact absurd (Memory.get?_set_of_ne r.memory reading h) hne }

/-- An actuator that is addressed may be registered. -/
theorem register {r : Robot} {a : Address} (ha : Addresses Q a) : Footprint Q r (r.register a) :=
  { refl r with
    registered := by
      intro k x hx
      exact Bank.exists_get?_register r.actuators a hx
    addressed := by
      intro k y hnone hsome
      by_cases h : k = a
      · subst h
        exact ha
      · rw [show (r.register a).actuators.get? k = none from
          (Bank.get?_register_of_ne r.actuators h).trans hnone] at hsome
        exact absurd hsome (by simp)
    actuators := by
      intro k x y hx hy hne
      by_cases h : k = a
      · subst h
        exact .inr (.inl ha)
      · have hkept : (r.register a).actuators.get? k = some x :=
          (Bank.get?_register_of_ne r.actuators h).trans hx
        exact absurd (Option.some.inj (hy.symm.trans hkept)) hne }

/-- An actuator that is registered may be set where a change is allowed. -/
theorem setActuator {r : Robot} {a : Address} (hr : ∃ x, r.actuators.get? a = some x)
    (ha : Q .halt ∨ Addresses Q a ∨ IsDriven a ∧ ∃ direction distance, Q (.move direction distance))
    (value : Binary64) : Footprint Q r (r.setActuator a value) :=
  { refl r with
    registered := by
      intro k x hx
      exact Bank.exists_get?_set r.actuators a value hx
    addressed := by
      intro k y hnone hsome
      by_cases h : k = a
      · subst h
        obtain ⟨x, hx⟩ := hr
        exact absurd (hnone.symm.trans hx) (by simp)
      · rw [show (r.setActuator a value).actuators.get? k = none from
          (Bank.get?_set_of_ne r.actuators value h).trans hnone] at hsome
        exact absurd hsome (by simp)
    actuators := by
      intro k x y hx hy hne
      by_cases h : k = a
      · subst h
        exact ha
      · have hkept : (r.setActuator a value).actuators.get? k = some x :=
          (Bank.get?_set_of_ne r.actuators value h).trans hx
        exact absurd (Option.some.inj (hy.symm.trans hkept)) hne }

/-- All actuators are set to zero by a halt. -/
theorem stop {r : Robot} (hQ : Q .halt) : Footprint Q r r.stop :=
  { refl r with
    registered := by
      intro a x hx
      exact Bank.exists_get?_stop r.actuators hx
    addressed := by
      intro a y hnone hsome
      rw [show r.stop.actuators.get? a = none by
        show r.actuators.stop.get? a = _
        rw [Bank.get?_stop, hnone, Option.map_none]] at hsome
      exact absurd hsome (by simp)
    actuators := fun _ _ _ _ _ _ => .inl hQ }

/-- The motors are set for a move. -/
theorem drive {r : Robot} (hr : r.IsEquipped) {direction : Direction} {distance : Nat}
    (hQ : Q (.move direction distance)) : Footprint Q r (r.drive direction) := by
  have hleft : Footprint Q r (r.setActuator ⟨.motor, 0⟩ (Robot.movePowers direction).1) :=
    setActuator (hr ⟨.motor, 0⟩ (by decide)) (.inr (.inr ⟨.inl rfl, direction, distance, hQ⟩)) _
  refine hleft.trans ?_
  exact setActuator (hleft.isEquipped hr ⟨.motor, 1⟩ (by decide))
    (.inr (.inr ⟨.inr rfl, direction, distance, hQ⟩)) _

end Footprint

/-! ### Actions -/

section Actions

variable {env : Surroundings ω} {Q : Instruction → Prop}

theorem footprint_turn {degrees : Number} (hQ : Q (.turn degrees)) (s : RunState ω) :
    Footprint Q s.robot (turn degrees s).2.robot := by
  have hsaid : Footprint Q s.robot (s.say ("Turning " ++ degrees.text ++ " degrees")).robot :=
    .say s.robot _
  rcases turn_cases degrees s with ⟨heading, _, h⟩ | ⟨_, h⟩
  · rw [h]
    exact hsaid.trans (.turn hQ _)
  · rw [h]
    exact hsaid

theorem footprint_sense {kind target : String} {sensor : Int8} (hQ : Q (.sense kind sensor target))
    (s : RunState ω) : Footprint Q s.robot (sense env kind sensor target s).2.robot := by
  rcases sense_cases env kind sensor target s with ⟨fault, world, _, h⟩ | ⟨x, world, _, h⟩
  · rw [h]
    exact .refl s.robot
  · rw [h]
    exact (Footprint.remember hQ (.float x)).trans (.say _ _)

theorem footprint_actuate {kind : String} {actuator : Int8} {value : Binary64}
    (hQ : Q (.actuate kind actuator value)) (s : RunState ω) :
    Footprint Q s.robot (actuate kind actuator value s).2.robot := by
  rcases actuate_cases kind actuator value s with ⟨_, h⟩ | ⟨k, hkind, hset⟩
  · rw [h]
    exact .refl s.robot
  · have ha : Addresses Q ⟨k, actuator.toInt⟩ := by
      refine ⟨actuator, value, ?_, rfl⟩
      rw [name_of_ofName? hkind]
      exact hQ
    have hregister : Footprint Q s.robot (s.robot.register ⟨k, actuator.toInt⟩) := .register ha
    rcases hset with ⟨_, h⟩ | ⟨x, _, h⟩
    · rw [h]
      exact hregister
    · rw [h]
      refine (hregister.trans ?_).trans (.say _ _)
      exact .setActuator ⟨_, Bank.get?_register s.robot.actuators _⟩ (.inr (.inl ha)) x

theorem footprint_test (predicate : Predicate) (s : RunState ω) :
    Footprint Q s.robot (env.test predicate s).2.robot := by
  obtain ⟨world, h⟩ := exists_world_test env predicate s
  rw [h]
  exact .refl s.robot

/-- **An action makes the changes that its instruction allows and no others.** -/
theorem footprint_enter {i : Instruction} (hQ : Q i) {s : RunState ω} (hs : s.robot.IsEquipped) :
    Footprint Q s.robot (enter env i s).2.robot := by
  cases i with
  | move direction distance =>
      have hsaid : Footprint Q s.robot
          (s.robot.say ("Moving " ++ direction.name ++ " for " ++ toString distance ++ " units")) :=
        .say s.robot _
      exact hsaid.trans (.drive (hsaid.isEquipped hs) hQ)
  | turn degrees => simpa only [enter, closed_snd] using footprint_turn hQ s
  | sense kind sensor target => simpa only [enter, closed_snd] using footprint_sense hQ s
  | actuate kind actuator value => simpa only [enter, closed_snd] using footprint_actuate hQ s
  | cond predicate thenBranch elseBranch =>
      have htest : Footprint Q s.robot (env.test predicate s).2.robot := footprint_test predicate s
      simp only [enter]
      rcases ht : env.test predicate s with ⟨fault | (_ | _), s'⟩ <;> rwa [ht] at htest
  | loop count body => exact .say s.robot _
  | repeatWhile predicate body => exact .refl s.robot
  | parallel branches => exact .say s.robot _
  | wait milliseconds => exact .say s.robot _
  | log message => exact .say s.robot message
  | halt => exact (Footprint.stop hQ).trans (.say _ _)
  | foreign item => exact .refl s.robot

/-! ### Runs -/

theorem kept_footprint (env : Surroundings ω) (Q : Instruction → Prop) :
    Kept env Q (fun s o => s.robot.IsEquipped → Footprint Q s.robot o.2.robot) where
  done s _ := .refl s.robot
  next h h' hs := (h hs).trans (h' ((h hs).isEquipped hs))
  enter _ s hi hs := @footprint_enter ω env Q _ hi s.tick hs
  line _ s _ := .say s.robot _
  ask predicate _ s _ _ := footprint_test predicate s

/-- An instruction of a block, or of the blocks in it. -/
def Occurs (is : List Instruction) (i : Instruction) : Prop := ∃ depth, (i, depth) ∈ walkBlock 0 is

theorem throughout_occurs (is : List Instruction) : Throughout (Occurs is) is := by
  intro e he
  exact ⟨e.2, he⟩

/-- A run makes the changes that the instructions of its block allow. -/
theorem footprint_executeBlock (env : Surroundings ω) (is : List Instruction) {s : RunState ω}
    (hs : s.robot.IsEquipped) :
    Footprint (Occurs is) s.robot (executeBlock env is s).2.robot :=
  (kept_footprint env (Occurs is)).executeBlock (throughout_occurs is) s hs

/-- A program says a line, runs its instructions, and says another line if they complete. -/
theorem footprint_of_program (env : Surroundings ω) (p : Program) {s : RunState ω}
    (hs : s.robot.IsEquipped) :
    Footprint (Occurs p.instructions) s.robot (runProgram env p s).2.robot := by
  have hsaid : Footprint (Occurs p.instructions) s.robot
      (s.say ("=== Running program: " ++ p.name ++ " ===")).robot := .say s.robot _
  have hrun := hsaid.trans (footprint_executeBlock env p.instructions (hsaid.isEquipped hs))
  unfold runProgram
  rcases hblock : executeBlock env p.instructions
    (s.say ("=== Running program: " ++ p.name ++ " ===")) with ⟨fault | u, t⟩
  · rwa [hblock] at hrun
  · rw [hblock] at hrun
    exact hrun.trans (.say t.robot _)

/-- The log of a program that completes is what it added to the trace. -/
theorem trace_eq_append_log {env : Surroundings ω} {p : Program} {s s' : RunState ω}
    {summary : Summary} (hs : s.robot.IsEquipped)
    (h : runProgram env p s = (.ok summary, s')) :
    s'.robot.trace = s.robot.trace ++ summary.log.toArray := by
  obtain ⟨lines, htrace, _⟩ := (footprint_of_program env p hs).exists_lines
  rw [h] at htrace
  obtain ⟨t, _, _, _, hlog⟩ := executeBlock_of_runProgram h
  rw [hlog, htrace, Array.size_append, Array.extract_append_right]
  simp

/-- **The footprint of a program,** whether it completes or ends in a fault: the run changes of the robot
only what an instruction of the tree allows, and adds lines to trace and journal.  The log of a program
that completes is exactly what was added. -/
theorem footprint_runProgram (env : Surroundings ω) (p : Program) {s : RunState ω}
    (hs : s.robot.IsEquipped) :
    Footprint (Occurs p.instructions) s.robot (runProgram env p s).2.robot
      ∧ ∀ summary, (runProgram env p s).1 = .ok summary →
          (runProgram env p s).2.robot.trace = s.robot.trace ++ summary.log.toArray := by
  refine ⟨footprint_of_program env p hs, ?_⟩
  intro summary hsummary
  exact trace_eq_append_log hs (Prod.ext hsummary rfl)

/-- A program that sets a light and reads a sensor in a conditional loop, and ends in a fault of the
sensor: heading, mode, motors and every other key are as they were. -/
theorem footprint_runProgram_wink :
    let p : Program := ⟨"wink", [.repeatWhile (.external 0)
      [.cond .leftBrighter [.actuate "led" 5 100] [.sense "light" 1 "right"]]]⟩
    let s : RunState Bench := .start (.new "Coco") ⟨.scripted [3], #[.scripted [true, true]]⟩
    let r := (runProgram Bench.surroundings p s).2.robot
    s.robot.IsEquipped ∧ r.mode = .idle ∧ r.heading = .float 0 ∧ r.memory.get? "left" = none
      ∧ r.actuators.get? ⟨.motor, 0⟩ = some (.zero false) := by
  intro p s r
  have hs : s.robot.IsEquipped := Robot.isEquipped_new "Coco"
  have hprint : Footprint (Occurs p.instructions) s.robot r :=
    (footprint_runProgram Bench.surroundings p hs).1
  refine ⟨hs, hprint.mode_eq, ?_, ?_, ?_⟩
  · apply Classical.byContradiction
    intro hne
    obtain ⟨degrees, depth, hmem⟩ := hprint.heading hne
    simp [p, walkBlock, Instruction.walk] at hmem
  · apply Classical.byContradiction
    intro hne
    obtain ⟨kind, sensor, depth, hmem⟩ := hprint.memory "left" hne
    simp [p, walkBlock, Instruction.walk] at hmem
  · have hzero : s.robot.actuators.get? ⟨.motor, 0⟩ = some (.zero false) :=
      Robot.get?_new "Coco" (by decide)
    obtain ⟨y, hy⟩ := hprint.registered ⟨.motor, 0⟩ (.zero false) hzero
    apply Classical.byContradiction
    intro hne
    have hmoved : y ≠ .zero false := by
      rintro rfl
      exact hne hy
    rcases hprint.actuators ⟨.motor, 0⟩ (.zero false) y hzero hy hmoved with
      ⟨depth, hmem⟩ | ⟨actuator, value, ⟨depth, hmem⟩, _⟩ | ⟨_, direction, distance, depth, hmem⟩
    · simp [p, walkBlock, Instruction.walk] at hmem
    · simp [p, walkBlock, Instruction.walk, ActuatorKind.name] at hmem
    · simp [p, walkBlock, Instruction.walk] at hmem

end Actions

end Run

end RobotShorthand
