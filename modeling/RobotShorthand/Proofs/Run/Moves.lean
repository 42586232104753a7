/-
**What a move of the machine can do.**

The machine has few moves: it enters an instruction, it says the line of an iteration, it asks the
predicate of a conditional loop, it drops a frame.  Whatever is true of single moves, and stays true when moves follow
one another, is true of whole runs.  This module proves that rule, and says once what each action can
lead to, so that a property of runs is a property of actions.

The rule holds relative to a class of instructions.  A run never leaves the program: every
instruction that it enters is one of the walk, so a move has to be looked at only for those.

Main definitions:

* `Throughout` — every instruction of a block is of a class;
* `Supply.Within`, `Frame.Within` — the same of what follows a frame, and of all that it has to do;
* `withoutValue` — an outcome without its value;
* `Kept` — **what every move keeps,** on instructions of a class;
* `Extends` — a state of the same robot with more lines in its trace.

Main results:

* `Throughout.opens` — what an instruction opens is part of its walk;
* `throughout_iff` — the depth at which a walk begins does not matter;
* `turn_cases`, `sense_cases`, `actuate_cases` — all that the actions with a fault can lead to;
* `part_of_enter` — what nothing but turns and sensors change;
* `Kept.execute` — **what every move keeps is kept by every run;**
* `extends_executeBlock` — **a run adds lines to the trace and takes none away,** whether it ends in
  a fault or not;
* `executeBlock_of_runProgram` — what the summary of a run tells of its instructions.
-/

import RobotShorthand.Program.Walk
import RobotShorthand.Run.Machine

set_option relaxedAutoImplicit false
set_option autoImplicit false

namespace RobotShorthand

namespace Run

variable {ω : Type}

/-! ### Every instruction of a walk -/

mutual

/-- The depth at which a walk begins does not matter for its instructions. -/
theorem map_fst_walk (depth depth' : Nat) : ∀ i : Instruction,
    (i.walk depth).map Prod.fst = (i.walk depth').map Prod.fst
  | .cond _ thenBranch elseBranch => by
      simp only [Instruction.walk, List.map_cons, List.map_append,
        map_fst_walkBlock (depth + 1) (depth' + 1) thenBranch,
        map_fst_walkBlock (depth + 1) (depth' + 1) elseBranch]
  | .loop _ body => by
      simp only [Instruction.walk, List.map_cons,
        map_fst_walkBlock (depth + 1) (depth' + 1) body]
  | .repeatWhile _ body => by
      simp only [Instruction.walk, List.map_cons,
        map_fst_walkBlock (depth + 1) (depth' + 1) body]
  | .parallel branches => by
      simp only [Instruction.walk, List.map_cons,
        map_fst_walkBranches (depth + 1) (depth' + 1) branches]
  | .move .. => rfl
  | .turn _ => rfl
  | .sense .. => rfl
  | .actuate .. => rfl
  | .wait _ => rfl
  | .log _ => rfl
  | .halt => rfl
  | .foreign _ => rfl

theorem map_fst_walkBlock (depth depth' : Nat) : ∀ is : List Instruction,
    (walkBlock depth is).map Prod.fst = (walkBlock depth' is).map Prod.fst
  | [] => rfl
  | i :: is => by
      simp only [walkBlock, List.map_append, map_fst_walk depth depth' i,
        map_fst_walkBlock depth depth' is]

theorem map_fst_walkBranches (depth depth' : Nat) : ∀ bs : List (List Instruction),
    (walkBranches depth bs).map Prod.fst = (walkBranches depth' bs).map Prod.fst
  | [] => rfl
  | b :: bs => by
      simp only [walkBranches, List.map_append, map_fst_walkBlock depth depth' b,
        map_fst_walkBranches depth depth' bs]

end

theorem walkBlock_singleton (depth : Nat) (i : Instruction) : walkBlock depth [i] = i.walk depth := by
  rw [walkBlock, walkBlock, List.append_nil]

theorem walkBlock_flatten (depth : Nat) (bs : List (List Instruction)) :
    walkBlock depth bs.flatten = walkBranches depth bs := by
  induction bs with
  | nil => rfl
  | cons b bs ih => rw [List.flatten_cons, walkBlock_append, ih, walkBranches]

/-- **Every instruction of a block,** and of the blocks in it, is of a class. -/
def Throughout (Q : Instruction → Prop) (is : List Instruction) : Prop :=
  ∀ e ∈ walkBlock 0 is, Q e.1

section Throughout

variable {Q : Instruction → Prop}

/-- The walk of a block may begin at any depth. -/
theorem throughout_iff (depth : Nat) {is : List Instruction} :
    Throughout Q is ↔ ∀ e ∈ walkBlock depth is, Q e.1 := by
  have hmap (depth : Nat) :
      (∀ e ∈ walkBlock depth is, Q e.1) ↔ ∀ i ∈ (walkBlock depth is).map Prod.fst, Q i :=
    List.forall_mem_map.symm
  rw [hmap, map_fst_walkBlock depth 0, ← hmap]
  rfl

theorem throughout_append {is js : List Instruction} :
    Throughout Q (is ++ js) ↔ Throughout Q is ∧ Throughout Q js := by
  unfold Throughout
  rw [walkBlock_append, List.forall_mem_append]

theorem throughout_cons {i : Instruction} {is : List Instruction} :
    Throughout Q (i :: is) ↔ Throughout Q [i] ∧ Throughout Q is :=
  @throughout_append Q [i] is

theorem throughout_nil : Throughout Q [] := fun _ he => absurd he List.not_mem_nil

/-- An instruction comes first in its walk. -/
theorem Throughout.head {i : Instruction} (h : Throughout Q [i]) : Q i := by
  have hmem : (i, 0) ∈ walkBlock 0 [i] := by
    rw [walkBlock_singleton]
    cases i <;> simp [Instruction.walk]
  exact h (i, 0) hmem

/-! A class holds throughout an instruction if it holds of the instruction and throughout its blocks. -/

variable {predicate : Predicate} {count : Nat} {thenBranch elseBranch body : List Instruction}
  {branches : List (List Instruction)}

theorem throughout_cond :
    Throughout Q [.cond predicate thenBranch elseBranch]
      ↔ Q (.cond predicate thenBranch elseBranch) ∧ Throughout Q thenBranch
        ∧ Throughout Q elseBranch := by
  rw [@throughout_iff Q 1 thenBranch, @throughout_iff Q 1 elseBranch, Throughout,
    walkBlock_singleton, Instruction.walk, List.forall_mem_cons, List.forall_mem_append]

theorem throughout_loop :
    Throughout Q [.loop count body] ↔ Q (.loop count body) ∧ Throughout Q body := by
  rw [@throughout_iff Q 1 body, Throughout, walkBlock_singleton, Instruction.walk,
    List.forall_mem_cons]

theorem throughout_repeatWhile :
    Throughout Q [.repeatWhile predicate body]
      ↔ Q (.repeatWhile predicate body) ∧ Throughout Q body := by
  rw [@throughout_iff Q 1 body, Throughout, walkBlock_singleton, Instruction.walk,
    List.forall_mem_cons]

theorem throughout_parallel :
    Throughout Q [.parallel branches]
      ↔ Q (.parallel branches) ∧ Throughout Q branches.flatten := by
  rw [@throughout_iff Q 1 branches.flatten, walkBlock_flatten, Throughout, walkBlock_singleton,
    Instruction.walk, List.forall_mem_cons]

end Throughout

/-- Every instruction of what follows a frame is of a class, and so is the conditional loop whose body
it is. -/
def Supply.Within (Q : Instruction → Prop) : Supply → Prop
  | none => True
  | iterate _ _ body => Throughout Q body
  | recheck predicate _ body => Q (.repeatWhile predicate body) ∧ Throughout Q body

/-- Every instruction of what a frame has still to do is of a class. -/
def Frame.Within (Q : Instruction → Prop) (f : Frame) : Prop :=
  Throughout Q f.rest ∧ f.supply.Within Q

section Within

variable {Q : Instruction → Prop} {i : Instruction} {is : List Instruction} {supply : Supply}

theorem within_block : (Frame.block is).Within Q ↔ Throughout Q is := and_iff_left trivial

theorem within_cons :
    (Frame.mk (i :: is) supply).Within Q ↔ Throughout Q [i] ∧ (Frame.mk is supply).Within Q := by
  unfold Frame.Within
  rw [throughout_cons, and_assoc]

/-- A block that is run from one frame only. -/
theorem within_singleton (h : Throughout Q is) : ∀ f ∈ [Frame.block is], f.Within Q :=
  List.forall_mem_singleton.2 (within_block.2 h)

/-- What an instruction opens is part of its walk. -/
theorem Throughout.opens {f : Frame} (h : Throughout Q [i]) (ho : Opens i f) : f.Within Q := by
  cases ho with
  | thenBranch => exact within_block.2 (throughout_cond.1 h).2.1
  | elseBranch => exact within_block.2 (throughout_cond.1 h).2.2
  | loop => exact ⟨throughout_nil, (throughout_loop.1 h).2⟩
  | repeatWhile => exact ⟨throughout_nil, throughout_repeatWhile.1 h⟩
  | parallel => exact within_block.2 (throughout_parallel.1 h).2

end Within

/-! ### What moves keep -/

/-- An outcome without its value. -/
def withoutValue {α : Type} (o : Outcome ω α) : Outcome ω Unit := (o.1.map fun _ => (), o.2)

/-- **What every move keeps:** a relation between states and outcomes that holds of no move at all,
of one move after another, and of every single move.  Instructions that are entered, and conditional
loops that ask again, are those of a class. -/
structure Kept (env : Surroundings ω) (Q : Instruction → Prop)
    (R : RunState ω → Outcome ω Unit → Prop) : Prop where
  done : ∀ s, R s (.ok (), s)
  next : ∀ {s s' : RunState ω} {o : Outcome ω Unit}, R s (.ok (), s') → R s' o → R s o
  enter : ∀ i s, Q i → R s (withoutValue (enter env i s.tick))
  line : ∀ (n : Nat) s, R s (.ok (), s.say ("  Iteration " ++ toString n))
  ask : ∀ predicate body s, Q (.repeatWhile predicate body) →
    R s (withoutValue (env.recheck predicate s))

/-- **What every move keeps is kept by every run** of frames with instructions of the class. -/
theorem Kept.execute {env : Surroundings ω} {Q : Instruction → Prop}
    {R : RunState ω → Outcome ω Unit → Prop} (h : Kept env Q R) (fs : List Frame)
    (hfs : ∀ f ∈ fs, f.Within Q) (s : RunState ω) : R s (execute env fs s) := by
  -- along the moves of the machine: a move, and then the run that is left
  fun_induction Run.execute env fs s with
  | case1 s => exact h.done s
  -- an item that is nothing ends its frame
  | case2 i is supply fs s hn ih => exact ih (List.forall_mem_cons.1 hfs).2
  -- an instruction is entered: a fault, no frame, or a frame
  | case3 i is supply fs s hn fault s' he =>
      obtain ⟨hi, _⟩ := within_cons.1 (List.forall_mem_cons.1 hfs).1
      have hmove := h.enter i s hi.head
      rwa [he] at hmove
  | case4 i is supply fs s hn s' he ih =>
      obtain ⟨hframe, hrest⟩ := List.forall_mem_cons.1 hfs
      obtain ⟨hi, his⟩ := within_cons.1 hframe
      have hmove := h.enter i s hi.head
      rw [he] at hmove
      exact h.next hmove (ih (List.forall_mem_cons.2 ⟨his, hrest⟩))
  | case5 i is supply fs s hn f s' he ih =>
      obtain ⟨hframe, hrest⟩ := List.forall_mem_cons.1 hfs
      obtain ⟨hi, his⟩ := within_cons.1 hframe
      have hmove := h.enter i s hi.head
      rw [he] at hmove
      have hopened : f.Within Q := hi.opens (opens_of_enter he)
      exact h.next hmove
        (ih (List.forall_mem_cons.2 ⟨hopened, List.forall_mem_cons.2 ⟨his, hrest⟩⟩))
  -- nothing follows a block
  | case6 fs s ih => exact ih (List.forall_mem_cons.1 hfs).2
  -- a counted loop: once more, or over
  | case7 done count body fs s hd ih =>
      obtain ⟨hframe, hrest⟩ := List.forall_mem_cons.1 hfs
      exact h.next (h.line (done + 1) s)
        (ih (List.forall_mem_cons.2 ⟨⟨hframe.2, hframe.2⟩, hrest⟩))
  | case8 done count body fs s hd ih => exact ih (List.forall_mem_cons.1 hfs).2
  -- a conditional loop: a fault of the predicate, once more, not again, or at the ceiling
  | case9 predicate done body fs s hd fault s' ht =>
      have hmove := h.ask predicate body s (List.forall_mem_cons.1 hfs).1.2.1
      rwa [ht] at hmove
  | case10 predicate done body fs s hd s' ht ih =>
      obtain ⟨hframe, hrest⟩ := List.forall_mem_cons.1 hfs
      have hmove := h.ask predicate body s hframe.2.1
      rw [ht] at hmove
      exact h.next hmove (ih (List.forall_mem_cons.2 ⟨⟨hframe.2.2, hframe.2⟩, hrest⟩))
  | case11 predicate done body fs s hd s' ht ih =>
      obtain ⟨hframe, hrest⟩ := List.forall_mem_cons.1 hfs
      have hmove := h.ask predicate body s hframe.2.1
      rw [ht] at hmove
      exact h.next hmove (ih hrest)
  | case12 predicate done body fs s hd ih => exact ih (List.forall_mem_cons.1 hfs).2

/-- What every move keeps is kept by the run of a block. -/
theorem Kept.executeBlock {env : Surroundings ω} {Q : Instruction → Prop}
    {R : RunState ω → Outcome ω Unit → Prop} (h : Kept env Q R) {is : List Instruction}
    (his : Throughout Q is) (s : RunState ω) : R s (executeBlock env is s) :=
  h.execute [.block is] (within_singleton his) s

/-! ### What actions lead to -/

/-- A turn is made if its degrees can be added to the heading; its line is said in any case. -/
theorem turn_cases (degrees : Number) (s : RunState ω) :
    (∃ heading, s.robot.heading.add? degrees = some heading
      ∧ turn degrees s = (.ok (), (s.say ("Turning " ++ degrees.text ++ " degrees")).withRobot
          { (s.say ("Turning " ++ degrees.text ++ " degrees")).robot with
            heading := heading.modulo Robot.wholeTurn }))
    ∨ s.robot.heading.add? degrees = none
      ∧ turn degrees s
        = (.error .integerTooLarge, s.say ("Turning " ++ degrees.text ++ " degrees")) := by
  have hturn : (s.say ("Turning " ++ degrees.text ++ " degrees")).robot.turn? degrees
      = (s.robot.heading.add? degrees).map fun heading =>
          { (s.say ("Turning " ++ degrees.text ++ " degrees")).robot with
            heading := heading.modulo Robot.wholeTurn } := rfl
  unfold turn
  cases hsum : s.robot.heading.add? degrees with
  | none =>
      rw [hsum] at hturn
      exact .inr ⟨rfl, by simp only [hturn, Option.map_none]⟩
  | some heading =>
      rw [hsum] at hturn
      exact .inl ⟨heading, rfl, by simp only [hturn, Option.map_some]⟩

/-- A reading changes nothing but the world. -/
theorem exists_world_sample (env : Surroundings ω) (channel : Channel) (s : RunState ω) :
    ∃ world, (env.sample channel s).2 = { s with world := world } := by
  unfold Surroundings.sample
  rcases env.read channel s.world with ⟨fault | reading, world⟩
  · exact ⟨world, rfl⟩
  · refine ⟨world, ?_⟩
    cases hx : reading.toFloat? with
    | none => simp only [hx]
    | some x => simp only [hx]

/-- A sensor that gives a reading has it stored and said; else nothing but the world is changed. -/
theorem sense_cases (env : Surroundings ω) (kind : String) (sensor : Int8) (target : String)
    (s : RunState ω) :
    (∃ fault world, env.sample ⟨kind, sensor.toInt⟩ s = (.error fault, { s with world := world })
      ∧ sense env kind sensor target s = (.error fault, { s with world := world }))
    ∨ ∃ x world, env.sample ⟨kind, sensor.toInt⟩ s = (.ok x, { s with world := world })
      ∧ sense env kind sensor target s
        = (.ok (), (RunState.withRobot { s with world := world }
            (s.robot.remember target (.float x))).say
              ("Read " ++ addressText kind sensor.toInt ++ " = " ++ x.text .listing)) := by
  obtain ⟨world, hworld⟩ := exists_world_sample env ⟨kind, sensor.toInt⟩ s
  unfold sense
  rcases hs : env.sample ⟨kind, sensor.toInt⟩ s with ⟨fault | x, s'⟩
  · rw [hs] at hworld
    obtain rfl : s' = { s with world := world } := hworld
    exact .inl ⟨fault, world, rfl, rfl⟩
  · rw [hs] at hworld
    obtain rfl : s' = { s with world := world } := hworld
    exact .inr ⟨x, world, rfl, rfl⟩

/-- An actuator of a known kind is registered, and set if it takes the value. -/
theorem actuate_cases (kind : String) (actuator : Int8) (value : Binary64) (s : RunState ω) :
    (ActuatorKind.ofName? kind = none
      ∧ actuate kind actuator value s = (.error (.unknownActuator kind), s))
    ∨ ∃ k, ActuatorKind.ofName? kind = some k
      ∧ ((k.accept? value = none
          ∧ actuate kind actuator value s
            = (.error .angleInfinite, s.withRobot (s.robot.register ⟨k, actuator.toInt⟩)))
        ∨ ∃ x, k.accept? value = some x
          ∧ actuate kind actuator value s
            = (.ok (), (s.withRobot ((s.robot.register ⟨k, actuator.toInt⟩).setActuator
                ⟨k, actuator.toInt⟩ x)).say
                  ("Set " ++ addressText kind actuator.toInt ++ " = " ++ value.text .listing))) := by
  unfold actuate
  cases hkind : ActuatorKind.ofName? kind with
  | none => exact .inl ⟨rfl, rfl⟩
  | some k =>
      refine .inr ⟨k, rfl, ?_⟩
      simp only [Actuator.accept?, Bank.kind_actuator]
      cases hx : k.accept? value with
      | none => exact .inl ⟨rfl, rfl⟩
      | some x => exact .inr ⟨x, rfl, rfl⟩

/-- A question changes nothing but the world. -/
theorem exists_world_test (env : Surroundings ω) (predicate : Predicate) (s : RunState ω) :
    ∃ world, (env.test predicate s).2 = { s with world := world } := by
  cases predicate with
  | threshold t => exact ⟨s.world, rfl⟩
  | leftBrighter => exact ⟨s.world, rfl⟩
  | external id => exact ⟨(env.ask id s.robot.memory s.world).2, rfl⟩

/-- A question leaves the robot alone. -/
theorem robot_of_test {env : Surroundings ω} {predicate : Predicate} {s s' : RunState ω}
    {answer : Except Fault Bool} (h : env.test predicate s = (answer, s')) : s'.robot = s.robot := by
  obtain ⟨world, hworld⟩ := exists_world_test env predicate s
  rw [h] at hworld
  obtain rfl : s' = { s with world := world } := hworld
  rfl

/-- **What stays of a robot** when lines are said and actuators change is changed by nothing but turns
and sensors. -/
theorem part_of_enter {α : Type} (part : Robot → α) {env : Surroundings ω} {i : Instruction}
    {s s' : RunState ω} {f? : Option Frame} (hline : ∀ r message, part (r.say message) = part r)
    (hbank : ∀ r bank, part { r with actuators := bank } = part r)
    (h : enter env i s = (.ok f?, s')) (hturn : i.kind ≠ .turn) (hsense : i.kind ≠ .sense) :
    part s'.robot = part s.robot := by
  cases i with
  | turn => exact absurd rfl hturn
  | sense => exact absurd rfl hsense
  | move direction distance =>
      obtain rfl := congrArg Prod.snd h
      exact (hbank (s.robot.say _) _).trans (hline s.robot _)
  | actuate kind actuator value =>
      rw [enter] at h
      rcases actuate_cases kind actuator value s with
        ⟨_, hactuate⟩ | ⟨_, _, ⟨_, hactuate⟩ | ⟨_, _, hactuate⟩⟩
      · rw [hactuate] at h
        exact absurd (congrArg Prod.fst h) (by simp [closed])
      · rw [hactuate] at h
        exact absurd (congrArg Prod.fst h) (by simp [closed])
      · rw [hactuate] at h
        obtain rfl := congrArg Prod.snd h
        exact (hline _ _).trans (hbank s.robot _)
  | cond predicate thenBranch elseBranch =>
      rw [enter] at h
      rcases htest : env.test predicate s with ⟨fault | answer, t⟩
      · rw [htest] at h
        exact absurd (congrArg Prod.fst h) (by simp)
      · rw [htest] at h
        obtain rfl : t = s' := by cases answer <;> exact congrArg Prod.snd h
        exact congrArg part (robot_of_test htest)
  | foreign item => exact absurd (congrArg Prod.fst h) (by simp [enter])
  | halt =>
      obtain rfl := congrArg Prod.snd h
      exact (hline _ _).trans (hbank s.robot _)
  | repeatWhile =>
      obtain rfl := congrArg Prod.snd h
      rfl
  | _ =>
      obtain rfl := congrArg Prod.snd h
      exact hline _ _

/-! ### The trace -/

/-- A state of the same robot, with the lines of its trace and perhaps more. -/
structure Extends (s s' : RunState ω) : Prop where
  name_eq : s'.robot.name = s.robot.name
  exists_lines : ∃ lines, s'.robot.trace = s.robot.trace ++ lines

namespace Extends

/-- Where name and trace are as they were, nothing is added. -/
theorem of_eq {s s' : RunState ω} (hname : s'.robot.name = s.robot.name)
    (htrace : s'.robot.trace = s.robot.trace) : Extends s s' := ⟨hname, #[], by simp [htrace]⟩

theorem refl (s : RunState ω) : Extends s s := of_eq rfl rfl

theorem trans {s s' s'' : RunState ω} (h : Extends s s') (h' : Extends s' s'') :
    Extends s s'' := by
  obtain ⟨hname, lines, hlines⟩ := h
  obtain ⟨hname', lines', hlines'⟩ := h'
  exact ⟨hname'.trans hname, lines ++ lines', by rw [hlines', hlines, Array.append_assoc]⟩

/-- A robot with the same name and trace may take the place of the robot. -/
theorem withRobot {s s' : RunState ω} (h : Extends s s') (r : Robot)
    (hname : r.name = s'.robot.name) (htrace : r.trace = s'.robot.trace) :
    Extends s (s'.withRobot r) := h.trans (of_eq hname htrace)

/-- A line that is said is added. -/
theorem say {s s' : RunState ω} (h : Extends s s') (message : String) :
    Extends s (s'.say message) :=
  h.trans ⟨rfl, #[s'.robot.line message], Array.push_eq_append⟩

end Extends

theorem extends_turn (degrees : Number) (s : RunState ω) : Extends s (turn degrees s).2 := by
  have hsaid := (Extends.refl s).say ("Turning " ++ degrees.text ++ " degrees")
  rcases turn_cases degrees s with ⟨heading, _, h⟩ | ⟨_, h⟩
  · rw [h]
    exact hsaid.withRobot _ rfl rfl
  · rw [h]
    exact hsaid

theorem extends_sense (env : Surroundings ω) (kind : String) (sensor : Int8) (target : String)
    (s : RunState ω) : Extends s (sense env kind sensor target s).2 := by
  rcases sense_cases env kind sensor target s with ⟨fault, world, _, h⟩ | ⟨x, world, _, h⟩
  · rw [h]
    exact .of_eq rfl rfl
  · rw [h]
    refine .say ?_ _
    exact .of_eq rfl rfl

theorem extends_actuate (kind : String) (actuator : Int8) (value : Binary64) (s : RunState ω) :
    Extends s (actuate kind actuator value s).2 := by
  rcases actuate_cases kind actuator value s with ⟨_, h⟩ | ⟨k, _, ⟨_, h⟩ | ⟨x, _, h⟩⟩
  · rw [h]
    exact .refl s
  · rw [h]
    exact .of_eq rfl rfl
  · rw [h]
    refine .say ?_ _
    exact .of_eq rfl rfl

theorem extends_test (env : Surroundings ω) (predicate : Predicate) (s : RunState ω) :
    Extends s (env.test predicate s).2 := by
  obtain ⟨world, h⟩ := exists_world_test env predicate s
  rw [h]
  exact .of_eq rfl rfl

@[simp] theorem closed_snd (o : Outcome ω Unit) : (closed o).2 = o.2 := by
  rcases o with ⟨fault | u, s⟩ <;> rfl

/-- An instruction that is entered adds lines only. -/
theorem extends_enter (env : Surroundings ω) (i : Instruction) (s : RunState ω) :
    Extends s (enter env i s).2 := by
  cases i with
  | move direction distance => exact ((Extends.refl s).say _).withRobot _ rfl rfl
  | turn degrees => simpa only [enter, closed_snd] using extends_turn degrees s
  | sense kind sensor target =>
      simpa only [enter, closed_snd] using extends_sense env kind sensor target s
  | actuate kind actuator value =>
      simpa only [enter, closed_snd] using extends_actuate kind actuator value s
  | cond predicate thenBranch elseBranch =>
      have htest := extends_test env predicate s
      simp only [enter]
      rcases ht : env.test predicate s with ⟨fault | (_ | _), s'⟩ <;> rwa [ht] at htest
  | loop count body => exact .say (.refl s) _
  | repeatWhile predicate body => exact .refl s
  | parallel branches => exact .say (.refl s) _
  | wait milliseconds => exact ((Extends.refl s).say _).trans (.of_eq rfl rfl)
  | log message => exact .say (.refl s) message
  | halt => exact ((Extends.refl s).withRobot s.robot.stop rfl rfl).say _
  | foreign item => exact .refl s

theorem kept_extends (env : Surroundings ω) :
    Kept env (fun _ => True) (fun s o => Extends s o.2) where
  done s := .refl s
  next h h' := h.trans h'
  enter i s _ := by
    have hticked : Extends s s.tick := .of_eq rfl rfl
    exact hticked.trans (extends_enter env i s.tick)
  line _ s := .say (.refl s) _
  ask predicate _ s _ := extends_test env predicate s

/-- **A run adds lines to the trace and takes none away,** whether it ends in a fault or not. -/
theorem extends_executeBlock (env : Surroundings ω) (is : List Instruction) (s : RunState ω) :
    Extends s (executeBlock env is s).2 :=
  (kept_extends env).executeBlock (fun _ _ => trivial) s

/-! ### Programs -/

section Programs

variable {env : Surroundings ω} {p : Program} {s s' : RunState ω}

/-- A program completes when its instructions do. -/
theorem runProgram_of_executeBlock
    (h : executeBlock env p.instructions (s.say ("=== Running program: " ++ p.name ++ " ==="))
      = (.ok (), s')) :
    ∃ summary, runProgram env p s
      = (.ok summary, s'.say ("=== Program complete: " ++ p.name ++ " ===")) := by
  simp only [runProgram, h]
  exact ⟨_, rfl⟩

/-- The instructions of a program that completes do so, and its summary tells what they counted and
said. -/
theorem executeBlock_of_runProgram {summary : Summary} (h : runProgram env p s = (.ok summary, s')) :
    ∃ t, executeBlock env p.instructions (s.say ("=== Running program: " ++ p.name ++ " ==="))
        = (.ok (), t)
      ∧ s' = t.say ("=== Program complete: " ++ p.name ++ " ===")
      ∧ summary.steps = t.steps - s.steps
      ∧ summary.log = (s'.robot.trace.extract s.robot.trace.size s'.robot.trace.size).toList := by
  unfold runProgram at h
  rcases hrun : executeBlock env p.instructions
    (s.say ("=== Running program: " ++ p.name ++ " ===")) with ⟨fault | u, t⟩
  · rw [hrun] at h
    exact absurd (Prod.mk.inj h).1 (by simp)
  · rw [hrun] at h
    obtain ⟨hsummary, rfl⟩ := Prod.mk.inj h
    obtain rfl := Except.ok.inj hsummary
    exact ⟨t, rfl, rfl, rfl, rfl⟩

end Programs

end Run

end RobotShorthand
