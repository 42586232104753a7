/-
**Two runs of one program, move by move.**

Two runs of the same frames stay together as long as the states they begin in differ only in what no
action looks at.  Then each move of the one is a move of the other: the same instruction is entered, it
fails in both or in neither, and it opens the same frame; a predicate gives both the same answer.  So a
relation between states that every single move keeps, with equal outcomes, is kept by whole runs, with
equal outcomes again.  A move is made of a few single changes, and which ones they are depends only on
memory, heading and world; a relation that lets these be equal has only to be kept by the changes.

This is the rule for statements about two runs, as `Kept` is for statements about one.

Main definitions:

* `Matched` — two outcomes that are equal but for their states, which are related;
* `Coupled` — **a relation between states that every move keeps with equal outcomes;**
* `Congruent` — a relation between states that look the same to actions, which every single change keeps.

Main results:

* `Coupled.execute` — **what every move keeps in two states is kept by the runs from them;**
* `Coupled.executeBlock` — the same for the run of a block;
* `Congruent.enter` — an action makes the same changes in related states, and has equal outcomes;
* `Congruent.coupled` — **what every single change keeps, every move keeps.**
-/

import RobotShorthand.Run.Machine

set_option relaxedAutoImplicit false
set_option autoImplicit false

namespace RobotShorthand

namespace Run

variable {ω : Type}

/-- Two outcomes that are equal but for their states, which are related. -/
def Matched {α : Type} (R : RunState ω → RunState ω → Prop) (o o' : Outcome ω α) : Prop :=
  o.1 = o'.1 ∧ R o.2 o'.2

section Matched

variable {α : Type} {R : RunState ω → RunState ω → Prop}

/-- The outcome that is matched with a known one. -/
theorem Matched.exists_eq {o o' : Outcome ω α} (h : Matched R o o') {result : Except Fault α}
    {s : RunState ω} (ho : o = (result, s)) : ∃ t, o' = (result, t) ∧ R s t := by
  subst ho
  obtain ⟨result', t⟩ := o'
  obtain ⟨hresult, hstates⟩ := h
  exact ⟨t, Prod.ext hresult.symm rfl, hstates⟩

/-- Actions without frames are matched as frames that are not opened. -/
theorem Matched.closed {o o' : Outcome ω Unit} (h : Matched R o o') :
    Matched R (closed o) (closed o') := by
  obtain ⟨result, s⟩ := o
  obtain ⟨t, rfl, hstates⟩ := h.exists_eq rfl
  cases result with
  | error fault => exact ⟨rfl, hstates⟩
  | ok u => exact ⟨rfl, hstates⟩

end Matched

/-- **A relation between states that every move keeps,** with equal outcomes in both. -/
structure Coupled (env : Surroundings ω) (R : RunState ω → RunState ω → Prop) : Prop where
  enter : ∀ i {s t}, R s t → Matched R (enter env i s.tick) (enter env i t.tick)
  line : ∀ (n : Nat) {s t}, R s t →
    R (s.say ("  Iteration " ++ toString n)) (t.say ("  Iteration " ++ toString n))
  ask : ∀ predicate {s t}, R s t → Matched R (env.recheck predicate s) (env.recheck predicate t)

/-- **What every move keeps in two states is kept by the runs from them,** which have equal outcomes. -/
theorem Coupled.execute {env : Surroundings ω} {R : RunState ω → RunState ω → Prop}
    (h : Coupled env R) (fs : List Frame) {s t : RunState ω} (hst : R s t) :
    Matched R (execute env fs s) (execute env fs t) := by
  -- along the moves of the first run: the second one makes the same move
  fun_induction Run.execute env fs s generalizing t with
  | case1 s =>
      rw [execute_nil]
      exact ⟨rfl, hst⟩
  -- an item that is nothing ends its frame
  | case2 i is supply fs s hn ih =>
      rw [execute_nothing hn]
      exact ih hst
  -- an instruction is entered: a fault, no frame, or a frame
  | case3 i is supply fs s hn fault s' he =>
      obtain ⟨t', ht, hstates⟩ := (h.enter i hst).exists_eq he
      rw [execute_item (Bool.eq_false_iff.2 hn), ht]
      exact ⟨rfl, hstates⟩
  | case4 i is supply fs s hn s' he ih =>
      obtain ⟨t', ht, hstates⟩ := (h.enter i hst).exists_eq he
      rw [execute_item (Bool.eq_false_iff.2 hn), ht]
      exact ih hstates
  | case5 i is supply fs s hn f s' he ih =>
      obtain ⟨t', ht, hstates⟩ := (h.enter i hst).exists_eq he
      rw [execute_item (Bool.eq_false_iff.2 hn), ht]
      exact ih hstates
  -- nothing follows a block
  | case6 fs s ih =>
      rw [execute_done]
      exact ih hst
  -- a counted loop: once more, or over
  | case7 done count body fs s hd ih =>
      rw [execute_iterate, if_pos hd]
      exact ih (h.line (done + 1) hst)
  | case8 done count body fs s hd ih =>
      rw [execute_iterate, if_neg hd]
      exact ih hst
  -- a conditional loop: a fault of the predicate, once more, not again, or at the ceiling
  | case9 predicate done body fs s hd fault s' ha =>
      obtain ⟨t', ht, hstates⟩ := (h.ask predicate hst).exists_eq ha
      rw [execute_recheck, if_pos hd, ht]
      exact ⟨rfl, hstates⟩
  | case10 predicate done body fs s hd s' ha ih =>
      obtain ⟨t', ht, hstates⟩ := (h.ask predicate hst).exists_eq ha
      rw [execute_recheck, if_pos hd, ht]
      exact ih hstates
  | case11 predicate done body fs s hd s' ha ih =>
      obtain ⟨t', ht, hstates⟩ := (h.ask predicate hst).exists_eq ha
      rw [execute_recheck, if_pos hd, ht]
      exact ih hstates
  | case12 predicate done body fs s hd ih =>
      rw [execute_recheck, if_neg hd]
      exact ih hst

/-- What every move keeps in two states is kept by the runs of a block from them. -/
theorem Coupled.executeBlock {env : Surroundings ω} {R : RunState ω → RunState ω → Prop}
    (h : Coupled env R) (is : List Instruction) {s t : RunState ω} (hst : R s t) :
    Matched R (executeBlock env is s) (executeBlock env is t) := h.execute [.block is] hst

/-! ### Actions -/

/-- **A relation between states that agree in what actions look at,** and that every single change
keeps when it is made in both. -/
structure Congruent (R : RunState ω → RunState ω → Prop) : Prop where
  memory_eq : ∀ {s t}, R s t → t.robot.memory = s.robot.memory
  heading_eq : ∀ {s t}, R s t → t.robot.heading = s.robot.heading
  world_eq : ∀ {s t}, R s t → t.world = s.world
  tick : ∀ {s t}, R s t → R s.tick t.tick
  say : ∀ {s t}, R s t → ∀ message, R (s.say message) (t.say message)
  world : ∀ {s t}, R s t → ∀ world, R { s with world := world } { t with world := world }
  waits : ∀ {s t}, R s t → ∀ milliseconds : Nat,
    R { s with waits := s.waits.push milliseconds } { t with waits := t.waits.push milliseconds }
  heading : ∀ {s t}, R s t → ∀ heading,
    R (s.withRobot { s.robot with heading := heading }) (t.withRobot { t.robot with heading := heading })
  remember : ∀ {s t}, R s t → ∀ key reading,
    R (s.withRobot (s.robot.remember key reading)) (t.withRobot (t.robot.remember key reading))
  register : ∀ {s t}, R s t → ∀ a,
    R (s.withRobot (s.robot.register a)) (t.withRobot (t.robot.register a))
  setActuator : ∀ {s t}, R s t → ∀ a x,
    R (s.withRobot (s.robot.setActuator a x)) (t.withRobot (t.robot.setActuator a x))
  stop : ∀ {s t}, R s t → R (s.withRobot s.robot.stop) (t.withRobot t.robot.stop)

namespace Congruent

variable {R : RunState ω → RunState ω → Prop} {env : Surroundings ω} {s t : RunState ω}

theorem turn (h : Congruent R) (hst : R s t) (degrees : Number) :
    Matched R (Run.turn degrees s) (Run.turn degrees t) := by
  have hsaid := h.say hst ("Turning " ++ degrees.text ++ " degrees")
  simp only [Run.turn, Robot.turn?, h.heading_eq hsaid]
  cases (s.say ("Turning " ++ degrees.text ++ " degrees")).robot.heading.add? degrees with
  | none => exact ⟨rfl, hsaid⟩
  | some x => exact ⟨rfl, h.heading hsaid (x.modulo Robot.wholeTurn)⟩

theorem sample (h : Congruent R) (hst : R s t) (channel : Channel) :
    Matched R (env.sample channel s) (env.sample channel t) := by
  simp only [Surroundings.sample, h.world_eq hst]
  rcases env.read channel s.world with ⟨fault | reading, world⟩
  · exact ⟨rfl, h.world hst world⟩
  · simp only
    cases reading.toFloat? with
    | none => exact ⟨rfl, h.world hst world⟩
    | some x => exact ⟨rfl, h.world hst world⟩

theorem sense (h : Congruent R) (hst : R s t) (kind : String) (sensor : Int8) (target : String) :
    Matched R (Run.sense env kind sensor target s) (Run.sense env kind sensor target t) := by
  have hsample : Matched R (env.sample ⟨kind, sensor.toInt⟩ s) (env.sample ⟨kind, sensor.toInt⟩ t) :=
    h.sample hst _
  rcases hs : env.sample ⟨kind, sensor.toInt⟩ s with ⟨fault | x, s'⟩
  · obtain ⟨t', ht, hstates⟩ := hsample.exists_eq hs
    simp only [Run.sense, hs, ht]
    exact ⟨rfl, hstates⟩
  · obtain ⟨t', ht, hstates⟩ := hsample.exists_eq hs
    simp only [Run.sense, hs, ht]
    exact ⟨rfl, h.say (h.remember hstates target (.float x)) _⟩

theorem actuate (h : Congruent R) (hst : R s t) (kind : String) (actuator : Int8)
    (value : Binary64) :
    Matched R (Run.actuate kind actuator value s) (Run.actuate kind actuator value t) := by
  unfold Run.actuate
  cases ActuatorKind.ofName? kind with
  | none => exact ⟨rfl, hst⟩
  | some k =>
      have hregister := h.register hst ⟨k, actuator.toInt⟩
      simp only [Actuator.accept?, Bank.kind_actuator]
      cases k.accept? value with
      | none => exact ⟨rfl, hregister⟩
      | some x => exact ⟨rfl, h.say (h.setActuator hregister ⟨k, actuator.toInt⟩ x) _⟩

theorem test (h : Congruent R) (hst : R s t) (predicate : Predicate) :
    Matched R (env.test predicate s) (env.test predicate t) := by
  cases predicate with
  | threshold threshold =>
      simp only [Surroundings.test, h.memory_eq hst]
      exact ⟨rfl, hst⟩
  | leftBrighter =>
      simp only [Surroundings.test, h.memory_eq hst]
      exact ⟨rfl, hst⟩
  | external id =>
      simp only [Surroundings.test, h.memory_eq hst, h.world_eq hst]
      exact ⟨rfl, h.world hst _⟩

theorem recheck (h : Congruent R) (hst : R s t) (predicate : Predicate) :
    Matched R (env.recheck predicate s) (env.recheck predicate t) := by
  obtain ⟨hanswer, hstates⟩ : Matched R (env.test predicate s) (env.test predicate t) :=
    h.test hst predicate
  exact ⟨congrArg Surroundings.answerOutOfLoop hanswer, hstates⟩

/-- **Every action keeps the relation,** with equal outcomes. -/
theorem enter (h : Congruent R) (hst : R s t) (i : Instruction) :
    Matched R (Run.enter env i s) (Run.enter env i t) := by
  cases i with
  | move direction distance =>
      have hsaid := h.say hst ("Moving " ++ direction.name ++ " for " ++ toString distance ++ " units")
      have hleft := h.setActuator hsaid ⟨.motor, 0⟩ (Robot.movePowers direction).1
      exact ⟨rfl, h.setActuator hleft ⟨.motor, 1⟩ (Robot.movePowers direction).2⟩
  | turn degrees => exact (h.turn hst degrees).closed
  | sense kind sensor target => exact (h.sense hst kind sensor target).closed
  | actuate kind actuator value => exact (h.actuate hst kind actuator value).closed
  | cond predicate thenBranch elseBranch =>
      have htest : Matched R (env.test predicate s) (env.test predicate t) := h.test hst predicate
      rcases hs : env.test predicate s with ⟨fault | (_ | _), s'⟩ <;>
        obtain ⟨t', ht, hstates⟩ := htest.exists_eq hs <;>
        simp only [Run.enter, hs, ht] <;>
        exact ⟨rfl, hstates⟩
  | loop count body => exact ⟨rfl, h.say hst _⟩
  | repeatWhile predicate body => exact ⟨rfl, hst⟩
  | parallel branches => exact ⟨rfl, h.say hst _⟩
  | wait milliseconds => exact ⟨rfl, h.waits (h.say hst _) _⟩
  | log message => exact ⟨rfl, h.say hst message⟩
  | halt => exact ⟨rfl, h.say (h.stop hst) "HALT"⟩
  | foreign item => exact ⟨rfl, hst⟩

/-- **What every single change keeps, every move keeps.** -/
theorem coupled (h : Congruent R) (env : Surroundings ω) : Coupled env R where
  enter i _ _ hst := h.enter (h.tick hst) i
  line _ _ _ hst := h.say hst _
  ask predicate _ _ hst := h.recheck hst predicate

end Congruent

end Run

end RobotShorthand
