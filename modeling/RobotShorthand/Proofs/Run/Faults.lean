/-
**What a fault leaves behind.**

A run that ends in a fault has made some moves, and then began an action that failed: an instruction
that was entered, or a conditional loop that asked its predicate.  The moves made before stay made, and
nothing is done behind the fault, so what a run leaves is what the one action leaves that failed.  That
is next to nothing.  A reading or an answer that fails changes the world it comes from and not the
robot; an instruction that cannot be understood does nothing at all.  Two actions do something first: a
turn says its line before heading and degrees are added, and a servo is registered before it refuses
its angle.

A run passes a fault on as it is raised, but for one case.  A conditional loop is itself a supply of
instructions that can come to its end, so when its predicate says that it has come to its end the loop
reports a fault of its own.  And an item that is nothing at all raises no fault, since it is taken for the
end of its frame.

Main definitions:

* `Config`, `Moves` — frames with a state, and **one move that the machine makes without a fault;**
* `Action`, `Begins`, `attempt` — an action that may fail, when the machine is about to begin it, and
  what it leads to;
* `Fails` — all the reasons for which an action fails, with the fault and the robot that each of them
  gives;
* `Spares` — what a failed action leaves of a robot.

Main results:

* `execute_of_moves`, `execute_of_attempt` — a move keeps what a run leads to, and an action that fails
  ends it;
* `exists_moves_of_execute` — every run is made of moves, up to its end or to an action that fails;
* `exists_attempt_of_execute`, `execute_eq_ok_iff` — **a run that ends in a fault ends in an action that
  fails,** and one that completes has nothing left;
* `within_of_moves` — moves stay within the instructions of a class;
* `fails_of_attempt`, `Fails.spares` — why an action fails, and what it leaves;
* `runProgram_error` — **a fault leaves the robot as it was when the action began that failed.**
-/

import Mathlib.Logic.Relation
import RobotShorthand.Proofs.Run.BigStep
import RobotShorthand.Proofs.Run.Moves
import RobotShorthand.Run.Bench

set_option relaxedAutoImplicit false
set_option autoImplicit false

namespace RobotShorthand

namespace Run

variable {ω : Type} {env : Surroundings ω}

/-! ### Moves -/

/-- Where a run stands: the frames that are left, and the state. -/
abbrev Config (ω : Type) : Type := List Frame × RunState ω

/-- **A move that is made,** one of those that do not end in a fault. -/
inductive Moves (env : Surroundings ω) : Config ω → Config ω → Prop
  /-- nothing follows a block -/
  | done {fs : List Frame} {s : RunState ω} : Moves env (.block [] :: fs, s) (fs, s)
  /-- an item that is nothing ends its frame -/
  | broken {i : Instruction} {is : List Instruction} {supply : Supply} {fs : List Frame}
      {s : RunState ω} :
      i.isNothing = true → Moves env (⟨i :: is, supply⟩ :: fs, s) (fs, s)
  | act {i : Instruction} {is : List Instruction} {supply : Supply} {fs : List Frame}
      {s s' : RunState ω} :
      i.isNothing = false → enter env i s.tick = (.ok none, s') →
      Moves env (⟨i :: is, supply⟩ :: fs, s) (⟨is, supply⟩ :: fs, s')
  | opens {i : Instruction} {is : List Instruction} {supply : Supply} {f : Frame} {fs : List Frame}
      {s s' : RunState ω} :
      i.isNothing = false → enter env i s.tick = (.ok (some f), s') →
      Moves env (⟨i :: is, supply⟩ :: fs, s) (f :: ⟨is, supply⟩ :: fs, s')
  | iterate {done count : Nat} {body : List Instruction} {fs : List Frame} {s : RunState ω} :
      done < count →
      Moves env (.iterate done count body :: fs, s)
        (⟨body, .iterate (done + 1) count body⟩ :: fs, s.say ("  Iteration " ++ toString (done + 1)))
  | iterated {done count : Nat} {body : List Instruction} {fs : List Frame} {s : RunState ω} :
      ¬ done < count → Moves env (.iterate done count body :: fs, s) (fs, s)
  | again {predicate : Predicate} {done : Nat} {body : List Instruction} {fs : List Frame}
      {s s' : RunState ω} :
      done < whileCeiling → env.test predicate s = (.ok true, s') →
      Moves env (.recheck predicate done body :: fs, s)
        (⟨body, .recheck predicate (done + 1) body⟩ :: fs, s')
  | refused {predicate : Predicate} {done : Nat} {body : List Instruction} {fs : List Frame}
      {s s' : RunState ω} :
      done < whileCeiling → env.test predicate s = (.ok false, s') →
      Moves env (.recheck predicate done body :: fs, s) (fs, s')
  | ceiling {predicate : Predicate} {done : Nat} {body : List Instruction} {fs : List Frame}
      {s : RunState ω} :
      ¬ done < whileCeiling → Moves env (.recheck predicate done body :: fs, s) (fs, s)

/-- A move keeps what the run leads to. -/
theorem execute_of_moves {c c' : Config ω} (h : Moves env c c') :
    execute env c.1 c.2 = execute env c'.1 c'.2 := by
  cases h with
  | done => exact execute_done
  | broken hn => exact execute_nothing hn
  | act hi henter => rw [execute_item hi, henter]
  | opens hi henter => rw [execute_item hi, henter]
  | iterate hd => rw [execute_iterate, if_pos hd]
  | iterated hd => rw [execute_iterate, if_neg hd]
  | again hd ht => rw [execute_recheck, if_pos hd, (Surroundings.recheck_eq_ok_iff ..).2 ht]
  | refused hd ht => rw [execute_recheck, if_pos hd, (Surroundings.recheck_eq_ok_iff ..).2 ht]
  | ceiling hd => rw [execute_recheck, if_neg hd]

/-! ### Actions that may fail -/

/-- An action that may fail. -/
inductive Action
  /-- an instruction is entered -/
  | enter (i : Instruction)
  /-- a conditional loop asks its predicate -/
  | recheck (predicate : Predicate)

/-- The action that frames are about to begin. -/
inductive Begins : List Frame → Action → Prop
  | enter {i : Instruction} {is : List Instruction} {supply : Supply} {fs : List Frame} :
      i.isNothing = false → Begins (⟨i :: is, supply⟩ :: fs) (.enter i)
  | recheck {predicate : Predicate} {done : Nat} {body : List Instruction} {fs : List Frame} :
      done < whileCeiling → Begins (.recheck predicate done body :: fs) (.recheck predicate)

/-- The fault of an action as the run passes it on: a conditional loop has its own way. -/
def Action.passes : Action → Fault → Fault
  | enter _, raised => raised
  | recheck _, raised => raised.outOfLoop

/-- **A fault is passed on as it is raised,** unless it is the predicate of a conditional loop that says
that it has come to its end. -/
theorem Action.passes_eq_self_iff (a : Action) (raised : Fault) :
    a.passes raised = raised ↔ ¬ ∃ predicate text, a = .recheck predicate ∧ raised = .stopped text := by
  cases a with
  | enter i => simp [passes]
  | recheck predicate => simp [passes, Fault.outOfLoop_eq_self_iff]

/-- What an action leads to. -/
def attempt (env : Surroundings ω) : Action → RunState ω → Outcome ω Unit
  | .enter i, s => withoutValue (enter env i s.tick)
  | .recheck predicate, s => withoutValue (env.test predicate s)

/-- An outcome is a fault exactly if it is one without its value. -/
theorem withoutValue_eq_error_iff {α : Type} {o : Outcome ω α} {fault : Fault} {s : RunState ω} :
    withoutValue o = (.error fault, s) ↔ o = (.error fault, s) := by
  rcases o with ⟨fault' | a, s'⟩ <;> simp [withoutValue, Except.map]

/-- An action that fails ends the run. -/
theorem execute_of_attempt {fs : List Frame} {a : Action} {s s' : RunState ω} {raised : Fault}
    (hbegins : Begins fs a) (h : attempt env a s = (.error raised, s')) :
    execute env fs s = (.error (a.passes raised), s') := by
  cases hbegins with
  | enter hi =>
      rw [execute_item hi, withoutValue_eq_error_iff.1 h]
      rfl
  | recheck hd =>
      have hraised := withoutValue_eq_error_iff.1 h
      rw [execute_recheck, if_pos hd, (Surroundings.recheck_eq_error_iff ..).2 ⟨raised, hraised, rfl⟩]
      rfl

/-- **Every run is made of moves,** up to its end or to an action that fails. -/
theorem exists_moves_of_execute (env : Surroundings ω) (fs : List Frame) (s : RunState ω) :
    ∃ fs' t, Relation.ReflTransGen (Moves env) (fs, s) (fs', t)
      ∧ (fs' = [] ∧ execute env fs s = (.ok (), t)
        ∨ ∃ a raised s', Begins fs' a ∧ attempt env a t = (.error raised, s')
            ∧ execute env fs s = (.error (a.passes raised), s')) := by
  -- along the moves of the machine: the run that is left ends in the same way
  fun_induction execute env fs s with
  | case1 s => exact ⟨[], s, .refl, .inl ⟨rfl, rfl⟩⟩
  -- an item that is nothing ends its frame
  | case2 i is supply fs s hn ih =>
      obtain ⟨fs', t, hmoves, hend⟩ := ih
      exact ⟨fs', t, .head (.broken hn) hmoves, hend⟩
  -- an instruction is entered: a fault, no frame, or a frame
  | case3 i is supply fs s hn fault t he =>
      exact ⟨_, s, .refl, .inr ⟨.enter i, fault, t, .enter (Bool.eq_false_iff.2 hn),
        withoutValue_eq_error_iff.2 he, rfl⟩⟩
  | case4 i is supply fs s hn t he ih =>
      obtain ⟨fs', t', hmoves, hend⟩ := ih
      exact ⟨fs', t', .head (.act (Bool.eq_false_iff.2 hn) he) hmoves, hend⟩
  | case5 i is supply fs s hn f t he ih =>
      obtain ⟨fs', t', hmoves, hend⟩ := ih
      exact ⟨fs', t', .head (.opens (Bool.eq_false_iff.2 hn) he) hmoves, hend⟩
  -- nothing follows a block
  | case6 fs s ih =>
      obtain ⟨fs', t, hmoves, hend⟩ := ih
      exact ⟨fs', t, .head .done hmoves, hend⟩
  -- a counted loop: once more, or over
  | case7 done count body fs s hd ih =>
      obtain ⟨fs', t, hmoves, hend⟩ := ih
      exact ⟨fs', t, .head (.iterate hd) hmoves, hend⟩
  | case8 done count body fs s hd ih =>
      obtain ⟨fs', t, hmoves, hend⟩ := ih
      exact ⟨fs', t, .head (.iterated hd) hmoves, hend⟩
  -- a conditional loop: a fault of the predicate, once more, not again, or at the ceiling
  | case9 predicate done body fs s hd fault t ht =>
      obtain ⟨raised, hraised, rfl⟩ := (Surroundings.recheck_eq_error_iff ..).1 ht
      exact ⟨_, s, .refl, .inr ⟨.recheck predicate, raised, t, .recheck hd,
        withoutValue_eq_error_iff.2 hraised, rfl⟩⟩
  | case10 predicate done body fs s hd t ht ih =>
      obtain ⟨fs', t', hmoves, hend⟩ := ih
      exact ⟨fs', t', .head (.again hd ((Surroundings.recheck_eq_ok_iff ..).1 ht)) hmoves, hend⟩
  | case11 predicate done body fs s hd t ht ih =>
      obtain ⟨fs', t', hmoves, hend⟩ := ih
      exact ⟨fs', t', .head (.refused hd ((Surroundings.recheck_eq_ok_iff ..).1 ht)) hmoves, hend⟩
  | case12 predicate done body fs s hd ih =>
      obtain ⟨fs', t, hmoves, hend⟩ := ih
      exact ⟨fs', t, .head (.ceiling hd) hmoves, hend⟩

/-- **A run that ends in a fault ends in an action that fails,** and up to there it is made of moves
without a fault. -/
theorem exists_attempt_of_execute {fs : List Frame} {s s' : RunState ω} {fault : Fault}
    (h : execute env fs s = (.error fault, s')) :
    ∃ fs' t a raised, Relation.ReflTransGen (Moves env) (fs, s) (fs', t) ∧ Begins fs' a
      ∧ attempt env a t = (.error raised, s') ∧ fault = a.passes raised := by
  obtain ⟨fs', t, hmoves, ⟨_, hok⟩ | ⟨a, raised, s'', hbegins, hattempt, herror⟩⟩ :=
    exists_moves_of_execute env fs s
  · rw [h] at hok
    exact absurd (Prod.mk.inj hok).1 (by simp)
  · rw [h] at herror
    obtain ⟨hfault, rfl⟩ := Prod.mk.inj herror
    exact ⟨fs', t, a, raised, hmoves, hbegins, hattempt, Except.error.inj hfault⟩

/-- **A run completes exactly if moves lead to where nothing is left.** -/
theorem execute_eq_ok_iff {fs : List Frame} {s s' : RunState ω} :
    execute env fs s = (.ok (), s')
      ↔ Relation.ReflTransGen (Moves env) (fs, s) ([], s') := by
  constructor
  · intro h
    obtain ⟨fs', t, hmoves, ⟨rfl, hok⟩ | ⟨_, _, _, _, _, herror⟩⟩ :=
      exists_moves_of_execute env fs s
    · rw [h] at hok
      obtain rfl := congrArg Prod.snd hok
      exact hmoves
    · rw [h] at herror
      exact absurd (Prod.mk.inj herror).1 (by simp)
  · intro h
    have hend : ∀ c : Config ω, Relation.ReflTransGen (Moves env) c ([], s') →
        execute env c.1 c.2 = (.ok (), s') := by
      intro c hc
      induction hc using Relation.ReflTransGen.head_induction_on with
      | refl => exact execute_nil
      | head hmove _ ih => rw [execute_of_moves hmove, ih]
    exact hend _ h

/-! ### Instructions of a class -/

/-- A move stays within the instructions of a class. -/
theorem within_of_moves {Q : Instruction → Prop} {c c' : Config ω}
    (hc : ∀ f ∈ c.1, f.Within Q) (h : Moves env c c') : ∀ f ∈ c'.1, f.Within Q := by
  cases h with
  | done => exact (List.forall_mem_cons.1 hc).2
  | broken => exact (List.forall_mem_cons.1 hc).2
  | act hi henter =>
      obtain ⟨hframe, hfs⟩ := List.forall_mem_cons.1 hc
      exact List.forall_mem_cons.2 ⟨(within_cons.1 hframe).2, hfs⟩
  | opens hi henter =>
      obtain ⟨hframe, hfs⟩ := List.forall_mem_cons.1 hc
      obtain ⟨hitem, hrest⟩ := within_cons.1 hframe
      have hopened := hitem.opens (opens_of_enter henter)
      exact List.forall_mem_cons.2 ⟨hopened, List.forall_mem_cons.2 ⟨hrest, hfs⟩⟩
  | iterate =>
      obtain ⟨hframe, hfs⟩ := List.forall_mem_cons.1 hc
      exact List.forall_mem_cons.2 ⟨⟨hframe.2, hframe.2⟩, hfs⟩
  | again =>
      obtain ⟨hframe, hfs⟩ := List.forall_mem_cons.1 hc
      exact List.forall_mem_cons.2 ⟨⟨hframe.2.2, hframe.2⟩, hfs⟩
  | iterated => exact (List.forall_mem_cons.1 hc).2
  | refused => exact (List.forall_mem_cons.1 hc).2
  | ceiling => exact (List.forall_mem_cons.1 hc).2

/-- Moves one after another stay within them too. -/
theorem within_of_reflTransGen {Q : Instruction → Prop} {c c' : Config ω}
    (hc : ∀ f ∈ c.1, f.Within Q) (h : Relation.ReflTransGen (Moves env) c c') :
    ∀ f ∈ c'.1, f.Within Q := by
  induction h with
  | refl => exact hc
  | tail _ hmove ih => exact within_of_moves ih hmove

/-! ### Why an action fails -/

/-- **All the reasons for which an action fails** in a state, with the fault that each of them gives
and the robot that it leaves.  What comes from outside is raised unchanged. -/
inductive Fails (env : Surroundings ω) (t : RunState ω) : Action → Fault → Robot → Prop
  /-- the predicate of a condition fails -/
  | condition {id : Nat} {thenBranch elseBranch : List Instruction} {fault : Fault} {world : ω} :
      env.ask id t.robot.memory t.world = (.error fault, world) →
      Fails env t (.enter (.cond (.external id) thenBranch elseBranch)) fault t.robot
  /-- the predicate of a conditional loop fails, at the first time or at a later one -/
  | recheck {id : Nat} {fault : Fault} {world : ω} :
      env.ask id t.robot.memory t.world = (.error fault, world) →
      Fails env t (.recheck (.external id)) fault t.robot
  /-- a sensor gives no reading -/
  | sensor {kind target : String} {sensor : Int8} {fault : Fault} {world : ω} :
      env.read ⟨kind, sensor.toInt⟩ t.world = (.error fault, world) →
      Fails env t (.enter (.sense kind sensor target)) fault t.robot
  /-- a sensor gives an integer beyond all doubles -/
  | reading {kind target : String} {sensor : Int8} {reading : Number} {world : ω} :
      env.read ⟨kind, sensor.toInt⟩ t.world = (.ok reading, world) → reading.toFloat? = none →
      Fails env t (.enter (.sense kind sensor target)) .integerTooLarge t.robot
  /-- there are no actuators of a kind -/
  | kind {kind : String} {actuator : Int8} {value : Binary64} :
      ActuatorKind.ofName? kind = none →
      Fails env t (.enter (.actuate kind actuator value)) (.unknownActuator kind) t.robot
  /-- a servo, which is registered first, is set to an infinity -/
  | angle {actuator : Int8} {negative : Bool} :
      Fails env t (.enter (.actuate "servo" actuator (.infinite negative))) .angleInfinite
        (t.robot.register ⟨.servo, actuator.toInt⟩)
  /-- a heading that is an integer beyond all doubles meets degrees that are a double -/
  | heading {n : Int} {x : Binary64} :
      t.robot.heading = .int n → Binary64.ofInt? n = none →
      Fails env t (.enter (.turn (.float x))) .integerTooLarge
        (t.robot.say ("Turning " ++ (Number.float x).text ++ " degrees"))
  /-- degrees that are an integer beyond all doubles meet a heading that is a double -/
  | degrees {n : Int} {x : Binary64} :
      t.robot.heading = .float x → Binary64.ofInt? n = none →
      Fails env t (.enter (.turn (.int n))) .integerTooLarge
        (t.robot.say ("Turning " ++ (Number.int n).text ++ " degrees"))
  /-- an item is no instruction -/
  | foreign {item : Foreign} :
      Fails env t (.enter (.foreign item)) (.foreignItem item) t.robot

/-- A predicate that fails is one from outside. -/
theorem exists_ask_of_test {predicate : Predicate} {s s' : RunState ω} {fault : Fault}
    (h : env.test predicate s = (.error fault, s')) :
    ∃ id world, predicate = .external id ∧ env.ask id s.robot.memory s.world = (.error fault, world)
      ∧ s' = { s with world := world } := by
  cases predicate with
  | threshold t => exact absurd (Prod.mk.inj h).1 (by simp)
  | leftBrighter => exact absurd (Prod.mk.inj h).1 (by simp)
  | external id =>
      obtain ⟨hanswer, rfl⟩ := Prod.mk.inj h
      exact ⟨id, _, rfl, Prod.ext hanswer rfl, rfl⟩

/-- A reading fails as the sensor does, or because it is an integer beyond all doubles. -/
theorem exists_read_of_sample {channel : Channel} {s s' : RunState ω} {fault : Fault}
    (h : env.sample channel s = (.error fault, s')) :
    (∃ world, env.read channel s.world = (.error fault, world))
      ∨ fault = .integerTooLarge ∧ ∃ reading world,
          env.read channel s.world = (.ok reading, world) ∧ reading.toFloat? = none := by
  unfold Surroundings.sample at h
  rcases hread : env.read channel s.world with ⟨fault' | reading, world⟩
  · simp only [hread, Prod.mk.injEq, Except.error.injEq] at h
    exact .inl ⟨world, by rw [h.1]⟩
  · cases hx : reading.toFloat? with
    | none =>
        simp only [hread, hx, Prod.mk.injEq, Except.error.injEq] at h
        exact .inr ⟨h.1.symm, reading, world, rfl, hx⟩
    | some x =>
        simp only [hread, hx, Prod.mk.injEq, reduceCtorEq, false_and] at h

/-- A sum fails when one number is an integer beyond all doubles and the other one a double. -/
theorem add?_eq_none {x y : Number} (h : x.add? y = none) :
    (∃ n z, x = .int n ∧ y = .float z ∧ Binary64.ofInt? n = none)
      ∨ ∃ z n, x = .float z ∧ y = .int n ∧ Binary64.ofInt? n = none := by
  cases x with
  | int m =>
      cases y with
      | int n => exact absurd h (by simp [Number.add?, Number.combine?])
      | float z =>
          cases hm : Binary64.ofInt? m with
          | none => exact .inl ⟨m, z, rfl, rfl, hm⟩
          | some w => exact absurd h (by simp [Number.add?, Number.combine?, Number.toFloat?, hm])
  | float z =>
      cases y with
      | int n =>
          cases hn : Binary64.ofInt? n with
          | none => exact .inr ⟨z, n, rfl, rfl, hn⟩
          | some w => exact absurd h (by simp [Number.add?, Number.combine?, Number.toFloat?, hn])
      | float w => exact absurd h (by simp [Number.add?, Number.combine?, Number.toFloat?])

/-- Servos refuse the infinities, and nothing else is refused. -/
theorem accept?_eq_none {kind : ActuatorKind} {value : Binary64} (h : kind.accept? value = none) :
    kind = .servo ∧ ∃ negative, value = .infinite negative := by
  cases kind with
  | motor => exact absurd h (by simp [ActuatorKind.accept?])
  | led => exact absurd h (by simp [ActuatorKind.accept?])
  | servo =>
      cases value with
      | infinite negative => exact ⟨rfl, negative, rfl⟩
      | nan => exact absurd h (by simp [ActuatorKind.accept?])
      | finite negative units isMagnitude => exact absurd h (by simp [ActuatorKind.accept?])

/-- A kind of actuators has one name. -/
theorem name_of_ofName? {name : String} {kind : ActuatorKind}
    (h : ActuatorKind.ofName? name = some kind) : kind.name = name := by
  simpa using List.find?_some h

theorem closed_eq_error_iff {o : Outcome ω Unit} {fault : Fault} {s : RunState ω} :
    closed o = (.error fault, s) ↔ o = (.error fault, s) := by
  rcases o with ⟨fault' | u, s'⟩ <;> simp [closed]

theorem fails_turn {degrees : Number} {t s' : RunState ω} {fault : Fault}
    (h : turn degrees t.tick = (.error fault, s')) :
    Fails env t (.enter (.turn degrees)) fault s'.robot := by
  rcases turn_cases degrees t.tick with ⟨heading, _, hturn⟩ | ⟨hnone, hturn⟩
  · rw [hturn] at h
    exact absurd (Prod.mk.inj h).1 (by simp)
  · rw [hturn] at h
    obtain ⟨hfault, rfl⟩ := Prod.mk.inj h
    obtain rfl := Except.error.inj hfault
    rcases add?_eq_none hnone with ⟨n, x, hheading, rfl, hn⟩ | ⟨x, n, hheading, rfl, hn⟩
    · exact .heading hheading hn
    · exact .degrees hheading hn

theorem fails_sense {kind target : String} {sensor : Int8} {t s' : RunState ω} {fault : Fault}
    (h : sense env kind sensor target t.tick = (.error fault, s')) :
    Fails env t (.enter (.sense kind sensor target)) fault s'.robot := by
  rcases sense_cases env kind sensor target t.tick with
    ⟨fault', world, hsample, hsense⟩ | ⟨x, world, _, hsense⟩
  · rw [hsense] at h
    obtain ⟨hfault, rfl⟩ := Prod.mk.inj h
    obtain rfl := Except.error.inj hfault
    rcases exists_read_of_sample hsample with ⟨world', hread⟩ | ⟨rfl, reading, world', hread, hx⟩
    · exact .sensor hread
    · exact .reading hread hx
  · rw [hsense] at h
    exact absurd (Prod.mk.inj h).1 (by simp)

theorem fails_actuate {kind : String} {actuator : Int8} {value : Binary64} {t s' : RunState ω}
    {fault : Fault} (h : actuate kind actuator value t.tick = (.error fault, s')) :
    Fails env t (.enter (.actuate kind actuator value)) fault s'.robot := by
  rcases actuate_cases kind actuator value t.tick with
    ⟨hkind, hset⟩ | ⟨k, hkind, ⟨hvalue, hset⟩ | ⟨x, _, hset⟩⟩
  · rw [hset] at h
    obtain ⟨hfault, rfl⟩ := Prod.mk.inj h
    obtain rfl := Except.error.inj hfault
    exact .kind hkind
  · rw [hset] at h
    obtain ⟨hfault, rfl⟩ := Prod.mk.inj h
    obtain rfl := Except.error.inj hfault
    obtain ⟨rfl, negative, rfl⟩ := accept?_eq_none hvalue
    obtain rfl : "servo" = kind := name_of_ofName? hkind
    exact .angle
  · rw [hset] at h
    exact absurd (Prod.mk.inj h).1 (by simp)

/-- **An action fails for one of the reasons,** and leaves the robot that goes with it. -/
theorem fails_of_attempt {a : Action} {t s' : RunState ω} {fault : Fault}
    (h : attempt env a t = (.error fault, s')) : Fails env t a fault s'.robot := by
  cases a with
  | recheck predicate =>
      obtain ⟨id, world, rfl, hask, rfl⟩ := exists_ask_of_test (withoutValue_eq_error_iff.1 h)
      exact .recheck hask
  | enter i =>
      have henter := withoutValue_eq_error_iff.1 h
      cases i with
      | turn degrees => exact fails_turn (closed_eq_error_iff.1 henter)
      | sense kind sensor target => exact fails_sense (closed_eq_error_iff.1 henter)
      | actuate kind actuator value => exact fails_actuate (closed_eq_error_iff.1 henter)
      | cond predicate thenBranch elseBranch =>
          have htest : env.test predicate t.tick = (.error fault, s') := by
            simp only [enter] at henter
            split at henter
            · exact absurd (Prod.mk.inj henter).1 (by simp)
            · exact absurd (Prod.mk.inj henter).1 (by simp)
            · rename_i fault' s'' ht
              obtain ⟨hfault, rfl⟩ := Prod.mk.inj henter
              rw [ht, Except.error.inj hfault]
          obtain ⟨id, world, rfl, hask, rfl⟩ := exists_ask_of_test htest
          exact .condition hask
      | foreign item =>
          obtain ⟨hfault, rfl⟩ := Prod.mk.inj henter
          obtain rfl := Except.error.inj hfault
          exact .foreign
      | _ => exact absurd (Prod.mk.inj henter).1 (by simp)

/-! ### What a failed action leaves -/

/-- The lines that an action says although it fails: those of a turn. -/
def Action.lines (r : Robot) : Action → Array String
  | .enter (.turn degrees) => #[r.line ("Turning " ++ degrees.text ++ " degrees")]
  | _ => #[]

/-- **A robot that a failed action spares:** everything is as it was, except that a turn has said its
line, and that a servo may have been registered, with the value zero, that was not. -/
structure Spares (a : Action) (r r' : Robot) : Prop where
  name_eq : r'.name = r.name
  memory_eq : r'.memory = r.memory
  heading_eq : r'.heading = r.heading
  mode_eq : r'.mode = r.mode
  trace_eq : r'.trace = r.trace ++ a.lines r
  journal_eq : r'.journal = r.journal ++ a.lines r
  get?_eq : ∀ address value,
    r.actuators.get? address = some value → r'.actuators.get? address = some value
  entries_eq : r'.actuators.entries = r.actuators.entries
    ∨ ∃ actuator value, a = .enter (.actuate "servo" actuator value)
        ∧ r.actuators.get? ⟨.servo, actuator.toInt⟩ = none
        ∧ r'.actuators.entries
          = r.actuators.entries
            ++ [(⟨.servo, actuator.toInt⟩, ⟨.servo, actuator.toInt, .zero false⟩)]

/-- A robot is spared by an action that says nothing and leaves it alone. -/
theorem Spares.refl {a : Action} {r : Robot} (h : a.lines r = #[]) : Spares a r r :=
  ⟨rfl, rfl, rfl, rfl, by rw [h, Array.append_empty], by rw [h, Array.append_empty],
    fun _ _ hvalue => hvalue, .inl rfl⟩

/-- A turn that fails has said its line. -/
theorem Spares.turn (degrees : Number) (r : Robot) :
    Spares (.enter (.turn degrees)) r (r.say ("Turning " ++ degrees.text ++ " degrees")) :=
  ⟨rfl, rfl, rfl, rfl, Array.push_eq_append, Array.push_eq_append, fun _ _ hvalue => hvalue,
    .inl rfl⟩

/-- A servo that refuses its angle is registered. -/
theorem Spares.register (actuator : Int8) (value : Binary64) (r : Robot) :
    Spares (.enter (.actuate "servo" actuator value)) r
      (r.register ⟨.servo, actuator.toInt⟩) := by
  refine ⟨rfl, rfl, rfl, rfl, (Array.append_empty ..).symm, (Array.append_empty ..).symm, ?_, ?_⟩
  · intro address x hx
    exact Bank.get?_register_of_some hx
  · cases hx : r.actuators.find? ⟨.servo, actuator.toInt⟩ with
    | some x => exact .inl (by rw [Robot.register, Bank.entries_register_of_some hx])
    | none =>
        have hnone : r.actuators.get? ⟨.servo, actuator.toInt⟩ = none := by
          rw [Bank.get?, hx, Option.map_none]
        refine .inr ⟨actuator, value, rfl, hnone, ?_⟩
        rw [Robot.register, Bank.entries_register_of_none hx, Actuator.new_eq]

/-- **An action that fails spares the robot.** -/
theorem Fails.spares {t : RunState ω} {a : Action} {fault : Fault} {r : Robot}
    (h : Fails env t a fault r) : Spares a t.robot r := by
  cases h with
  | heading => exact .turn _ _
  | degrees => exact .turn _ _
  | angle => exact .register _ _ _
  | _ => exact .refl rfl

/-! ### Programs -/

/-- A program ends in a fault when its instructions do, and nothing is said behind the fault. -/
theorem runProgram_eq_error_iff {p : Program} {s s' : RunState ω} {fault : Fault} :
    runProgram env p s = (.error fault, s')
      ↔ executeBlock env p.instructions (s.say ("=== Running program: " ++ p.name ++ " ==="))
          = (.error fault, s') := by
  unfold runProgram
  rcases executeBlock env p.instructions
    (s.say ("=== Running program: " ++ p.name ++ " ===")) with ⟨fault' | u, t⟩
  · simp
  · simp

/-- **A fault leaves the robot as it was when the action began that failed.**  A program that ends in
a fault has made its moves up to a state `t`, in which it began an action that failed for one of the
known reasons; the state that the run leaves is the one that this action leaves, and the action spares
the robot.  The fault of the run is the one that was raised, unless the predicate of a conditional loop
said that it has come to its end. -/
theorem runProgram_error {p : Program} {s s' : RunState ω} {fault : Fault}
    (h : runProgram env p s = (.error fault, s')) :
    ∃ fs t a raised,
      Relation.ReflTransGen (Moves env)
          ([.block p.instructions], s.say ("=== Running program: " ++ p.name ++ " ===")) (fs, t)
        ∧ Begins fs a ∧ attempt env a t = (.error raised, s')
        ∧ Fails env t a raised s'.robot ∧ Spares a t.robot s'.robot
        ∧ fault = a.passes raised
        ∧ (fault = raised ↔ ¬ ∃ predicate text, a = .recheck predicate ∧ raised = .stopped text) := by
  obtain ⟨fs, t, a, raised, hmoves, hbegins, hattempt, rfl⟩ :=
    exists_attempt_of_execute (runProgram_eq_error_iff.1 h)
  have hfails := fails_of_attempt hattempt
  exact ⟨fs, t, a, raised, hmoves, hbegins, hattempt, hfails, hfails.spares, rfl,
    a.passes_eq_self_iff raised⟩

/-- A servo that was not registered is set to an infinity, inside two loops: the run ends there, and
the robot is spared. -/
theorem runProgram_error_spin :
    ∃ s', runProgram Bench.surroundings
          ⟨"spin", [.loop 1 [.repeatWhile (.external 0)
            [.log "tick", .actuate "servo" 7 (.infinite false)]]]⟩
          (.start (.new "Coco") ⟨.scripted [], #[.constant true]⟩) = (.error .angleInfinite, s')
      ∧ ∃ fs t a raised, Begins fs a ∧ attempt Bench.surroundings a t = (.error raised, s')
        ∧ Spares a t.robot s'.robot ∧ Fault.angleInfinite = a.passes raised := by
  have hrun (r : Robot) (hr : r.actuators = .initial) : ∃ s', executeBlock Bench.surroundings
      [.loop 1 [.repeatWhile (.external 0) [.log "tick", .actuate "servo" 7 (.infinite false)]]]
      (.start r ⟨.scripted [], #[.constant true]⟩) = (.error .angleInfinite, s') := by
    obtain ⟨name, memory, heading, bank, mode, trace, journal⟩ := r
    obtain rfl : bank = .initial := hr
    rw [executeBlock, execute_eq_stackEffect]
    exact ⟨_, rfl⟩
  obtain ⟨s', hs'⟩ := hrun ((Robot.new "Coco").say ("=== Running program: " ++ "spin" ++ " ===")) rfl
  have hprogram : runProgram Bench.surroundings ⟨"spin", _⟩ (.start (.new "Coco") _)
      = (.error .angleInfinite, s') := runProgram_eq_error_iff.2 hs'
  obtain ⟨fs, t, a, raised, _, hbegins, hattempt, _, hspares, hpassed, _⟩ := runProgram_error hprogram
  exact ⟨s', hprogram, fs, t, a, raised, hbegins, hattempt, hspares, hpassed⟩

/-- **A fault that is not passed on, and one that is not raised:** the predicate of a conditional loop
says that it has come to its end, and the run ends in another fault; and a program with an item that is
nothing at all completes. -/
theorem stopped_not_passed_on :
    let env : Surroundings Unit :=
      ⟨fun _ world => (.error .sensorOffline, world), fun _ _ world => (.error (.stopped ""), world)⟩
    let s : RunState Unit := .start (.new "Coco") ()
    ((runProgram env ⟨"spin", [.repeatWhile (.external 0) [.log "x"]]⟩ s).1 = .error .loopStopped
        ∧ ∀ t, (attempt env (.recheck (.external 0)) t).1 = .error (.stopped ""))
      ∧ (runProgram env ⟨"gap", [.foreign .nothing]⟩ s).1
        = .ok ⟨0, ["[Coco] === Running program: gap ===", "[Coco] === Program complete: gap ==="]⟩ := by
  intro env s
  unfold runProgram
  simp only [executeBlock_eq_blockEffect]
  exact ⟨⟨rfl, fun _ => rfl⟩, rfl⟩

end Run

end RobotShorthand
