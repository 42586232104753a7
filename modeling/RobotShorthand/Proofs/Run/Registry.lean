/-
**The actuators of a robot.**

Wherever a robot has been and whatever has been done with it, its actuators are in order: the standard
ones are there, every value is one that the kind allows, and the lists of motors, servos and lights show
each of them once, by number.  Whoever sets an actuator as its kind takes values cannot break this, be it
with not-a-number or an infinity or an integer beyond all doubles; nor can a program, whether it
completes or ends in a fault.

The actions that touch actuators are few.  Each of them registers, sets to a value that was accepted, or
stops; so each keeps the bank sound, and so do all runs and all operations.  An actuator that refuses its
value is registered at most, and what was registered before is not touched at all.

Main definitions:

* `Operation.IsRegular` — operations other than giving an actuator a value that its kind does not take;
* `Regular` — **the states that can be reached by them;**
* `InOrder` — **actuators that are in order.**

Main results:

* `isSound_enter`, `isSound_executeBlock`, `isSound_runProgram` — actions and runs keep banks sound;
* `address_cases` — what addressing an actuator does;
* `Operation.IsRegular.isSound` — every operation keeps banks sound;
* `inOrder_of_regular` — **actuators are in order in every state that can be reached, and a refusal leaves
  the registered ones alone.**
-/

import RobotShorthand.Proofs.Robot.Limits
import RobotShorthand.Proofs.Run.Renewal

set_option relaxedAutoImplicit false
set_option autoImplicit false

namespace RobotShorthand

namespace Run

variable {ω : Type}

/-! ### Actions -/

section Actions

variable {env : Surroundings ω} {s : RunState ω}

theorem isSound_turn (h : s.robot.actuators.IsSound) (degrees : Number) :
    (turn degrees s).2.robot.actuators.IsSound := by
  rcases turn_cases degrees s with ⟨heading, _, hturn⟩ | ⟨_, hturn⟩ <;> rwa [hturn]

theorem isSound_sense (h : s.robot.actuators.IsSound) (kind : String) (sensor : Int8)
    (target : String) : (sense env kind sensor target s).2.robot.actuators.IsSound := by
  rcases sense_cases env kind sensor target s with
    ⟨fault, world, _, hsense⟩ | ⟨x, world, _, hsense⟩ <;> rwa [hsense]

theorem isSound_actuate (h : s.robot.actuators.IsSound) (kind : String) (actuator : Int8)
    (value : Binary64) : (actuate kind actuator value s).2.robot.actuators.IsSound := by
  rcases actuate_cases kind actuator value s with ⟨_, hset⟩ | ⟨k, _, ⟨_, hset⟩ | ⟨x, hx, hset⟩⟩
  · rwa [hset]
  · rw [hset]
    exact h.register _
  · rw [hset]
    exact (h.register _).set (ActuatorKind.allows_of_accept? hx)

theorem isSound_test (h : s.robot.actuators.IsSound) (predicate : Predicate) :
    (env.test predicate s).2.robot.actuators.IsSound := by
  obtain ⟨world, htest⟩ := exists_world_test env predicate s
  rwa [htest]

/-- **An action keeps the bank sound,** whether it fails or not. -/
theorem isSound_enter (h : s.robot.actuators.IsSound) (i : Instruction) :
    (enter env i s).2.robot.actuators.IsSound := by
  cases i with
  | move direction distance =>
      obtain ⟨hleft, hright⟩ := ActuatorKind.allows_movePowers direction
      exact (h.set hleft).set hright
  | turn degrees => simpa only [enter, closed_snd] using isSound_turn h degrees
  | sense kind sensor target => simpa only [enter, closed_snd] using isSound_sense h kind sensor target
  | actuate kind actuator value =>
      simpa only [enter, closed_snd] using isSound_actuate h kind actuator value
  | cond predicate thenBranch elseBranch =>
      have htest : (env.test predicate s).2.robot.actuators.IsSound := isSound_test h predicate
      simp only [enter]
      rcases ht : env.test predicate s with ⟨fault | (_ | _), s'⟩ <;> rwa [ht] at htest
  | halt => exact h.stop
  | _ => exact h

/-! ### Runs -/

theorem kept_isSound (env : Surroundings ω) :
    Kept env (fun _ => True)
      (fun s o => s.robot.actuators.IsSound → o.2.robot.actuators.IsSound) where
  done _ h := h
  next h h' hs := h' (h hs)
  enter i s _ h := isSound_enter (s := s.tick) h i
  line _ _ h := h
  ask predicate _ _ _ h := isSound_test h predicate

/-- A run keeps the bank sound. -/
theorem isSound_executeBlock (env : Surroundings ω) (is : List Instruction)
    (h : s.robot.actuators.IsSound) : (executeBlock env is s).2.robot.actuators.IsSound :=
  (kept_isSound env).executeBlock (fun _ _ => trivial) s h

/-- **A program keeps the bank sound,** whether it completes or ends in a fault. -/
theorem isSound_runProgram (env : Surroundings ω) (p : Program) (h : s.robot.actuators.IsSound) :
    (runProgram env p s).2.robot.actuators.IsSound := by
  have hrun : (executeBlock env p.instructions
      (s.say ("=== Running program: " ++ p.name ++ " ==="))).2.robot.actuators.IsSound :=
    isSound_executeBlock env p.instructions h
  unfold runProgram
  rcases hblock : executeBlock env p.instructions
    (s.say ("=== Running program: " ++ p.name ++ " ===")) with ⟨fault | u, t⟩ <;>
    rwa [hblock] at hrun

end Actions

/-! ### Addressing -/

section Addressing

/-- **What addressing an actuator does.**  An unknown kind is refused, and nothing happens.  An actuator
of a known kind is registered; a value that is given is refused if it is an integer beyond all doubles,
or an infinity for a servo, and else the actuator is set to what its kind takes. -/
theorem address_cases (kind : String) (number : Int) (value? : Option Number) (s : RunState ω) :
    (ActuatorKind.ofName? kind = none
      ∧ Run.address kind number value? s = (.error (.unknownActuator kind), s))
    ∨ ∃ k, ActuatorKind.ofName? kind = some k
      ∧ ((value? = none
          ∧ Run.address kind number value? s
            = (.ok ((s.robot.register ⟨k, number⟩).actuators.actuator ⟨k, number⟩).value,
                s.withRobot (s.robot.register ⟨k, number⟩)))
        ∨ (∃ fault, (value?.bind Number.toFloat? = none ∧ fault = .integerTooLarge
              ∨ k = .servo ∧ (∃ negative, value?.bind Number.toFloat? = some (.infinite negative))
                ∧ fault = .angleInfinite)
            ∧ Run.address kind number value? s
              = (.error fault, s.withRobot (s.robot.register ⟨k, number⟩)))
        ∨ ∃ given x, value?.bind Number.toFloat? = some given ∧ k.accept? given = some x
          ∧ Run.address kind number value? s
            = (.ok x, s.withRobot ((s.robot.register ⟨k, number⟩).setActuator ⟨k, number⟩ x))) := by
  unfold Run.address
  cases hkind : ActuatorKind.ofName? kind with
  | none => exact .inl ⟨rfl, rfl⟩
  | some k =>
      refine .inr ⟨k, rfl, ?_⟩
      cases value? with
      | none => exact .inl ⟨rfl, rfl⟩
      | some value =>
          refine .inr ?_
          simp only [Option.bind_some]
          cases hgiven : value.toFloat? with
          | none => exact .inl ⟨.integerTooLarge, .inl ⟨rfl, rfl⟩, rfl⟩
          | some given =>
              simp only [Actuator.accept?, Bank.kind_actuator]
              cases hx : k.accept? given with
              | none =>
                  obtain ⟨hservo, negative, rfl⟩ := accept?_eq_none hx
                  exact .inl ⟨.angleInfinite, .inr ⟨hservo, ⟨negative, rfl⟩, rfl⟩, rfl⟩
              | some x => exact .inr ⟨given, x, rfl, hx, rfl⟩

variable {s : RunState ω}

theorem isSound_address (h : s.robot.actuators.IsSound) (kind : String) (number : Int)
    (value? : Option Number) :
    (Run.address kind number value? s).2.robot.actuators.IsSound := by
  rcases address_cases kind number value? s with
    ⟨_, hnone⟩ | ⟨k, _, ⟨_, hlooked⟩ | ⟨fault, _, hrefused⟩ | ⟨given, x, _, hx, hset⟩⟩
  · rwa [hnone]
  · rw [hlooked]
    exact h.register _
  · rw [hrefused]
    exact h.register _
  · rw [hset]
    exact (h.register _).set (ActuatorKind.allows_of_accept? hx)

/-- **A refusal leaves every actuator that is registered as it was.** -/
theorem get?_address_error {kind : String} {number : Int} {value? : Option Number} {fault : Fault}
    (h : (Run.address kind number value? s).1 = .error fault) {a : Address} {x : Binary64}
    (hx : s.robot.actuators.get? a = some x) :
    (Run.address kind number value? s).2.robot.actuators.get? a = some x := by
  rcases address_cases kind number value? s with
    ⟨_, hnone⟩ | ⟨k, _, ⟨_, hlooked⟩ | ⟨fault', _, hrefused⟩ | ⟨given, y, _, _, hset⟩⟩
  · rwa [hnone]
  · rw [hlooked] at h
    exact absurd h (by simp)
  · rw [hrefused]
    exact Bank.get?_register_of_some hx
  · rw [hset] at h
    exact absurd h (by simp)

/-- An instruction that is refused leaves every actuator that is registered as it was. -/
theorem get?_actuate_error {kind : String} {actuator : Int8} {value : Binary64} {fault : Fault}
    (h : (actuate kind actuator value s).1 = .error fault) {a : Address} {x : Binary64}
    (hx : s.robot.actuators.get? a = some x) :
    (actuate kind actuator value s).2.robot.actuators.get? a = some x := by
  rcases actuate_cases kind actuator value s with ⟨_, hnone⟩ | ⟨k, _, ⟨_, hrefused⟩ | ⟨y, _, hset⟩⟩
  · rwa [hnone]
  · rw [hrefused]
    exact Bank.get?_register_of_some hx
  · rw [hset] at h
    exact absurd h (by simp)

end Addressing

/-! ### Operations -/

/-- Operations other than giving an actuator a value that its kind does not take. -/
def Operation.IsRegular : Operation → Prop
  | assign _ _ => False
  | _ => True

/-- **A state that can be reached** with a robot that was new under a name, by operations that set
actuators only as their kinds take values. -/
inductive Regular (env : Surroundings ω) (name : String) : RunState ω → Prop
  | new (world : ω) : Regular env name (.start (.new name) world)
  | perform {s : RunState ω} {operation : Operation} :
      operation.IsRegular → Regular env name s → Regular env name (operation.perform env s)

section Operations

variable {env : Surroundings ω} {s : RunState ω}

/-- **Every operation keeps the bank sound.** -/
theorem Operation.IsRegular.isSound {operation : Operation} (hregular : operation.IsRegular)
    (h : s.robot.actuators.IsSound) : (operation.perform env s).robot.actuators.IsSound := by
  cases operation with
  | run p => exact isSound_runProgram env p h
  | execute is => exact isSound_executeBlock env is h
  | address kind number value? => exact isSound_address h kind number value?
  | assign a value => exact absurd hregular id
  | read channel =>
      obtain ⟨world, hworld⟩ := exists_world_sample env channel s
      rwa [Operation.perform, hworld]
  | transition source target =>
      rw [Operation.perform]
      cases hr : s.robot.transition source target with
      | error refusal => exact h
      | ok r =>
          obtain ⟨_, rfl⟩ := (Robot.transition_eq_ok_iff s.robot r source target).1 hr
          exact h
  | stop => exact h.stop
  | reset => exact h.stop
  | _ => exact h

namespace Regular

variable {name : String}

theorem reached (h : Regular env name s) : Reached env name s := by
  induction h with
  | new world => exact .new world
  | perform _ _ ih => exact .perform _ ih

theorem isSound (h : Regular env name s) : s.robot.actuators.IsSound := by
  induction h with
  | new world => exact .initial
  | perform hregular _ ih => exact hregular.isSound ih

end Regular

/-! ### Order -/

/-- **Actuators that are in order.** -/
structure InOrder (b : Bank) : Prop where
  /-- an actuator is of the kind and has the number that it is registered under -/
  identity : ∀ a actuator, b.find? a = some actuator →
    actuator.kind = a.kind ∧ actuator.number = a.number
  /-- the standard actuators are registered: two motors, two servos and three lights -/
  standard : ∀ a ∈ Bank.standard, ∃ x, b.get? a = some x
  /-- every value is one that the kind allows -/
  allows : ∀ a x, b.get? a = some x → a.kind.Allows x
  /-- no value is infinite, and only a servo can be set to not-a-number -/
  definite : ∀ a x, b.get? a = some x →
    (∀ negative, x ≠ .infinite negative) ∧ (a.kind ≠ .servo → x ≠ .nan)
  /-- what is registered under a kind and a number is listed under the kind by that number, and nothing
  else is -/
  listed : ∀ kind i actuator,
    b.find? ⟨kind, i⟩ = some actuator ↔ actuator ∈ b.ofKind kind ∧ actuator.number = i
  /-- numbers increase, so no actuator is listed twice -/
  increasing : ∀ kind, (b.ofKind kind).Pairwise fun x y => x.number < y.number

/-- **Actuators are in order in every state that can be reached,** and what is registered there is left
alone when an actuator is addressed under an unknown kind, or refuses the value it is given. -/
theorem inOrder_of_regular {name : String} (h : Regular env name s) :
    InOrder s.robot.actuators
      ∧ (∀ kind number value? fault, (Run.address kind number value? s).1 = .error fault →
          ∀ a x, s.robot.actuators.get? a = some x →
            (Run.address kind number value? s).2.robot.actuators.get? a = some x)
      ∧ ∀ kind actuator value fault, (actuate kind actuator value s).1 = .error fault →
          ∀ a x, s.robot.actuators.get? a = some x →
            (actuate kind actuator value s).2.robot.actuators.get? a = some x := by
  have hsound := h.isSound
  refine ⟨⟨?_, h.reached.intact.isEquipped, hsound.allows, ?_, ?_, hsound.pairwise_ofKind⟩, ?_, ?_⟩
  · intro a actuator hfound
    have haddress := Bank.address_of_find? hfound
    exact ⟨congrArg Address.kind haddress, congrArg Address.number haddress⟩
  · intro a x hx
    have hallows := hsound.allows a x hx
    exact ⟨hallows.ne_infinite, hallows.ne_nan⟩
  · intro kind i actuator
    exact hsound.mem_ofKind
  · intro kind number value? fault hfault a x hx
    exact get?_address_error hfault hx
  · intro kind actuator value fault hfault a x hx
    exact get?_actuate_error hfault hx

/-- A motor that was given not-a-number, and a program that ended at an infinite angle, leave actuators
in order; and a servo that is given an infinity refuses it, and leaves that motor where it is. -/
theorem inOrder_of_regular_wild :
    let env := Bench.surroundings
    let s₀ : RunState Bench := .start (.new "Coco") (.ofSensors (.scripted []))
    let s₁ := (Operation.address "motor" 3 (some (.float .nan))).perform env s₀
    let spin : Program := ⟨"spin", [.move .left 5, .actuate "servo" 7 (.infinite false)]⟩
    let s := (Operation.run spin).perform env s₁
    Regular env "Coco" s ∧ InOrder s.robot.actuators
      ∧ (Run.address "servo" 0 (some (.float (.infinite true))) s).1 = .error .angleInfinite
      ∧ ∃ x, s.robot.actuators.get? ⟨.motor, 3⟩ = some x ∧ x ≠ .nan
        ∧ (Run.address "servo" 0 (some (.float (.infinite true))) s).2.robot.actuators.get? ⟨.motor, 3⟩
          = some x := by
  intro env s₀ s₁ spin s
  have hs₁ : Regular env "Coco" s₁ := .perform (s := s₀) trivial (.new _)
  have hs : Regular env "Coco" s := .perform (s := s₁) trivial hs₁
  obtain ⟨horder, haddress, _⟩ := inOrder_of_regular hs
  have hrefused : (Run.address "servo" 0 (some (.float (.infinite true))) s).1
      = .error .angleInfinite := by
    have hservo : ActuatorKind.ofName? "servo" = some .servo := by decide
    simp only [Run.address, hservo, Number.toFloat?, Actuator.accept?, Bank.kind_actuator,
      ActuatorKind.accept?]
  -- the motor is set before the run, and the run takes no actuator away
  have hset : s₁.robot.actuators.get? ⟨.motor, 3⟩ = some (Binary64.clamp (-100) 100 .nan) :=
    Bank.get?_set_self _ _ _
  obtain ⟨x, hx⟩ := (footprint_of_program env _ hs₁.reached.intact.isEquipped).registered _ _ hset
  exact ⟨hs, horder, hrefused, x, hx, (horder.definite _ x hx).2 (by decide),
    haddress _ _ _ _ hrefused _ x hx⟩

end Operations

end Run

end RobotShorthand
