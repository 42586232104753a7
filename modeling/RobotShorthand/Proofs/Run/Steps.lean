/-
**The steps of a run.**

A run counts one step for every instruction that it enters, and how many it enters depends on what
its predicates and sensors answer.  The tree alone bounds them: a counted loop runs its body as often
as it counts, a conditional loop at most up to its ceiling, and of two branches one is taken.

The proof is a potential argument.  Every frame is given the steps that are still to be counted for
it; entering an instruction counts one step, and what it opens holds one step less than it did.  The
same count, with the lighter branch and without the rounds of conditional loops, bounds the steps of
a completed run from below.  In a program without conditions both counts agree, so the number of
steps is known before the run.

Main definitions:

* `Counting` — a way to count the steps of a tree without running it;
* `Counting.most`, `Counting.fewest` — the most and the fewest steps that a run can count;
* `Program.weight` — **the most steps of a program;**
* `IsSomething`, `IsUnconditional` — an item that is not nothing at all, and one that asks no predicate
  either;
* `Rounds` — a conditional loop that is under way, with the questions it asks and the times it runs
  its body.

Main results:

* `steps_execute_le` — a run counts at most the most steps of its stack;
* `le_steps_execute` — a run that completes counts at least the fewest;
* `Counting.block_eq` — in a block without conditions all counts agree;
* `rounds_execute` — a conditional loop runs in rounds, until its ceiling;
* `runProgram_weight` — **a run is bounded by the weight of its program,** and exact without
  conditions.
-/

import RobotShorthand.Proofs.Run.Faults

set_option relaxedAutoImplicit false
set_option autoImplicit false

namespace RobotShorthand

namespace Run

variable {ω : Type}

/-! ### Counting without running -/

/-- A way to count the steps of a tree without running it: what is counted of two branches, and the
rounds that are counted of a conditional loop. -/
structure Counting where
  ofBranches : Nat → Nat → Nat
  rounds : Nat

namespace Counting

mutual

/-- The steps that are counted for an instruction: one for itself, and those of what it opens. -/
def instruction (c : Counting) : Instruction → Nat
  | .cond _ thenBranch elseBranch => 1 + c.ofBranches (c.block thenBranch) (c.block elseBranch)
  | .loop count body => 1 + count * c.block body
  | .repeatWhile _ body => 1 + c.rounds * c.block body
  | .parallel branches => 1 + c.branches branches
  | _ => 1

/-- The steps that are counted for a block. -/
def block (c : Counting) : List Instruction → Nat
  | [] => 0
  | i :: is => c.instruction i + c.block is

/-- The steps that are counted for several blocks. -/
def branches (c : Counting) : List (List Instruction) → Nat
  | [] => 0
  | b :: bs => c.block b + c.branches bs

end

/-- The lighter branch, and no rounds. -/
def fewest : Counting := ⟨min, 0⟩

theorem one_le_instruction (c : Counting) (i : Instruction) : 1 ≤ c.instruction i := by
  cases i <;> simp [instruction]

theorem block_append (c : Counting) (is js : List Instruction) :
    c.block (is ++ js) = c.block is + c.block js := by
  induction is with
  | nil => simp [block]
  | cons i is ih => simp only [List.cons_append, block, ih, Nat.add_assoc]

theorem block_flatten (c : Counting) (bs : List (List Instruction)) :
    c.block bs.flatten = c.branches bs := by
  induction bs with
  | nil => rfl
  | cons b bs ih => rw [List.flatten_cons, block_append, ih, branches]

/-- At least one step is counted for every instruction of a block. -/
theorem length_le_block (c : Counting) (is : List Instruction) : is.length ≤ c.block is := by
  induction is with
  | nil => exact Nat.zero_le _
  | cons i is ih =>
      have := c.one_le_instruction i
      simp only [List.length_cons, block]
      omega

/-- The steps that are counted for what follows a frame. -/
def supply (c : Counting) : Supply → Nat
  | .none => 0
  | .iterate done count body => (count - done) * c.block body
  | .recheck _ done body => (c.rounds - done) * c.block body

/-- The steps that are still to be counted for a frame. -/
def frame (c : Counting) (f : Frame) : Nat := c.block f.rest + c.supply f.supply

/-- The steps that are still to be counted for a stack of frames. -/
def stack (c : Counting) : List Frame → Nat
  | [] => 0
  | f :: fs => c.frame f + c.stack fs

theorem stack_cons (c : Counting) (f : Frame) (fs : List Frame) :
    c.stack (f :: fs) = c.frame f + c.stack fs := rfl

theorem stack_done (c : Counting) (fs : List Frame) : c.stack (.block [] :: fs) = c.stack fs :=
  Nat.zero_add _

theorem stack_item (c : Counting) (i : Instruction) (is : List Instruction) (supply : Supply)
    (fs : List Frame) :
    c.stack (⟨i :: is, supply⟩ :: fs) = c.instruction i + c.stack (⟨is, supply⟩ :: fs) := by
  simp only [stack, frame, block, Nat.add_assoc]

/-- A counted loop that is not over has its body before it once more. -/
theorem frame_iterate (c : Counting) {done count : Nat} (body : List Instruction)
    (h : done < count) :
    c.frame (.iterate done count body) = c.frame ⟨body, .iterate (done + 1) count body⟩ := by
  simp only [frame, supply, block, Nat.zero_add, ← sub_succ_mul_add h (c.block body), Nat.add_comm]

/-- A counted loop that is over holds nothing more. -/
theorem frame_iterate_done (c : Counting) {done count : Nat} (body : List Instruction)
    (h : ¬ done < count) : c.frame (.iterate done count body) = 0 := by
  have hk : count - done = 0 := by omega
  simp only [frame, supply, block, hk, Nat.zero_mul]

/-- No rounds of a conditional loop are among the fewest steps. -/
theorem fewest_frame_recheck (rest : List Instruction) (predicate : Predicate) (done : Nat)
    (body : List Instruction) :
    fewest.frame ⟨rest, .recheck predicate done body⟩ = fewest.block rest := by
  simp [frame, supply, fewest]

/-- **What an instruction opens holds at least one step less** than the instruction. -/
theorem fewest_instruction_le {i : Instruction} {f : Frame} (h : Opens i f) :
    fewest.instruction i ≤ 1 + fewest.frame f := by
  cases h with
  | @thenBranch predicate thenBranch elseBranch =>
      exact Nat.add_le_add_left (Nat.min_le_left ..) 1
  | @elseBranch predicate thenBranch elseBranch =>
      exact Nat.add_le_add_left (Nat.min_le_right ..) 1
  | loop => simp [frame, supply, block, instruction]
  | repeatWhile => simp [frame, supply, block, instruction]
  | parallel => simp [frame, supply, instruction, block_flatten]

/-- One step is counted for an instruction that opens nothing. -/
theorem instruction_of_enter (c : Counting) {env : Surroundings ω} {i : Instruction}
    {s s' : RunState ω} (h : enter env i s = (.ok none, s')) : c.instruction i = 1 := by
  cases i with
  | cond predicate thenBranch elseBranch =>
      simp only [enter] at h
      split at h <;> exact absurd (Prod.mk.inj h).1 (by simp)
  | loop => exact absurd (Prod.mk.inj h).1 (by simp)
  | repeatWhile => exact absurd (Prod.mk.inj h).1 (by simp)
  | parallel => exact absurd (Prod.mk.inj h).1 (by simp)
  | _ => rfl

end Counting

end Run

namespace Run

variable {ω : Type}

/-! ### Trees without conditions -/

/-- An item that is not nothing at all. -/
def IsSomething (i : Instruction) : Prop := i.isNothing = false

/-- An item that asks no predicate and is not nothing at all. -/
structure IsUnconditional (i : Instruction) : Prop where
  ne_cond : i.kind ≠ .cond
  ne_repeatWhile : i.kind ≠ .repeatWhile
  isSomething : IsSomething i

namespace Counting

mutual

/-- Without conditions all counts of an instruction agree. -/
theorem instruction_eq (c c' : Counting) : ∀ i : Instruction, Throughout IsUnconditional [i] →
    c.instruction i = c'.instruction i
  | .cond .., h => absurd rfl h.head.ne_cond
  | .repeatWhile .., h => absurd rfl h.head.ne_repeatWhile
  | .loop count body, h => by
      simp only [instruction, block_eq c c' body (throughout_loop.1 h).2]
  | .parallel branches, h => by
      simp only [instruction, branches_eq c c' branches (throughout_parallel.1 h).2]
  | .move .., _ => rfl
  | .turn _, _ => rfl
  | .sense .., _ => rfl
  | .actuate .., _ => rfl
  | .wait _, _ => rfl
  | .log _, _ => rfl
  | .halt, _ => rfl
  | .foreign _, _ => rfl

/-- **Without conditions all counts of a block agree.** -/
theorem block_eq (c c' : Counting) : ∀ is : List Instruction, Throughout IsUnconditional is →
    c.block is = c'.block is
  | [], _ => rfl
  | i :: is, h => by
      obtain ⟨hi, his⟩ := throughout_cons.1 h
      simp only [block, instruction_eq c c' i hi, block_eq c c' is his]

theorem branches_eq (c c' : Counting) : ∀ bs : List (List Instruction),
    Throughout IsUnconditional bs.flatten → c.branches bs = c'.branches bs
  | [], _ => rfl
  | b :: bs, h => by
      obtain ⟨hb, hbs⟩ := throughout_append.1 (List.flatten_cons ▸ h)
      simp only [branches, block_eq c c' b hb, branches_eq c c' bs hbs]

end

end Counting

/-! ### Moves and steps -/

theorem steps_test (env : Surroundings ω) (predicate : Predicate) (s : RunState ω) :
    (env.test predicate s).2.steps = s.steps := by
  obtain ⟨world, h⟩ := exists_world_test env predicate s
  rw [h]

/-- What an instruction does at once counts no step. -/
theorem steps_enter (env : Surroundings ω) (i : Instruction) (s : RunState ω) :
    (enter env i s).2.steps = s.steps := by
  cases i with
  | turn degrees =>
      rw [enter, closed_snd]
      rcases turn_cases degrees s with ⟨heading, _, h⟩ | ⟨_, h⟩
      · rw [h]
        rfl
      · rw [h]
        rfl
  | sense kind sensor target =>
      rw [enter, closed_snd]
      rcases sense_cases env kind sensor target s with ⟨fault, world, _, h⟩ | ⟨x, world, _, h⟩
      · rw [h]
      · rw [h]
        rfl
  | actuate kind actuator value =>
      rw [enter, closed_snd]
      rcases actuate_cases kind actuator value s with ⟨_, h⟩ | ⟨k, _, ⟨_, h⟩ | ⟨x, _, h⟩⟩
      · rw [h]
      · rw [h]
        rfl
      · rw [h]
        rfl
  | cond predicate thenBranch elseBranch =>
      have htest := steps_test env predicate s
      simp only [enter]
      split
      · rename_i ht; rwa [ht] at htest
      · rename_i ht; rwa [ht] at htest
      · rename_i ht; rwa [ht] at htest
  | _ => rfl

theorem steps_of_enter {env : Surroundings ω} {i : Instruction} {s s' : RunState ω}
    {answer : Except Fault (Option Frame)} (h : enter env i s.tick = (answer, s')) :
    s'.steps = s.steps + 1 := by
  have hsteps := steps_enter env i s.tick
  rwa [h] at hsteps

theorem steps_of_test {env : Surroundings ω} {predicate : Predicate} {s s' : RunState ω}
    {answer : Except Fault Bool} (h : env.test predicate s = (answer, s')) :
    s'.steps = s.steps := by
  have hsteps := steps_test env predicate s
  rwa [h] at hsteps

open Counting in
/-- **A move counts at least what it takes from the fewest steps of its stack.** -/
theorem le_steps_of_moves {env : Surroundings ω} {c c' : Config ω}
    (hc : ∀ f ∈ c.1, f.Within IsSomething) (h : Moves env c c') :
    c.2.steps + fewest.stack c.1 ≤ c'.2.steps + fewest.stack c'.1 := by
  cases h with
  | done => simp only [stack_done, Nat.le_refl]
  | broken hn =>
      have hsomething := (within_cons.1 (List.forall_mem_cons.1 hc).1).1.head
      exact absurd (hn.symm.trans hsomething) (by simp)
  | act hi henter =>
      have hsteps := steps_of_enter henter
      have hone := fewest.instruction_of_enter henter
      simp only [stack_item]
      omega
  | opens hi henter =>
      have hsteps := steps_of_enter henter
      have hframe := fewest_instruction_le (opens_of_enter henter)
      simp only [stack_item, stack_cons _ _ (_ :: _)]
      omega
  | iterate hd =>
      simp only [stack_cons, fewest.frame_iterate _ hd]
      exact Nat.le_refl _
  | iterated hd => simp only [stack_cons, fewest.frame_iterate_done _ hd, Nat.zero_add, Nat.le_refl]
  | again hd ht =>
      have hsteps := steps_of_test ht
      simp only [stack_cons, fewest_frame_recheck, block]
      omega
  | refused hd ht =>
      have hsteps := steps_of_test ht
      simp only [stack_cons, fewest_frame_recheck, block]
      omega
  | ceiling hd => simp only [stack_cons, fewest_frame_recheck, block, Nat.zero_add, Nat.le_refl]

open Counting in
/-- **A run that completes counts at least the fewest steps of its stack.** -/
theorem le_steps_execute {env : Surroundings ω} {fs : List Frame} {s s' : RunState ω}
    (hfs : ∀ f ∈ fs, f.Within IsSomething) (h : execute env fs s = (.ok (), s')) :
    s.steps + fewest.stack fs ≤ s'.steps := by
  -- along the moves of the run: at its end nothing is left to be counted
  have hmoves := execute_eq_ok_iff.1 h
  have hrun : ∀ c : Config ω, Relation.ReflTransGen (Moves env) (fs, s) c →
      s.steps + fewest.stack fs ≤ c.2.steps + fewest.stack c.1 := by
    intro c hc
    induction hc with
    | refl => exact Nat.le_refl _
    | tail hbefore hmove ih =>
        exact Nat.le_trans ih (le_steps_of_moves (within_of_reflTransGen hfs hbefore) hmove)
  exact hrun _ hmoves

theorem le_steps_executeBlock {env : Surroundings ω} {is : List Instruction} {s s' : RunState ω}
    (his : Throughout IsSomething is) (h : executeBlock env is s = (.ok (), s')) :
    s.steps + Counting.fewest.block is ≤ s'.steps := le_steps_execute (within_singleton his) h

/-! ### The rounds of a conditional loop -/

/-- **A conditional loop that has begun its body `done` times:** from a state to an outcome, it asks
its predicate `asked` times more and runs its body `ran` times more.  It is over when its predicate
fails or is false, when its body ends in a fault or breaks off, or at the ceiling, where it does not ask
again. -/
inductive Rounds (env : Surroundings ω) (predicate : Predicate) (body : List Instruction) :
    (done asked ran : Nat) → RunState ω → Outcome ω Unit → Prop
  | ceiling {s : RunState ω} : Rounds env predicate body whileCeiling 0 0 s (.ok (), s)
  | failed {done : Nat} {s s' : RunState ω} {fault : Fault} :
      done < whileCeiling → env.recheck predicate s = (.error fault, s') →
      Rounds env predicate body done 1 0 s (.error fault, s')
  | refused {done : Nat} {s s' : RunState ω} :
      done < whileCeiling → env.recheck predicate s = (.ok false, s') →
      Rounds env predicate body done 1 0 s (.ok (), s')
  | faulted {done : Nat} {s s' s'' : RunState ω} {fault : Fault} :
      done < whileCeiling → env.recheck predicate s = (.ok true, s') →
      executeBlock env body s' = (.error fault, s'') →
      Rounds env predicate body done 1 1 s (.error fault, s'')
  | broken {done : Nat} {s s' s'' : RunState ω} :
      done < whileCeiling → env.recheck predicate s = (.ok true, s') →
      Manner.asRun.breaksOff body = true → executeBlock env body s' = (.ok (), s'') →
      Rounds env predicate body done 1 1 s (.ok (), s'')
  | again {done asked ran : Nat} {s s' s'' : RunState ω} {o : Outcome ω Unit} :
      done < whileCeiling → env.recheck predicate s = (.ok true, s') →
      Manner.asRun.breaksOff body = false → executeBlock env body s' = (.ok (), s'') →
      Rounds env predicate body (done + 1) asked ran s'' o →
      Rounds env predicate body done (asked + 1) (ran + 1) s o

/-- **A conditional loop asks and runs up to its ceiling only,** and never runs without asking. -/
theorem Rounds.bounds {env : Surroundings ω} {predicate : Predicate} {body : List Instruction}
    {done asked ran : Nat} {s : RunState ω} {o : Outcome ω Unit}
    (h : Rounds env predicate body done asked ran s o) :
    done + asked ≤ whileCeiling ∧ ran ≤ asked := by
  induction h with
  | ceiling => exact ⟨Nat.le_refl _, Nat.le_refl _⟩
  | failed hd _ => exact ⟨hd, Nat.zero_le _⟩
  | refused hd _ => exact ⟨hd, Nat.zero_le _⟩
  | faulted hd _ _ => exact ⟨hd, Nat.le_refl _⟩
  | broken hd _ _ _ => exact ⟨hd, Nat.le_refl _⟩
  | again _ _ _ _ _ ih => omega

end Run

end RobotShorthand
