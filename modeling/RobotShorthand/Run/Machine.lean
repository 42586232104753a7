/-
**The machine that runs programs.**

A program is run by a machine with a stack of frames, so that the nesting of a program costs no more
than room on the stack.  A frame holds the items that are left of a block, and what follows when they are
used up: nothing, or the body of a loop once more, or the body of a conditional loop that asks its
predicate before every time.  Every instruction that is entered counts one step.  A fault ends the run and
leaves the state as it is then.

The machine asks its top frame for the next item and drops the frame when there is none.  It cannot tell
the end of a frame from an item that is nothing at all, so such an item ends its frame, with whatever
would follow: the rest of a block, and all further rounds of a loop.

Main definitions:

* `Supply`, `Frame` — what is left to do;
* `Instruction.work`, `Frame.work` — a bound on the moves of the machine;
* `enter` — an instruction that is entered, and the frame it opens, if it opens one;
* `Opens` — the frames that an instruction can open;
* `execute` — **the run of a stack of frames;** it ends because every move lowers the work left;
* `runProgram` — a program between its two lines, with a summary.

Main results:

* `opens_of_enter` — an instruction opens no other frames;
* `work_of_enter` — the frame that an instruction opens holds less work than the instruction;
* `execute_nil`, `execute_item`, … — one equation for each move of the machine.
-/

import RobotShorthand.Document.Program
import RobotShorthand.Run.Action

set_option relaxedAutoImplicit false
set_option autoImplicit false

namespace RobotShorthand

/-! ### Work -/

/-- The most times that a conditional loop runs its body, whatever its predicate answers. -/
def whileCeiling : Nat := 1000

mutual

/-- A bound on the moves of the machine that an instruction takes. -/
def Instruction.work : Instruction → Nat
  | .cond _ thenBranch elseBranch => blockWork thenBranch + blockWork elseBranch + 1
  | .loop count body => count * blockWork body + 2
  | .repeatWhile _ body => whileCeiling * blockWork body + 2
  | .parallel branches => branchesWork branches + 1
  | _ => 1

/-- A bound on the moves that a block takes. -/
def blockWork : List Instruction → Nat
  | [] => 1
  | i :: is => i.work + blockWork is

/-- A bound on the moves that several blocks take. -/
def branchesWork : List (List Instruction) → Nat
  | [] => 1
  | b :: bs => blockWork b + branchesWork bs

end

theorem Instruction.work_pos (i : Instruction) : 0 < i.work := by
  cases i <;> simp [Instruction.work]

/-- Two blocks one after the other take one move less than by themselves. -/
theorem blockWork_append (is js : List Instruction) :
    blockWork (is ++ js) + 1 = blockWork is + blockWork js := by
  induction is with
  | nil => simp [blockWork]; omega
  | cons i is ih => simp only [List.cons_append, blockWork]; omega

/-- The branches of a parallel instruction run as one block. -/
theorem blockWork_flatten_le (bs : List (List Instruction)) :
    blockWork bs.flatten ≤ branchesWork bs := by
  induction bs with
  | nil => simp [blockWork, branchesWork]
  | cons b bs ih =>
      have := blockWork_append b bs.flatten
      simp only [List.flatten_cons, branchesWork]; omega

namespace Run

variable {ω : Type}

/-! ### Frames -/

/-- What follows when the items of a frame are used up. -/
inductive Supply
  /-- nothing, so the frame is over -/
  | none
  /-- the body of a loop that has begun it `done` of `count` times -/
  | iterate (done count : Nat) (body : List Instruction)
  /-- the body of a conditional loop that has begun it `done` times -/
  | recheck (predicate : Predicate) (done : Nat) (body : List Instruction)

/-- What is left to do at one level of nesting: the items at hand, and what follows them. -/
structure Frame where
  rest : List Instruction
  supply : Supply

namespace Frame

/-- The rest of a block. -/
abbrev block (rest : List Instruction) : Frame := ⟨rest, .none⟩

/-- A loop between two times of its body. -/
abbrev iterate (done count : Nat) (body : List Instruction) : Frame := ⟨[], .iterate done count body⟩

/-- A conditional loop that is about to ask its predicate. -/
abbrev recheck (predicate : Predicate) (done : Nat) (body : List Instruction) : Frame :=
  ⟨[], .recheck predicate done body⟩

end Frame

/-- A bound on the moves that a supply takes. -/
def Supply.work : Supply → Nat
  | none => 0
  | iterate done count body => (count - done) * blockWork body
  | recheck _ done body => (whileCeiling - done) * blockWork body

/-- A bound on the moves that a frame takes. -/
def Frame.work (f : Frame) : Nat := blockWork f.rest + f.supply.work

/-- A round less of something that takes some moves. -/
theorem sub_succ_mul_add {done count : Nat} (h : done < count) (k : Nat) :
    (count - (done + 1)) * k + k = (count - done) * k := by
  rw [← Nat.succ_mul, show (count - (done + 1)).succ = count - done by omega]

/-- A bound on the moves that a stack of frames takes. -/
def stackWork : List Frame → Nat
  | [] => 0
  | f :: fs => f.work + stackWork fs

/-! ### Entering an instruction -/

/-- The outcome of an action that opens no frame. -/
def closed : Outcome ω Unit → Outcome ω (Option Frame)
  | (.ok (), s) => (.ok none, s)
  | (.error fault, s) => (.error fault, s)

/-- **An instruction that is entered:** what it does at once, and the frame it opens. -/
def enter (env : Surroundings ω) (i : Instruction) (s : RunState ω) : Outcome ω (Option Frame) :=
  match i with
  | .move direction distance => (.ok none, move direction distance s)
  | .turn degrees => closed (turn degrees s)
  | .sense kind sensor target => closed (sense env kind sensor target s)
  | .actuate kind actuator value => closed (actuate kind actuator value s)
  | .cond predicate thenBranch elseBranch =>
      match env.test predicate s with
      | (.ok true, s) => (.ok (some (.block thenBranch)), s)
      | (.ok false, s) => (.ok (some (.block elseBranch)), s)
      | (.error fault, s) => (.error fault, s)
  | .loop count body =>
      (.ok (some (.iterate 0 count body)), s.say ("Looping " ++ toString count ++ " times"))
  | .repeatWhile predicate body => (.ok (some (.recheck predicate 0 body)), s)
  | .parallel branches =>
      (.ok (some (.block branches.flatten)),
        s.say ("Parallel execution of " ++ toString branches.length ++ " branches"))
  | .wait milliseconds => (.ok none, wait milliseconds s)
  | .log message => (.ok none, s.say message)
  | .halt => (.ok none, halt s)
  | .foreign item => (.error (.foreignItem item), s)

theorem closed_ne_some {o : Outcome ω Unit} {f : Frame} {s : RunState ω} :
    closed o ≠ (.ok (some f), s) := by
  rcases o with ⟨e | u, s'⟩ <;> simp [closed]

/-- The frames that an instruction can open. -/
inductive Opens : Instruction → Frame → Prop
  | thenBranch {predicate : Predicate} {thenBranch elseBranch : List Instruction} :
      Opens (.cond predicate thenBranch elseBranch) (.block thenBranch)
  | elseBranch {predicate : Predicate} {thenBranch elseBranch : List Instruction} :
      Opens (.cond predicate thenBranch elseBranch) (.block elseBranch)
  | loop {count : Nat} {body : List Instruction} : Opens (.loop count body) (.iterate 0 count body)
  | repeatWhile {predicate : Predicate} {body : List Instruction} :
      Opens (.repeatWhile predicate body) (.recheck predicate 0 body)
  | parallel {branches : List (List Instruction)} :
      Opens (.parallel branches) (.block branches.flatten)

/-- **An instruction opens no other frames.** -/
theorem opens_of_enter {env : Surroundings ω} {i : Instruction} {s s' : RunState ω} {f : Frame}
    (h : enter env i s = (.ok (some f), s')) : Opens i f := by
  cases i with
  | cond predicate thenBranch elseBranch =>
      simp only [enter] at h
      split at h
      · obtain rfl : Frame.block thenBranch = f := by simpa using (Prod.mk.inj h).1
        exact .thenBranch
      · obtain rfl : Frame.block elseBranch = f := by simpa using (Prod.mk.inj h).1
        exact .elseBranch
      · exact absurd (Prod.mk.inj h).1 (by simp)
  | loop count body =>
      obtain rfl : Frame.iterate 0 count body = f := by simpa [enter] using (Prod.mk.inj h).1
      exact .loop
  | repeatWhile predicate body =>
      obtain rfl : Frame.recheck predicate 0 body = f := by
        simpa [enter] using (Prod.mk.inj h).1
      exact .repeatWhile
  | parallel branches =>
      obtain rfl : Frame.block branches.flatten = f := by simpa [enter] using (Prod.mk.inj h).1
      exact .parallel
  | turn => exact absurd h closed_ne_some
  | sense => exact absurd h closed_ne_some
  | actuate => exact absurd h closed_ne_some
  | _ => simp [enter] at h

/-- **The frame that an instruction opens holds less work than the instruction.** -/
theorem work_of_enter {env : Surroundings ω} {i : Instruction} {s s' : RunState ω} {f : Frame}
    (h : enter env i s = (.ok (some f), s')) : f.work < i.work := by
  cases opens_of_enter h with
  | thenBranch => simp only [Frame.work, Supply.work, Instruction.work]; omega
  | elseBranch => simp only [Frame.work, Supply.work, Instruction.work]; omega
  | loop => simp only [Frame.work, Supply.work, blockWork, Instruction.work, Nat.sub_zero]; omega
  | repeatWhile =>
      simp only [Frame.work, Supply.work, blockWork, Instruction.work, Nat.sub_zero]; omega
  | @parallel branches =>
      have := blockWork_flatten_le branches
      simp only [Frame.work, Supply.work, Instruction.work]; omega

/-! ### The run -/

/-- **The run of a stack of frames.**  An item that is nothing at all is taken for the end of its frame:
the rest of the frame is not run, and the item itself is no step. -/
def execute (env : Surroundings ω) : List Frame → RunState ω → Outcome ω Unit
  | [], s => (.ok (), s)
  | ⟨i :: is, supply⟩ :: fs, s =>
      if i.isNothing then execute env fs s
      else
        match _h : enter env i s.tick with
        | (.error fault, s) => (.error fault, s)
        | (.ok none, s) => execute env (⟨is, supply⟩ :: fs) s
        | (.ok (some f), s) => execute env (f :: ⟨is, supply⟩ :: fs) s
  | ⟨[], .none⟩ :: fs, s => execute env fs s
  | ⟨[], .iterate done count body⟩ :: fs, s =>
      if done < count then
        execute env (⟨body, .iterate (done + 1) count body⟩ :: fs)
          (s.say ("  Iteration " ++ toString (done + 1)))
      else execute env fs s
  | ⟨[], .recheck predicate done body⟩ :: fs, s =>
      if done < whileCeiling then
        match env.recheck predicate s with
        | (.error fault, s) => (.error fault, s)
        | (.ok true, s) => execute env (⟨body, .recheck predicate (done + 1) body⟩ :: fs) s
        | (.ok false, s) => execute env fs s
      else execute env fs s
termination_by fs _ => stackWork fs
decreasing_by
  all_goals simp only [stackWork, Frame.work, Supply.work, blockWork]
  · have := Instruction.work_pos i; omega
  · have := Instruction.work_pos i; omega
  · have := work_of_enter _h
    simp only [Frame.work, Supply.work] at this
    omega
  · omega
  · rename_i h
    have := sub_succ_mul_add h (blockWork body)
    omega
  · omega
  · rename_i h
    have := sub_succ_mul_add h (blockWork body)
    omega
  · omega
  · omega

/-! ### One equation for each move -/

section Equations

variable {env : Surroundings ω} {fs : List Frame} {s : RunState ω}

@[simp] theorem execute_nil : execute env [] s = (.ok (), s) := by rw [execute]

@[simp] theorem execute_done : execute env (.block [] :: fs) s = execute env fs s := by rw [execute]

theorem execute_nothing {i : Instruction} {is : List Instruction} {supply : Supply}
    (h : i.isNothing = true) : execute env (⟨i :: is, supply⟩ :: fs) s = execute env fs s := by
  rw [execute, if_pos h]

theorem execute_item {i : Instruction} {is : List Instruction} {supply : Supply}
    (h : i.isNothing = false) :
    execute env (⟨i :: is, supply⟩ :: fs) s =
      match enter env i s.tick with
      | (.error fault, s) => (.error fault, s)
      | (.ok none, s) => execute env (⟨is, supply⟩ :: fs) s
      | (.ok (some f), s) => execute env (f :: ⟨is, supply⟩ :: fs) s := by
  rw [execute, if_neg (Bool.not_eq_true _ ▸ h)]
  split <;> simp_all

theorem execute_iterate {done count : Nat} {body : List Instruction} :
    execute env (.iterate done count body :: fs) s =
      if done < count then
        execute env (⟨body, .iterate (done + 1) count body⟩ :: fs)
          (s.say ("  Iteration " ++ toString (done + 1)))
      else execute env fs s := by
  rw [execute]

theorem execute_recheck {predicate : Predicate} {done : Nat} {body : List Instruction} :
    execute env (.recheck predicate done body :: fs) s =
      if done < whileCeiling then
        match env.recheck predicate s with
        | (.error fault, s) => (.error fault, s)
        | (.ok true, s) => execute env (⟨body, .recheck predicate (done + 1) body⟩ :: fs) s
        | (.ok false, s) => execute env fs s
      else execute env fs s := by
  rw [execute]

end Equations

/-! ### Programs -/

/-- Runs a list of instructions. -/
def executeBlock (env : Surroundings ω) (is : List Instruction) (s : RunState ω) : Outcome ω Unit :=
  execute env [.block is] s

/-- **Runs a program** between a line that announces it and a line that says it is complete, and sums
the run up. -/
def runProgram (env : Surroundings ω) (p : Program) (s : RunState ω) : Outcome ω Summary :=
  let begun := s.robot.trace.size
  let firstStep := s.steps
  match executeBlock env p.instructions (s.say ("=== Running program: " ++ p.name ++ " ===")) with
  | (.error fault, s) => (.error fault, s)
  | (.ok (), s) =>
      let s := s.say ("=== Program complete: " ++ p.name ++ " ===")
      (.ok ⟨s.steps - firstStep, (s.robot.trace.extract begun s.robot.trace.size).toList⟩, s)

end Run

end RobotShorthand
