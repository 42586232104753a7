/-
**The effect of a program, by recursion on its tree.**

`RobotShorthand.Run.Machine` runs a program on a stack of frames: a loop that is under way is a frame
that is asked for the next item of its body, its lines are said and its predicate is asked only when the
items at hand are used up.  The meaning of a program is simpler than that.  A block has the effect of its
instructions one after another, a loop that of its body as often as it counts, and a fault ends
everything.  This module defines that meaning by recursion on the tree, without a stack.

A tree can be read in two manners, which differ in two places.  As it is written, every item counts a
step, and one that is nothing at all is refused like any other that is no instruction; a conditional loop
passes on what its predicate says.  As it is run, an item that is nothing ends the block it stands in,
and the loop whose body the block is; and a conditional loop whose predicate says that it has come to its
end reports a fault of its own.  The machine computes the effect of a tree as it is run, and that is the
effect of the tree as it is written unless one of the two occurs.

The invariant of the machine is the effect of its stack: every frame stands for what it still has to
do, and a stack for what its frames do in turn.  No move of the machine changes the effect of the
stack and the state together.

Main definitions:

* `andThen` — one effect after another, unless the first ends in a fault;
* `countedEffect`, `guardedEffect` — a body that is run a number of times, and while a predicate
  holds;
* `Manner` — a tree as it is run, and as it is written;
* `effect`, `blockEffect`, `branchesEffect` — **the effect of an instruction, a block, and
  branches;**
* `frameEffect`, `stackEffect` — what frames that are under way have still to do;
* `IsPlain` — an instruction that is run as it is written.

Main results:

* `effect_eq_enter` — an instruction has the effect of what it does at once, and then of the frame
  it opens;
* `execute_eq_stackEffect` — **the machine computes the effect of its stack;**
* `execute_cons` — what a frame does, it does without a look at the frames below it;
* `executeBlock_eq_blockEffect` — **the machine computes the effect of a block as it is run,** in every
  state and in any surroundings;
* `blockEffect_asRun` — plain trees have one effect in both manners;
* `executeBlock_effects` — **the machine computes the effect of a plain block as it is written.**
-/

import RobotShorthand.Proofs.Run.Moves
import RobotShorthand.Run.Bench

set_option relaxedAutoImplicit false
set_option autoImplicit false

namespace RobotShorthand

namespace Run

variable {ω : Type}

/-! ### Effects in sequence -/

/-- An effect that is none. -/
def nothingMore (s : RunState ω) : Outcome ω Unit := (.ok (), s)

/-- One effect after another: a fault of the first is a fault of both. -/
def andThen (o : Outcome ω Unit) (next : RunState ω → Outcome ω Unit) : Outcome ω Unit :=
  match o with
  | (.ok (), s) => next s
  | (.error fault, s) => (.error fault, s)

@[simp] theorem andThen_ok (s : RunState ω) (next : RunState ω → Outcome ω Unit) :
    andThen (.ok (), s) next = next s := rfl

@[simp] theorem andThen_error (fault : Fault) (s : RunState ω)
    (next : RunState ω → Outcome ω Unit) :
    andThen (.error fault, s) next = (.error fault, s) := rfl

/-- An effect with nothing behind it. -/
@[simp] theorem andThen_nothingMore (o : Outcome ω Unit) : andThen o nothingMore = o := by
  rcases o with ⟨fault | u, s⟩ <;> rfl

theorem andThen_assoc (o : Outcome ω Unit) (f g : RunState ω → Outcome ω Unit) :
    andThen (andThen o f) g = andThen o fun s => andThen (f s) g := by
  rcases o with ⟨fault | u, s⟩ <;> rfl

/-! ### Repetition -/

/-- A body that has begun `done` times and runs `remaining` times more, with a line before each. -/
def countedEffect (body : RunState ω → Outcome ω Unit) (done : Nat) :
    Nat → RunState ω → Outcome ω Unit
  | 0, s => (.ok (), s)
  | remaining + 1, s =>
      andThen (body (s.say ("  Iteration " ++ toString (done + 1))))
        (countedEffect body (done + 1) remaining)

/-- A body that runs while a predicate holds, but at most `allowed` times; the predicate is asked
before each of them, and not again after the last. -/
def guardedEffect (ask : RunState ω → Outcome ω Bool) (body : RunState ω → Outcome ω Unit) :
    Nat → RunState ω → Outcome ω Unit
  | 0, s => (.ok (), s)
  | allowed + 1, s =>
      match ask s with
      | (.error fault, s) => (.error fault, s)
      | (.ok false, s) => (.ok (), s)
      | (.ok true, s) => andThen (body s) (guardedEffect ask body allowed)

/-! ### The two manners -/

/-- How a tree is read. -/
inductive Manner
  /-- as the machine runs it -/
  | asRun
  /-- as it is written -/
  | asWritten

namespace Manner

/-- Whether an item ends the block that it stands in. -/
def ends : Manner → Instruction → Bool
  | asRun, i => i.isNothing
  | asWritten, _ => false

/-- What a conditional loop makes of its predicate. -/
def ask (env : Surroundings ω) : Manner → Predicate → RunState ω → Outcome ω Bool
  | asRun => env.recheck
  | asWritten => env.test

/-- Whether an item of a block ends it before its last one is done. -/
def breaksOff (m : Manner) (is : List Instruction) : Bool := is.any m.ends

/-- How often a loop runs its body, out of a number of times: a body that breaks off ends the loop. -/
def rounds (m : Manner) (body : List Instruction) (n : Nat) : Nat :=
  if m.breaksOff body then min n 1 else n

theorem breaksOff_cons (m : Manner) (i : Instruction) (is : List Instruction) :
    m.breaksOff (i :: is) = (m.ends i || m.breaksOff is) := rfl

/-- As it is written, no block breaks off. -/
@[simp] theorem breaksOff_asWritten (is : List Instruction) : asWritten.breaksOff is = false :=
  List.any_eq_false.2 fun _ _ => Bool.false_ne_true

/-- As it is written, a loop runs its body every time. -/
@[simp] theorem rounds_asWritten (body : List Instruction) (n : Nat) :
    asWritten.rounds body n = n := by
  rw [rounds, breaksOff_asWritten, if_neg Bool.false_ne_true]

@[simp] theorem rounds_zero (m : Manner) (body : List Instruction) : m.rounds body 0 = 0 := by
  unfold rounds
  split <;> rfl

end Manner

/-! ### The effect of a tree -/

mutual

/-- **The effect of an instruction,** which counts one step. -/
def effect (env : Surroundings ω) (m : Manner) : Instruction → RunState ω → Outcome ω Unit
  | .move direction distance, s => (.ok (), move direction distance s.tick)
  | .turn degrees, s => turn degrees s.tick
  | .sense kind sensor target, s => sense env kind sensor target s.tick
  | .actuate kind actuator value, s => actuate kind actuator value s.tick
  | .cond predicate thenBranch elseBranch, s =>
      match env.test predicate s.tick with
      | (.error fault, s) => (.error fault, s)
      | (.ok true, s) => blockEffect env m thenBranch s
      | (.ok false, s) => blockEffect env m elseBranch s
  | .loop count body, s =>
      countedEffect (blockEffect env m body) 0 (m.rounds body count)
        (s.tick.say ("Looping " ++ toString count ++ " times"))
  | .repeatWhile predicate body, s =>
      guardedEffect (m.ask env predicate) (blockEffect env m body) (m.rounds body whileCeiling) s.tick
  | .parallel branches, s =>
      branchesEffect env m branches
        (s.tick.say ("Parallel execution of " ++ toString branches.length ++ " branches"))
  | .wait milliseconds, s => (.ok (), wait milliseconds s.tick)
  | .log message, s => (.ok (), s.tick.say message)
  | .halt, s => (.ok (), halt s.tick)
  | .foreign item, s => (.error (.foreignItem item), s.tick)

/-- **The effect of a block:** that of its instructions, one after another, up to an item that ends it.
-/
def blockEffect (env : Surroundings ω) (m : Manner) :
    List Instruction → RunState ω → Outcome ω Unit
  | [], s => (.ok (), s)
  | i :: is, s =>
      if m.ends i then (.ok (), s) else andThen (effect env m i s) (blockEffect env m is)

/-- The effect of branches, one after another, up to one that breaks off. -/
def branchesEffect (env : Surroundings ω) (m : Manner) :
    List (List Instruction) → RunState ω → Outcome ω Unit
  | [], s => (.ok (), s)
  | b :: bs, s =>
      andThen (blockEffect env m b s)
        (if m.breaksOff b then nothingMore else branchesEffect env m bs)

end

section Blocks

variable (env : Surroundings ω) (m : Manner)

theorem blockEffect_append (is js : List Instruction) (s : RunState ω) :
    blockEffect env m (is ++ js) s
      = andThen (blockEffect env m is s)
          (if m.breaksOff is then nothingMore else blockEffect env m js) := by
  induction is generalizing s with
  | nil => rfl
  | cons i is ih =>
      rw [List.cons_append, blockEffect, blockEffect, Manner.breaksOff_cons]
      cases m.ends i with
      | true => rfl
      | false =>
          simp only [Bool.false_or, Bool.false_eq_true, if_false, andThen_assoc]
          exact congrArg (andThen (effect env m i s)) (funext ih)

/-- Branches have the effect of one block with all their instructions. -/
theorem blockEffect_flatten (bs : List (List Instruction)) (s : RunState ω) :
    blockEffect env m bs.flatten s = branchesEffect env m bs s := by
  induction bs generalizing s with
  | nil => rfl
  | cons b bs ih =>
      rw [List.flatten_cons, blockEffect_append, branchesEffect]
      cases m.breaksOff b with
      | true => rfl
      | false => exact congrArg (andThen (blockEffect env m b s)) (funext ih)

end Blocks

/-! ### The effect of a stack -/

/-- What a frame does when its items are used up. -/
def supplyEffect (env : Surroundings ω) : Supply → RunState ω → Outcome ω Unit
  | .none => nothingMore
  | .iterate done count body =>
      countedEffect (blockEffect env .asRun body) done (Manner.asRun.rounds body (count - done))
  | .recheck predicate done body =>
      guardedEffect (env.recheck predicate) (blockEffect env .asRun body)
        (Manner.asRun.rounds body (whileCeiling - done))

/-- What a frame has still to do. -/
def frameEffect (env : Surroundings ω) (f : Frame) (s : RunState ω) : Outcome ω Unit :=
  andThen (blockEffect env .asRun f.rest s)
    (if Manner.asRun.breaksOff f.rest then nothingMore else supplyEffect env f.supply)

/-- What a stack of frames has still to do, from the top. -/
def stackEffect (env : Surroundings ω) : List Frame → RunState ω → Outcome ω Unit
  | [], s => (.ok (), s)
  | f :: fs, s => andThen (frameEffect env f s) (stackEffect env fs)

section Frames

variable (env : Surroundings ω) (s : RunState ω)

/-- A frame whose items are used up. -/
theorem frameEffect_nil (supply : Supply) :
    frameEffect env ⟨[], supply⟩ s = supplyEffect env supply s := rfl

/-- A frame with nothing behind its items. -/
theorem frameEffect_block (is : List Instruction) :
    frameEffect env (.block is) s = blockEffect env .asRun is s := by
  have hnext : (if Manner.asRun.breaksOff is then nothingMore else supplyEffect env .none)
      = (nothingMore : RunState ω → Outcome ω Unit) := ite_self _
  exact (congrArg (andThen _) hnext).trans (andThen_nothingMore _)

/-- An item that is nothing ends its frame. -/
theorem frameEffect_nothing {i : Instruction} {is : List Instruction} {supply : Supply}
    (h : i.isNothing = true) : frameEffect env ⟨i :: is, supply⟩ s = (.ok (), s) := by
  have hends : Manner.asRun.ends i = true := h
  simp only [frameEffect, blockEffect, Manner.breaksOff_cons, hends, Bool.true_or, if_true, andThen_ok,
    nothingMore]

/-- A frame does what its first item does, and then the rest. -/
theorem frameEffect_cons {i : Instruction} {is : List Instruction} {supply : Supply}
    (h : i.isNothing = false) :
    frameEffect env ⟨i :: is, supply⟩ s
      = andThen (effect env .asRun i s) (frameEffect env ⟨is, supply⟩) := by
  have hends : Manner.asRun.ends i = false := h
  simp only [frameEffect, blockEffect, Manner.breaksOff_cons, hends, Bool.false_or, Bool.false_eq_true,
    if_false, andThen_assoc]
  rfl

/-- **An instruction has the effect of what it does at once, and then of the frame it opens.** -/
theorem effect_eq_enter (i : Instruction) :
    effect env .asRun i s =
      match enter env i s.tick with
      | (.error fault, s) => (.error fault, s)
      | (.ok none, s) => (.ok (), s)
      | (.ok (some f), s) => frameEffect env f s := by
  -- an action without a frame is passed on as it is
  have passed : ∀ o : Outcome ω Unit,
      o = match closed o with
        | (.error fault, s) => (.error fault, s)
        | (.ok none, s) => (.ok (), s)
        | (.ok (some f), s) => frameEffect env f s := by
    rintro ⟨fault | u, s⟩ <;> rfl
  cases i with
  | turn degrees => exact passed _
  | sense kind sensor target => exact passed _
  | actuate kind actuator value => exact passed _
  | cond predicate thenBranch elseBranch =>
      simp only [effect, enter]
      rcases env.test predicate s.tick with ⟨fault | (_ | _), s'⟩
      · rfl
      · exact (frameEffect_block env s' elseBranch).symm
      · exact (frameEffect_block env s' thenBranch).symm
  | parallel branches =>
      exact (blockEffect_flatten env .asRun branches _).symm.trans (frameEffect_block env _ _).symm
  | _ => rfl

/-- A counted loop that is not over begins its body once more. -/
theorem supplyEffect_iterate {done count : Nat} (body : List Instruction) (h : done < count) :
    supplyEffect env (.iterate done count body) s
      = frameEffect env ⟨body, .iterate (done + 1) count body⟩
          (s.say ("  Iteration " ++ toString (done + 1))) := by
  obtain ⟨k, hk⟩ : ∃ k, count - done = k + 1 := ⟨count - done - 1, by omega⟩
  have hk' : count - (done + 1) = k := by omega
  simp only [supplyEffect, frameEffect, Manner.rounds, hk, hk']
  split
  · rw [show min (k + 1) 1 = 0 + 1 by omega, countedEffect]
    rfl
  · rw [countedEffect]

/-- A counted loop that is over does nothing more. -/
theorem supplyEffect_iterate_done {done count : Nat} (body : List Instruction)
    (h : ¬ done < count) : supplyEffect env (.iterate done count body) s = (.ok (), s) := by
  have hk : count - done = 0 := by omega
  rw [supplyEffect, hk, Manner.rounds_zero, countedEffect]

/-- A conditional loop below its ceiling asks its predicate. -/
theorem supplyEffect_recheck (predicate : Predicate) {done : Nat} (body : List Instruction)
    (h : done < whileCeiling) :
    supplyEffect env (.recheck predicate done body) s =
      match env.recheck predicate s with
      | (.error fault, s) => (.error fault, s)
      | (.ok false, s) => (.ok (), s)
      | (.ok true, s) => frameEffect env ⟨body, .recheck predicate (done + 1) body⟩ s := by
  obtain ⟨k, hk⟩ : ∃ k, whileCeiling - done = k + 1 := ⟨whileCeiling - done - 1, by omega⟩
  have hk' : whileCeiling - (done + 1) = k := by omega
  simp only [supplyEffect, frameEffect, Manner.rounds, hk, hk']
  split
  · rw [show min (k + 1) 1 = 0 + 1 by omega, guardedEffect]
    rfl
  · rw [guardedEffect]

/-- A conditional loop at its ceiling does nothing more. -/
theorem supplyEffect_recheck_done (predicate : Predicate) {done : Nat} (body : List Instruction)
    (h : ¬ done < whileCeiling) :
    supplyEffect env (.recheck predicate done body) s = (.ok (), s) := by
  have hk : whileCeiling - done = 0 := by omega
  rw [supplyEffect, hk, Manner.rounds_zero, guardedEffect]

end Frames

/-! ### The machine computes the effect -/

/-- **The machine computes the effect of its stack.** -/
theorem execute_eq_stackEffect (env : Surroundings ω) (fs : List Frame) (s : RunState ω) :
    execute env fs s = stackEffect env fs s := by
  -- along the moves of the machine: each keeps the effect of stack and state
  fun_induction execute env fs s with
  | case1 s => rfl
  -- an item that is nothing ends its frame
  | case2 i is supply fs s hn ih => rw [ih, stackEffect, frameEffect_nothing env s hn, andThen_ok]
  -- an instruction is entered: a fault, no frame, or a frame
  | case3 i is supply fs s hn fault s' h =>
      rw [stackEffect, frameEffect_cons env s (Bool.eq_false_iff.2 hn), effect_eq_enter, h]
      rfl
  | case4 i is supply fs s hn s' h ih =>
      rw [ih, stackEffect, stackEffect, frameEffect_cons env s (Bool.eq_false_iff.2 hn), effect_eq_enter,
        h]
      rfl
  | case5 i is supply fs s hn f s' h ih =>
      rw [ih, stackEffect, stackEffect, frameEffect_cons env s (Bool.eq_false_iff.2 hn), effect_eq_enter,
        h]
      exact (andThen_assoc _ _ _).symm
  -- nothing follows a block
  | case6 fs s ih => exact ih
  -- a counted loop: once more, or over
  | case7 done count body fs s h ih =>
      rw [ih, stackEffect, stackEffect, frameEffect_nil, supplyEffect_iterate env s body h]
  | case8 done count body fs s h ih =>
      rw [ih, stackEffect, frameEffect_nil, supplyEffect_iterate_done env s body h, andThen_ok]
  -- a conditional loop: a fault of the predicate, once more, not again, or at the ceiling
  | case9 predicate done body fs s h fault s' ht =>
      rw [stackEffect, frameEffect_nil, supplyEffect_recheck env s predicate body h, ht]
      rfl
  | case10 predicate done body fs s h s' ht ih =>
      rw [ih, stackEffect, stackEffect, frameEffect_nil, supplyEffect_recheck env s predicate body h, ht]
  | case11 predicate done body fs s h s' ht ih =>
      rw [ih, stackEffect, frameEffect_nil, supplyEffect_recheck env s predicate body h, ht]
      rfl
  | case12 predicate done body fs s h ih =>
      rw [ih, stackEffect, frameEffect_nil, supplyEffect_recheck_done env s predicate body h, andThen_ok]

/-- **The machine computes the effect of a frame.** -/
theorem execute_singleton (env : Surroundings ω) (f : Frame) (s : RunState ω) :
    execute env [f] s = frameEffect env f s := by
  rw [execute_eq_stackEffect]
  exact andThen_nothingMore (frameEffect env f s)

/-- **The machine computes the effect of a block as it is run:** fault or none, the robot, the world
around it, the steps and the waits are the same. -/
theorem executeBlock_eq_blockEffect (env : Surroundings ω) (is : List Instruction)
    (s : RunState ω) : executeBlock env is s = blockEffect env .asRun is s := by
  rw [executeBlock, execute_singleton, frameEffect_block]

/-- **An instruction that is run as it is written:** it is not nothing at all, and if it is a conditional
loop its predicate never says that it has come to its end. -/
def IsPlain (env : Surroundings ω) : Instruction → Prop
  | .foreign .nothing => False
  | .repeatWhile predicate _ => ∀ s text, (env.test predicate s).1 ≠ .error (.stopped text)
  | _ => True

theorem IsPlain.isNothing_eq_false {env : Surroundings ω} {i : Instruction} (h : IsPlain env i) :
    i.isNothing = false := by
  cases i with
  | foreign item =>
      cases item with
      | nothing => exact h.elim
      | object type shown => rfl
  | _ => rfl

/-- A predicate that does not say so is asked by a loop as by a condition. -/
theorem recheck_eq_test {env : Surroundings ω} {predicate : Predicate}
    (h : ∀ s text, (env.test predicate s).1 ≠ .error (.stopped text)) :
    env.recheck predicate = env.test predicate := by
  funext s
  have hs := h s
  unfold Surroundings.recheck
  rcases ht : env.test predicate s with ⟨fault | answer, s'⟩
  · rw [ht] at hs
    have hfault : fault.outOfLoop = fault :=
      (Fault.outOfLoop_eq_self_iff fault).2 fun ⟨text, he⟩ => hs text (congrArg Except.error he)
    simp only [Surroundings.answerOutOfLoop, hfault]
  · rfl

theorem breaksOff_asRun {env : Surroundings ω} {is : List Instruction}
    (h : Throughout (IsPlain env) is) : Manner.asRun.breaksOff is = false := by
  induction is with
  | nil => rfl
  | cons i is ih =>
      obtain ⟨hi, his⟩ := throughout_cons.1 h
      rw [Manner.breaksOff_cons, ih his, Bool.or_false]
      exact hi.head.isNothing_eq_false

theorem rounds_asRun {env : Surroundings ω} {body : List Instruction}
    (h : Throughout (IsPlain env) body) (n : Nat) : Manner.asRun.rounds body n = n := by
  rw [Manner.rounds, breaksOff_asRun h, if_neg Bool.false_ne_true]

-- On the tree: a part of a plain tree is plain, so the blocks of an instruction have one effect in both
-- manners by the same argument.
mutual

/-- **A plain instruction has one effect in both manners.** -/
theorem effect_asRun (env : Surroundings ω) : ∀ i : Instruction, Throughout (IsPlain env) [i] →
    effect env .asRun i = effect env .asWritten i
  | .cond predicate thenBranch elseBranch, h => by
      obtain ⟨_, hthen, helse⟩ := throughout_cond.1 h
      funext s
      simp only [effect, blockEffect_asRun env thenBranch hthen, blockEffect_asRun env elseBranch helse]
  | .loop count body, h => by
      obtain ⟨_, hbody⟩ := throughout_loop.1 h
      funext s
      simp only [effect, blockEffect_asRun env body hbody, rounds_asRun hbody, Manner.rounds_asWritten]
  | .repeatWhile predicate body, h => by
      obtain ⟨hloop, hbody⟩ := throughout_repeatWhile.1 h
      funext s
      simp only [effect, blockEffect_asRun env body hbody, rounds_asRun hbody, Manner.rounds_asWritten,
        Manner.ask, recheck_eq_test hloop]
  | .parallel branches, h => by
      obtain ⟨_, hbranches⟩ := throughout_parallel.1 h
      funext s
      simp only [effect, branchesEffect_asRun env branches hbranches]
  | .move .., _ | .turn _, _ | .sense .., _ | .actuate .., _ | .wait _, _ | .log _, _ | .halt, _
  | .foreign _, _ => rfl

theorem blockEffect_asRun (env : Surroundings ω) : ∀ is : List Instruction,
    Throughout (IsPlain env) is → blockEffect env .asRun is = blockEffect env .asWritten is
  | [], _ => rfl
  | i :: is, h => by
      obtain ⟨hi, his⟩ := throughout_cons.1 h
      have hitem : i.isNothing = false := hi.head.isNothing_eq_false
      funext s
      simp only [blockEffect, Manner.ends, hitem, Bool.false_eq_true, if_false, effect_asRun env i hi,
        blockEffect_asRun env is his]

theorem branchesEffect_asRun (env : Surroundings ω) : ∀ bs : List (List Instruction),
    Throughout (IsPlain env) bs.flatten → branchesEffect env .asRun bs = branchesEffect env .asWritten bs
  | [], _ => rfl
  | b :: bs, h => by
      obtain ⟨hb, hbs⟩ := throughout_append.1 (List.flatten_cons ▸ h)
      funext s
      simp only [branchesEffect, breaksOff_asRun hb, Manner.breaksOff_asWritten,
        blockEffect_asRun env b hb, branchesEffect_asRun env bs hbs]

end

/-- **The machine computes the effect of a block,** in every state and in any surroundings: of any block
as it is run, and of a plain one as it is written. -/
theorem executeBlock_effects (env : Surroundings ω) (is : List Instruction) (s : RunState ω) :
    executeBlock env is s = blockEffect env .asRun is s
      ∧ (Throughout (IsPlain env) is → executeBlock env is s = blockEffect env .asWritten is s) := by
  have hrun := executeBlock_eq_blockEffect env is s
  exact ⟨hrun, fun hplain => hrun.trans (congrFun (blockEffect_asRun env is hplain) s)⟩

/-- A loop around a condition, a conditional loop with an answer from outside, and an item that is no
instruction: the run is that of the tree as it is written. -/
theorem executeBlock_effects_patrol :
    let patrol : List Instruction := [.loop 2 [.cond .leftBrighter [.log "left"] []],
      .repeatWhile (.external 0) [.move .forward 5], .foreign (.text "bogus")]
    let s : RunState Bench := .start (.new "Coco") ⟨.scripted [], #[.scripted [true]]⟩
    Throughout (IsPlain Bench.surroundings) patrol
      ∧ executeBlock Bench.surroundings patrol s
        = blockEffect Bench.surroundings .asWritten patrol s := by
  intro patrol s
  have hplain : Throughout (IsPlain Bench.surroundings) patrol := by
    have hprobe (s : RunState Bench) (text : String) :
        (Bench.surroundings.test (.external 0) s).1 ≠ .error (.stopped text) := by
      simp only [Surroundings.test, Bench.surroundings, Bench.ask]
      cases s.world.probes[0]? with
      | none => simp
      | some probe =>
          cases probe with
          | scripted answers => cases answers <;> simp [Probe.answer]
          | _ => simp [Probe.answer]
    have hleaf (message : String) : Throughout (IsPlain Bench.surroundings) [.log message] :=
      List.forall_mem_singleton.2 trivial
    have hmove : Throughout (IsPlain Bench.surroundings) [.move .forward 5] :=
      List.forall_mem_singleton.2 trivial
    have hbogus : Throughout (IsPlain Bench.surroundings) [.foreign (.text "bogus")] :=
      List.forall_mem_singleton.2 trivial
    have hcond : Throughout (IsPlain Bench.surroundings) [.cond .leftBrighter [.log "left"] []] :=
      throughout_cond.2 ⟨trivial, hleaf "left", throughout_nil⟩
    exact throughout_cons.2 ⟨throughout_loop.2 ⟨trivial, hcond⟩,
      throughout_cons.2 ⟨throughout_repeatWhile.2 ⟨hprobe, hmove⟩, hbogus⟩⟩
  exact ⟨hplain, (executeBlock_effects Bench.surroundings patrol s).2 hplain⟩

/-- **An item that is nothing ends its block,** where as it is written it is refused; and a conditional
loop reports a fault of its own in place of the one that its predicate ends in. -/
theorem nothing_taken_for_end :
    let env : Surroundings Unit :=
      ⟨fun _ world => (.error .sensorOffline, world), fun _ _ world => (.error (.stopped ""), world)⟩
    let s : RunState Unit := .start (.new "Coco") ()
    let gap : List Instruction := [.foreign .nothing, .log "x"]
    let spin : List Instruction := [.repeatWhile (.external 0) [.log "x"]]
    (executeBlock env gap s = (.ok (), s)
        ∧ blockEffect env .asWritten gap s = (.error (.foreignItem .nothing), s.tick))
      ∧ executeBlock env spin s = (.error .loopStopped, s.tick)
        ∧ blockEffect env .asWritten spin s = (.error (.stopped ""), s.tick) := by
  intro env s gap spin
  rw [executeBlock_eq_blockEffect, executeBlock_eq_blockEffect]
  exact ⟨⟨rfl, rfl⟩, rfl, rfl⟩

end Run

end RobotShorthand
