/-
**Walking a program.**

The instructions of a program in the order in which they are written, each with the number of blocks
around it, and the counts that follow from the walk.

Main definitions:

* `Block`, `Instruction.blocks` — the blocks an instruction holds, with their labels;
* `walkBlock`, `Program.walk` — **the instructions of a block or a program and of all blocks in it, with
  their depths;**
* `Statistics`, `Program.statistics` — how many instructions there are, of which kinds and how deep;
* `foreignIn?` — the first foreign item of a block.

Main results:

* `walkBlock_append` — the walk of a block is the walks of its parts one after another;
* `foreignIn?_append` — the first foreign item of a block is that of the first part that has one.
-/

import RobotShorthand.Program.Instruction

set_option relaxedAutoImplicit false
set_option autoImplicit false

namespace RobotShorthand

/-! ### Blocks -/

/-- A block of instructions under the label that its instruction gives it. -/
structure Block where
  label : String
  instructions : List Instruction

/-- The label of a branch of a parallel instruction. -/
def branchLabel (n : Nat) : String := "branch " ++ toString n

/-- The branches of a parallel instruction as blocks, numbered from `n`. -/
def branchBlocks (n : Nat) : List (List Instruction) → List Block
  | [] => []
  | b :: bs => ⟨branchLabel n, b⟩ :: branchBlocks (n + 1) bs

/-- The blocks that an instruction holds. -/
def Instruction.blocks : Instruction → List Block
  | .cond _ thenBranch elseBranch => [⟨"then", thenBranch⟩, ⟨"else", elseBranch⟩]
  | .loop _ body => [⟨"body", body⟩]
  | .repeatWhile _ body => [⟨"body", body⟩]
  | .parallel branches => branchBlocks 0 branches
  | _ => []

/-! ### The walk -/

mutual

/-- An instruction at a depth, followed by everything inside it. -/
def Instruction.walk (depth : Nat) : Instruction → List (Instruction × Nat)
  | .cond p thenBranch elseBranch =>
      (.cond p thenBranch elseBranch, depth)
        :: (walkBlock (depth + 1) thenBranch ++ walkBlock (depth + 1) elseBranch)
  | .loop n body => (.loop n body, depth) :: walkBlock (depth + 1) body
  | .repeatWhile p body => (.repeatWhile p body, depth) :: walkBlock (depth + 1) body
  | .parallel branches => (.parallel branches, depth) :: walkBranches (depth + 1) branches
  | i => [(i, depth)]

/-- The walk of a block whose instructions stand at a depth. -/
def walkBlock (depth : Nat) : List Instruction → List (Instruction × Nat)
  | [] => []
  | i :: is => i.walk depth ++ walkBlock depth is

/-- The walks of several blocks at one depth. -/
def walkBranches (depth : Nat) : List (List Instruction) → List (Instruction × Nat)
  | [] => []
  | b :: bs => walkBlock depth b ++ walkBranches depth bs

end

/-- **The walk of a program:** every instruction with the number of blocks around it. -/
def Program.walk (p : Program) : List (Instruction × Nat) := walkBlock 0 p.instructions

/-- The walk of a block is the walks of its parts one after another. -/
theorem walkBlock_append (depth : Nat) (is js : List Instruction) :
    walkBlock depth (is ++ js) = walkBlock depth is ++ walkBlock depth js := by
  induction is with
  | nil => rfl
  | cons i is ih => simp [walkBlock, ih]

/-! ### Statistics -/

/-- Counts of a program. -/
structure Statistics where
  name : String
  total : Nat
  topLevel : Nat
  maxDepth : Nat
  kinds : List (String × Nat)

/-- The names of the kinds that occur, each once, in the order of code points, with their counts. -/
def kindCounts (names : List String) : List (String × Nat) :=
  (names.eraseDups.mergeSort fun x y => x ≤ y).map fun n => (n, names.count n)

/-- **The counts of a program.** -/
def Program.statistics (p : Program) : Statistics :=
  let walk := p.walk
  { name := p.name
    total := walk.length
    topLevel := p.instructions.length
    maxDepth := walk.foldl (fun m e => max m e.2) 0
    kinds := kindCounts (walk.map fun e => e.1.kind.name) }

/-! ### Foreign items -/

mutual

/-- The first foreign item in an instruction. -/
def Instruction.foreign? : Instruction → Option Foreign
  | .foreign item => some item
  | .cond _ thenBranch elseBranch => (foreignIn? thenBranch).or (foreignIn? elseBranch)
  | .loop _ body => foreignIn? body
  | .repeatWhile _ body => foreignIn? body
  | .parallel branches => foreignAmong? branches
  | _ => none

/-- The first foreign item in a block. -/
def foreignIn? : List Instruction → Option Foreign
  | [] => none
  | i :: is => i.foreign?.or (foreignIn? is)

/-- The first foreign item in several blocks. -/
def foreignAmong? : List (List Instruction) → Option Foreign
  | [] => none
  | b :: bs => (foreignIn? b).or (foreignAmong? bs)

end

/-- The first foreign item of a block is that of the first part that has one. -/
theorem foreignIn?_append (is js : List Instruction) :
    foreignIn? (is ++ js) = (foreignIn? is).or (foreignIn? js) := by
  induction is with
  | nil => rfl
  | cons i is ih => simp [foreignIn?, ih, Option.or_assoc]

end RobotShorthand
