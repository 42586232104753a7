/-
**The graph of a program by its numbers.**

The graph is built with one counter.  Where the counter stands is known beforehand: a block that begins
at a number uses as many numbers as it has instructions, those inside of others included.  So the nodes
and the edges of a block can be told from the number of its first instruction alone, without what is
built before it.

Main definitions:

* `Instruction.size`, `blockSize` — the number of instructions in a tree and in a block;
* `nodesOfBlock`, `edgesOfBlock` — nodes and edges of a block from a number on.

Main results:

* `length_edgesOfBlock` — a block has one edge for each of its instructions;
* `Graph.Builder.addBlock_eq` — **a block that is added** gets as many numbers as it has instructions;
* `Program.graph_eq` — **the graph of a program by its numbers.**
-/

import RobotShorthand.Graph.Basic

set_option relaxedAutoImplicit false
set_option autoImplicit false

namespace RobotShorthand

/-! ### Sizes -/

mutual

/-- The number of instructions in an instruction, itself included. -/
def Instruction.size : Instruction → Nat
  | .cond _ thenBranch elseBranch => blockSize thenBranch + blockSize elseBranch + 1
  | .loop _ body => blockSize body + 1
  | .repeatWhile _ body => blockSize body + 1
  | .parallel branches => branchesSize branches + 1
  | _ => 1

/-- The number of instructions in a block. -/
def blockSize : List Instruction → Nat
  | [] => 0
  | i :: is => i.size + blockSize is

/-- The number of instructions in several blocks. -/
def branchesSize : List (List Instruction) → Nat
  | [] => 0
  | b :: bs => blockSize b + branchesSize bs

end

/-! ### The nodes -/

mutual

/-- The nodes of an instruction and of everything inside it, numbered from `n`. -/
def Instruction.nodes (n : Nat) : Instruction → List Node
  | .cond p thenBranch elseBranch =>
      (Instruction.cond p thenBranch elseBranch).node n
        :: (nodesOfBlock (n + 1) thenBranch
          ++ nodesOfBlock (n + 1 + blockSize thenBranch) elseBranch)
  | .loop count body => (Instruction.loop count body).node n :: nodesOfBlock (n + 1) body
  | .repeatWhile p body => (Instruction.repeatWhile p body).node n :: nodesOfBlock (n + 1) body
  | .parallel branches => (Instruction.parallel branches).node n :: nodesOfBranches (n + 1) branches
  | i => [i.node n]

/-- The nodes of a block, numbered from `n`. -/
def nodesOfBlock (n : Nat) : List Instruction → List Node
  | [] => []
  | i :: is => i.nodes n ++ nodesOfBlock (n + i.size) is

/-- The nodes of several blocks, numbered from `n`. -/
def nodesOfBranches (n : Nat) : List (List Instruction) → List Node
  | [] => []
  | b :: bs => nodesOfBlock n b ++ nodesOfBranches (n + blockSize b) bs

end

/-! ### The edges -/

mutual

/-- The edges inside an instruction with the number `n`. -/
def Instruction.innerEdges (n : Nat) : Instruction → List Edge
  | .cond _ thenBranch elseBranch =>
      edgesOfBlock (.item n) "then" (n + 1) thenBranch
        ++ edgesOfBlock (.item n) "else" (n + 1 + blockSize thenBranch) elseBranch
  | .loop _ body => edgesOfBlock (.item n) "body" (n + 1) body
  | .repeatWhile _ body => edgesOfBlock (.item n) "body" (n + 1) body
  | .parallel branches => edgesOfBranches (.item n) 0 (n + 1) branches
  | _ => []

/-- The edges of a block numbered from `n`: the first instruction is entered from `source` under a
label, and each other one from the one before it. -/
def edgesOfBlock (source : NodeId) (label : String) (n : Nat) : List Instruction → List Edge
  | [] => []
  | i :: is =>
      ⟨source, .item n, label⟩
        :: (i.innerEdges n ++ edgesOfBlock (.item n) nextLabel (n + i.size) is)

/-- The edges of the branches of a parallel instruction, of which the first is branch `k`. -/
def edgesOfBranches (source : NodeId) (k n : Nat) : List (List Instruction) → List Edge
  | [] => []
  | b :: bs =>
      edgesOfBlock source (branchLabel k) n b
        ++ edgesOfBranches source (k + 1) (n + blockSize b) bs

end

/-! ### Counts -/

mutual

theorem length_innerEdges (n : Nat) : ∀ i : Instruction, (i.innerEdges n).length + 1 = i.size
  | .cond _ a b => by
      simp [Instruction.innerEdges, Instruction.size, length_edgesOfBlock _ _ _ a,
        length_edgesOfBlock _ _ _ b]
  | .loop _ b => by simp [Instruction.innerEdges, Instruction.size, length_edgesOfBlock _ _ _ b]
  | .repeatWhile _ b => by
      simp [Instruction.innerEdges, Instruction.size, length_edgesOfBlock _ _ _ b]
  | .parallel bs => by
      simp [Instruction.innerEdges, Instruction.size, length_edgesOfBranches _ _ _ bs]
  | .move .. => rfl
  | .turn _ => rfl
  | .sense .. => rfl
  | .actuate .. => rfl
  | .wait _ => rfl
  | .log _ => rfl
  | .halt => rfl
  | .foreign _ => rfl

/-- A block has one edge for each of its instructions. -/
theorem length_edgesOfBlock (source : NodeId) (label : String) (n : Nat) :
    ∀ is : List Instruction, (edgesOfBlock source label n is).length = blockSize is
  | [] => rfl
  | i :: is => by
      have hi := length_innerEdges n i
      have his := length_edgesOfBlock (.item n) nextLabel (n + i.size) is
      simp only [edgesOfBlock, blockSize, List.length_cons, List.length_append]
      omega

theorem length_edgesOfBranches (source : NodeId) (k n : Nat) : ∀ bs : List (List Instruction),
    (edgesOfBranches source k n bs).length = branchesSize bs
  | [] => rfl
  | b :: bs => by
      simp [edgesOfBranches, branchesSize, length_edgesOfBlock source (branchLabel k) n b,
        length_edgesOfBranches source (k + 1) (n + blockSize b) bs]

end

/-! ### The builder -/

namespace Graph.Builder

mutual

theorem addInstruction_eq (b : Builder) (source : NodeId) (label : String) : ∀ i : Instruction,
    b.addInstruction source label i
      = ⟨b.counter + i.size, b.nodes ++ i.nodes b.counter,
          b.edges ++ ⟨source, .item b.counter, label⟩ :: i.innerEdges b.counter⟩
  | .cond _ thenBranch elseBranch => by
      rw [addInstruction, addBlock_eq _ _ _ thenBranch, addBlock_eq _ _ _ elseBranch]
      simp only [add, Instruction.size, Instruction.nodes, Instruction.innerEdges, List.append_assoc,
        List.cons_append, List.nil_append, Nat.add_assoc, Nat.add_comm 1]
  | .loop _ body => by
      rw [addInstruction, addBlock_eq _ _ _ body]
      simp only [add, Instruction.size, Instruction.nodes, Instruction.innerEdges, List.append_assoc,
        List.cons_append, List.nil_append, Nat.add_assoc, Nat.add_comm 1]
  | .repeatWhile _ body => by
      rw [addInstruction, addBlock_eq _ _ _ body]
      simp only [add, Instruction.size, Instruction.nodes, Instruction.innerEdges, List.append_assoc,
        List.cons_append, List.nil_append, Nat.add_assoc, Nat.add_comm 1]
  | .parallel branches => by
      rw [addInstruction, addBranches_eq _ _ _ branches]
      simp only [add, Instruction.size, Instruction.nodes, Instruction.innerEdges, List.append_assoc,
        List.cons_append, List.nil_append, Nat.add_assoc, Nat.add_comm 1]
  | .move .. => rfl
  | .turn _ => rfl
  | .sense .. => rfl
  | .actuate .. => rfl
  | .wait _ => rfl
  | .log _ => rfl
  | .halt => rfl
  | .foreign _ => rfl

/-- **A block that is added** gets the numbers from the counter on, as many as it has instructions. -/
theorem addBlock_eq (b : Builder) (source : NodeId) (label : String) : ∀ is : List Instruction,
    b.addBlock source label is
      = ⟨b.counter + blockSize is, b.nodes ++ nodesOfBlock b.counter is,
          b.edges ++ edgesOfBlock source label b.counter is⟩
  | [] => by simp [addBlock, blockSize, nodesOfBlock, edgesOfBlock]
  | i :: is => by
      rw [addBlock, addInstruction_eq b source label i, addBlock_eq _ _ _ is]
      simp [blockSize, nodesOfBlock, edgesOfBlock, Nat.add_assoc]

theorem addBranches_eq (b : Builder) (source : NodeId) (k : Nat) : ∀ bs : List (List Instruction),
    b.addBranches source k bs
      = ⟨b.counter + branchesSize bs, b.nodes ++ nodesOfBranches b.counter bs,
          b.edges ++ edgesOfBranches source k b.counter bs⟩
  | [] => by simp [addBranches, branchesSize, nodesOfBranches, edgesOfBranches]
  | is :: bs => by
      rw [addBranches, addBlock_eq b source (branchLabel k) is, addBranches_eq _ _ _ bs]
      simp [branchesSize, nodesOfBranches, edgesOfBranches, Nat.add_assoc]

end

end Graph.Builder

/-- **The graph of a program by its numbers.** -/
theorem Program.graph_eq (p : Program) :
    p.graph = ⟨⟨.root, p.name, "Program", rootColor⟩ :: nodesOfBlock 0 p.instructions,
      edgesOfBlock .root startLabel 0 p.instructions⟩ := by
  simp [graph, Graph.Builder.addBlock_eq]

end RobotShorthand
