/-
**The graph of a program.**

Every instruction of a program is a node, numbered in the order in which instructions are written; a
further node, the root, stands for the program.  An edge leads to every instruction: from the one before
it in its block, or from the instruction that holds the block, labelled with the block.

The graph is built in one pass.  The builder carries a counter for all levels of nesting, so the
instruction behind a block is numbered only when everything inside the block has been.

Main definitions:

* `NodeId`, `Node`, `Edge`, `Graph` — graphs of programs;
* `Graph.Builder` — a graph that is being built;
* `Graph.Builder.addBlock` — the instructions of a block, each with everything inside it;
* `Program.graph` — **the graph of a program.**
-/

import RobotShorthand.Program.Listing
import RobotShorthand.Program.Walk

set_option relaxedAutoImplicit false
set_option autoImplicit false

namespace RobotShorthand

/-! ### Nodes and edges -/

/-- The nodes of a graph: the root and the numbered instructions. -/
inductive NodeId
  | root
  | item (n : Nat)
  deriving DecidableEq

/-- The name of a node. -/
def NodeId.text : NodeId → String
  | root => "root"
  | item n => "n" ++ toString n

/-- A node as it is shown. -/
structure Node where
  id : NodeId
  label : String
  kind : String
  color : String

/-- An edge, with the label of the block it enters, or `next`. -/
structure Edge where
  source : NodeId
  target : NodeId
  label : String
  deriving DecidableEq

/-- A graph: its nodes by number with the root first, and its edges by the number of their target. -/
structure Graph where
  nodes : List Node
  edges : List Edge

/-- The label of the edge from an instruction to the next one of its block. -/
def nextLabel : String := "next"

/-- The label of the edge from the root. -/
def startLabel : String := "start"

/-- The colour of the root. -/
def rootColor : String := "#d3d3d3"

/-- The colour of a kind of instruction. -/
def Kind.color : Kind → String
  | move => "#8BC34A"
  | turn => "#8BC34A"
  | sense => "#FF7043"
  | actuate => "#FFEB3B"
  | cond => "#9575CD"
  | loop => "#90CAF9"
  | repeatWhile => "#90CAF9"
  | parallel => "#80CBC4"
  | wait => "#B0BEC5"
  | log => "#B0BEC5"
  | halt => "#F8BBD0"
  | foreign _ => "#B0BEC5"

/-- The name of a kind in capitals. -/
def Kind.capitals (k : Kind) : String := k.name.map Char.toUpper

/-- The label of the node of an instruction: its kind if it holds blocks, else its text. -/
def Instruction.nodeLabel (i : Instruction) : String :=
  if i.blocks.isEmpty then i.text else i.kind.capitals

/-- The node of an instruction with a number. -/
def Instruction.node (n : Nat) (i : Instruction) : Node :=
  ⟨.item n, i.nodeLabel, i.kind.name, i.kind.color⟩

/-! ### Building -/

namespace Graph

/-- A graph that is being built, with the number of the instruction that comes next. -/
structure Builder where
  counter : Nat
  nodes : List Node
  edges : List Edge

namespace Builder

/-- An instruction gets the next number, with a node and the edge that enters it. -/
def add (b : Builder) (source : NodeId) (label : String) (i : Instruction) : Builder :=
  { counter := b.counter + 1
    nodes := b.nodes ++ [i.node b.counter]
    edges := b.edges ++ [⟨source, .item b.counter, label⟩] }

mutual

/-- An instruction and everything inside it: its blocks are entered from its own node. -/
def addInstruction (b : Builder) (source : NodeId) (label : String) : Instruction → Builder
  | .cond p thenBranch elseBranch =>
      ((b.add source label (.cond p thenBranch elseBranch)).addBlock
          (.item b.counter) "then" thenBranch).addBlock (.item b.counter) "else" elseBranch
  | .loop count body =>
      (b.add source label (.loop count body)).addBlock (.item b.counter) "body" body
  | .repeatWhile p body =>
      (b.add source label (.repeatWhile p body)).addBlock (.item b.counter) "body" body
  | .parallel branches =>
      (b.add source label (.parallel branches)).addBranches (.item b.counter) 0 branches
  | i => b.add source label i

/-- The instructions of a block: the first one is entered from `source` under a label, and each other
one from the one before it. -/
def addBlock (b : Builder) (source : NodeId) (label : String) : List Instruction → Builder
  | [] => b
  | i :: is => (b.addInstruction source label i).addBlock (.item b.counter) nextLabel is

/-- The branches of a parallel instruction, of which the first is branch `k`. -/
def addBranches (b : Builder) (source : NodeId) (k : Nat) : List (List Instruction) → Builder
  | [] => b
  | is :: branches => (b.addBlock source (branchLabel k) is).addBranches source (k + 1) branches

end

end Builder

end Graph

/-- **The graph of a program.** -/
def Program.graph (p : Program) : Graph :=
  let root : Graph.Builder := ⟨0, [⟨.root, p.name, "Program", rootColor⟩], []⟩
  let built := root.addBlock .root startLabel p.instructions
  ⟨built.nodes, built.edges⟩

end RobotShorthand
