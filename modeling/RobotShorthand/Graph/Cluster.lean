/-
**Clusters.**

The same instructions as nested boxes: a cluster for the program and one for every block that is not
empty, each with the nodes of its own instructions.  Plain edges join the instructions of a block, and a
dashed one leads from an instruction to the first instruction of each of its blocks.

A drawing is made in one pass.  Boxes are made from the inside out: a block is drawn on a canvas of its
own, which becomes a box of the one around it and is linked by its first node.  The counter and the links
belong to the whole drawing and go from one canvas to the next.

Main definitions:

* `Cluster` — a box with its nodes and the boxes inside it;
* `Link` — a plain or a dashed edge;
* `Canvas` — a box that is being drawn;
* `Canvas.drawBlock` — the instructions of a block, each with the boxes of its blocks;
* `Program.cluster`, `Program.links` — **the box and the edges of a program,** the edges in the order
  in which a drawing adds them.
-/

import RobotShorthand.Graph.Basic

set_option relaxedAutoImplicit false
set_option autoImplicit false

namespace RobotShorthand

/-- The node of an instruction in a drawing. -/
structure BoxNode where
  id : NodeId
  label : String
  fill : String

/-- A box: its name and label, the nodes of its instructions, and the boxes of their blocks. -/
inductive Cluster
  | box (name label : String) (nodes : List BoxNode) (inner : List Cluster)

/-- An edge of a drawing: between neighbours it is plain, and into a block it is dashed and carries the
label of the block. -/
structure Link where
  source : NodeId
  target : NodeId
  block? : Option String
  deriving DecidableEq

/-- A label with every double quote escaped. -/
def escapeQuotes (label : String) : String :=
  String.ofList (label.toList.flatMap fun c => if c = '"' then ['\\', '"'] else [c])

/-- The node of an instruction with a number. -/
def Instruction.boxNode (n : Nat) (i : Instruction) : BoxNode :=
  ⟨.item n, escapeQuotes i.nodeLabel, i.kind.color⟩

/-- The path of a block: that of its surroundings, the node that holds it, and its place there. -/
def blockPath (path : String) (n k : Nat) : String :=
  path ++ "_" ++ (NodeId.item n).text ++ "_" ++ toString k

/-- The name of the box at a path. -/
def clusterName (path : String) : String := "cluster_" ++ path

/-! ### Drawing -/

/-- A box that is being drawn: its nodes and the boxes inside it, with the number of the instruction that
comes next and the links of the whole drawing so far. -/
structure Canvas where
  counter : Nat
  links : List Link
  nodes : List BoxNode
  inner : List Cluster

/-- The link from the instruction before, if there is one. -/
def linkFrom (previous? : Option Nat) (n : Nat) : List Link :=
  match previous? with
  | some m => [⟨.item m, .item n, none⟩]
  | none => []

namespace Canvas

/-- An empty canvas for a box inside this one. -/
def fresh (c : Canvas) : Canvas := { c with nodes := [], inner := [] }

/-- An instruction gets the next number, with a node and a link from the instruction before it. -/
def add (c : Canvas) (previous? : Option Nat) (i : Instruction) : Canvas :=
  { c with
    counter := c.counter + 1
    links := c.links ++ linkFrom previous? c.counter
    nodes := c.nodes ++ [i.boxNode c.counter] }

/-- **A block that has been drawn** becomes a box, linked from the node that holds the block to the first
node of the box.  A block without a first node is left out. -/
def enclose (c : Canvas) (path : String) (holder : Nat) (label : String) (block : Canvas) : Canvas :=
  match block.nodes with
  | [] => c
  | first :: _ =>
      { c with
        counter := block.counter
        links := block.links ++ [⟨.item holder, first.id, some label⟩]
        inner := c.inner ++ [.box (clusterName path) label block.nodes block.inner] }

mutual

/-- The boxes of the blocks of an instruction with the number `n`. -/
def drawBlocks (c : Canvas) (path : String) (n : Nat) : Instruction → Canvas
  | .cond _ thenBranch elseBranch =>
      let c := c.enclose (blockPath path n 0) n "then"
        (c.fresh.drawBlock (blockPath path n 0) none thenBranch)
      c.enclose (blockPath path n 1) n "else"
        (c.fresh.drawBlock (blockPath path n 1) none elseBranch)
  | .loop _ body =>
      c.enclose (blockPath path n 0) n "body"
        (c.fresh.drawBlock (blockPath path n 0) none body)
  | .repeatWhile _ body =>
      c.enclose (blockPath path n 0) n "body"
        (c.fresh.drawBlock (blockPath path n 0) none body)
  | .parallel branches => c.drawBranches path n 0 branches
  | _ => c

/-- The instructions of a block, with the number of the instruction before them, and the boxes of their
blocks. -/
def drawBlock (c : Canvas) (path : String) (previous? : Option Nat) : List Instruction → Canvas
  | [] => c
  | i :: is =>
      ((c.add previous? i).drawBlocks path c.counter i).drawBlock path (some c.counter) is

/-- The boxes of the branches of a parallel instruction, of which the first is branch `k`. -/
def drawBranches (c : Canvas) (path : String) (n k : Nat) : List (List Instruction) → Canvas
  | [] => c
  | is :: branches =>
      (c.enclose (blockPath path n k) n (branchLabel k)
        (c.fresh.drawBlock (blockPath path n k) none is)).drawBranches path n (k + 1) branches

end

end Canvas

/-- The path of the whole program. -/
def rootPath : String := "root"

/-- The drawing of a program. -/
def Program.canvas (p : Program) : Canvas :=
  Canvas.drawBlock ⟨0, [], [], []⟩ rootPath none p.instructions

/-- **The box of a program.** -/
def Program.cluster (p : Program) : Cluster :=
  .box (clusterName rootPath) p.name p.canvas.nodes p.canvas.inner

/-- **The links of a program.** -/
def Program.links (p : Program) : List Link := p.canvas.links

end RobotShorthand
