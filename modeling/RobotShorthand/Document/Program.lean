/-
**Programs as documents.**

A program is written as a document with its name and a tagged object for every instruction.  Only
thresholds are written out; all other predicates are written alike.  The digest of a program is that of
its document without the name.

Main definitions:

* `Predicate.document`, `Instruction.document` — the documents of the parts;
* `Program.tree` — **the instructions of a program as documents**, refused if an item is foreign;
* `Program.document` — the document of a program, with a summary of a run or without;
* `Program.digest` — the digest of its instructions;
* `Statistics.document` — the counts of a program as a document.
-/

import RobotShorthand.Document.Value
import RobotShorthand.Program.Walk

set_option relaxedAutoImplicit false
set_option autoImplicit false

namespace RobotShorthand

/-! ### Predicates and instructions -/

/-- The document of a predicate. -/
def Predicate.document : Predicate → Value
  | .threshold t =>
      .object [("kind", .string "memory_threshold"), ("key", .string t.key),
        ("threshold", .ofNumber t.threshold), ("comparison", .string t.comparison.symbol)]
  | .leftBrighter => .object [("kind", .string "opaque")]
  | .external _ => .object [("kind", .string "opaque")]

mutual

/-- The document of an instruction.  A foreign item has no document of its own. -/
def Instruction.document : Instruction → Value
  | .move direction distance =>
      .object [("op", .string "move"), ("direction", .string direction.name),
        ("distance", .int distance)]
  | .turn degrees => .object [("op", .string "turn"), ("degrees", .ofNumber degrees)]
  | .sense kind sensor target =>
      .object [("op", .string "sense"), ("kind", .string kind), ("sensor_id", .int sensor.toInt),
        ("target", .string target)]
  | .actuate kind actuator value =>
      .object [("op", .string "actuate"), ("kind", .string kind),
        ("actuator_id", .int actuator.toInt), ("value", .float value)]
  | .cond predicate thenBranch elseBranch =>
      .object [("op", .string "cond"), ("predicate", predicate.document),
        ("then", .list (itemDocuments thenBranch)), ("else", .list (itemDocuments elseBranch))]
  | .loop count body =>
      .object [("op", .string "loop"), ("count", .int count), ("body", .list (itemDocuments body))]
  | .repeatWhile predicate body =>
      .object [("op", .string "while"), ("predicate", predicate.document),
        ("body", .list (itemDocuments body))]
  | .parallel branches =>
      .object [("op", .string "parallel"), ("branches", .list (branchDocuments branches))]
  | .wait milliseconds => .object [("op", .string "wait"), ("duration_ms", .int milliseconds)]
  | .log message => .object [("op", .string "log"), ("message", .string message)]
  | .halt => .object [("op", .string "halt")]
  | .foreign _ => .null

/-- The documents of the instructions of a block. -/
def itemDocuments : List Instruction → List Value
  | [] => []
  | i :: is => i.document :: itemDocuments is

/-- The documents of several blocks. -/
def branchDocuments : List (List Instruction) → List Value
  | [] => []
  | b :: bs => .list (itemDocuments b) :: branchDocuments bs

end

/-! ### Programs -/

/-- An item that is no instruction, where one is needed. -/
structure NotAnInstruction where
  item : Foreign
  deriving DecidableEq

/-- Says that an item is no instruction. -/
def NotAnInstruction.message (e : NotAnInstruction) : String :=
  "Unknown instruction " ++ e.item.shown

/-- **The instructions of a program as documents,** unless an item is foreign. -/
def Program.tree (p : Program) : Except NotAnInstruction (List Value) :=
  match foreignIn? p.instructions with
  | some item => .error ⟨item⟩
  | none => .ok (itemDocuments p.instructions)

/-- The version of the documents of programs. -/
def documentVersion : String := "1.0"

/-- What a run has done: the steps it counted and the lines it added to the trace. -/
structure Summary where
  steps : Nat
  log : List String

/-- The document of a summary. -/
def Summary.document (s : Summary) : Value :=
  .object [("steps", .int s.steps), ("log", .list (s.log.map .string))]

/-- The document of a program, and of a run of it if there was one. -/
def Program.document (p : Program) (run? : Option Summary) : Except NotAnInstruction Value := do
  let tree ← p.tree
  let members := [("coconut_version", .string documentVersion), ("name", .string p.name),
    ("instructions", .list tree)]
  return .object <| match run? with
    | some run => members ++ [("evaluation", run.document)]
    | none => members

/-- The document of a program without its name. -/
def Program.namelessDocument (p : Program) : Except NotAnInstruction Value := do
  let tree ← p.tree
  return .object [("coconut_version", .string documentVersion), ("instructions", .list tree)]

/-- **The digest of the instructions of a program;** its name has no part in it. -/
def Program.digest (p : Program) : Except NotAnInstruction String := do
  let v ← p.namelessDocument
  return v.digest

/-! ### Statistics -/

/-- The counts of a program as a document. -/
def Statistics.document (s : Statistics) : Value :=
  .object [("name", .string s.name), ("total", .int s.total), ("top_level", .int s.topLevel),
    ("max_depth", .int s.maxDepth),
    ("kinds", .object (s.kinds.map fun (kind, count) => (kind, .int count)))]

end RobotShorthand
