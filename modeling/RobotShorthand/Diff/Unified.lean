/-
**Unified differences.**

The difference of two lists of lines as changes between their common runs, and its text: changes with
three lines of context around them, in groups that are headed by the ranges of lines they cover.

Main definitions:

* `Change` — a stretch of the two lists that is kept, replaced, deleted or inserted;
* `changes` — the stretches of two lists, in order;
* `hunks` — the changes with their context, in groups;
* `unified` — **the lines of the text,** none when nothing changes;
* `Program.diff` — the difference of the listings of two programs.
-/

import RobotShorthand.Diff.Matching
import RobotShorthand.Program.Listing
import RobotShorthand.Text.Lines

set_option relaxedAutoImplicit false
set_option autoImplicit false

namespace RobotShorthand

namespace Diff

/-- What happens to the lines of a stretch. -/
inductive Action
  | keep
  | replace
  | delete
  | insert
  deriving DecidableEq

/-- A stretch of the two lists, and what happens to it; the ends do not belong to it. -/
structure Change extends Region where
  action : Action

/-! ### Changes -/

/-- The change between two common runs, if there is one. -/
def gap (r : Region) : List Change :=
  match decide (r.leftStart < r.leftEnd), decide (r.rightStart < r.rightEnd) with
  | true, true => [⟨r, .replace⟩]
  | true, false => [⟨r, .delete⟩]
  | false, true => [⟨r, .insert⟩]
  | false, false => []

/-- The stretches from a place in each list on, given the common runs from there on and the lengths of
the lists. -/
def changesFrom (i j leftLength rightLength : Nat) : List Run → List Change
  | [] => gap ⟨i, leftLength, j, rightLength⟩
  | run :: rest =>
      gap ⟨i, run.left, j, run.right⟩
        ++ ⟨⟨run.left, run.left + run.size, run.right, run.right + run.size⟩, .keep⟩
          :: changesFrom (run.left + run.size) (run.right + run.size) leftLength rightLength rest

/-- **The stretches of two lists of lines,** in order. -/
def changes (left right : List String) : List Change :=
  changesFrom 0 0 left.length right.length (commonRuns left right)

/-! ### Context -/

/-- The number of unchanged lines around a change. -/
def contextLines : Nat := 3

/-- The last lines of a stretch, as context in front of a change. -/
def Change.asLead (c : Change) : Change :=
  { c with
    leftStart := max c.leftStart (c.leftEnd - contextLines)
    rightStart := max c.rightStart (c.rightEnd - contextLines) }

/-- The first lines of a stretch, as context behind a change. -/
def Change.asTrail (c : Change) : Change :=
  { c with
    leftEnd := min c.leftEnd (c.leftStart + contextLines)
    rightEnd := min c.rightEnd (c.rightStart + contextLines) }

/-- Changes with the first stretch cut to context if it is kept. -/
def trimFirst : List Change → List Change
  | [] => []
  | c :: cs => (if c.action = .keep then c.asLead else c) :: cs

/-- Changes with the last stretch cut to context if it is kept. -/
def trimLast : List Change → List Change
  | [] => []
  | [c] => [if c.action = .keep then c.asTrail else c]
  | c :: cs => c :: trimLast cs

/-- Changes in groups: a long stretch that is kept ends one group with its first lines and begins the
next with its last ones.  `group` is the unfinished group. -/
def grouped (group : List Change) : List Change → List (List Change)
  | [] =>
      match group with
      | [] => []
      | [c] => if c.action = .keep then [] else [[c]]
      | cs => [cs]
  | c :: cs =>
      if c.action = .keep ∧ 2 * contextLines < c.leftEnd - c.leftStart then
        (group ++ [c.asTrail]) :: grouped [c.asLead] cs
      else grouped (group ++ [c]) cs

/-- **The changes of two lists with their context,** in groups. -/
def hunks (left right : List String) : List (List Change) :=
  grouped [] (trimLast (trimFirst (changes left right)))

/-! ### Text -/

/-- A range of lines: the first one, counted from one, and their number unless it is one; for no
lines the line in front of them. -/
def rangeText (start stop : Nat) : String :=
  if stop - start = 1 then toString (start + 1)
  else if stop - start = 0 then toString start ++ ",0"
  else toString (start + 1) ++ "," ++ toString (stop - start)

/-- The lines of a list in a range, marked. -/
def markedLines (mark : String) (lines : List String) (start stop : Nat) : List String :=
  ((lines.drop start).take (stop - start)).map (mark ++ ·)

/-- The lines of a change. -/
def Change.text (left right : List String) (c : Change) : List String :=
  let removed := markedLines "-" left c.leftStart c.leftEnd
  let added := markedLines "+" right c.rightStart c.rightEnd
  match c.action with
  | .keep => markedLines " " left c.leftStart c.leftEnd
  | .replace => removed ++ added
  | .delete => removed
  | .insert => added

/-- The lines of a group, headed by the ranges that it covers. -/
def hunkText (left right : List String) (cs : List Change) : List String :=
  match cs.head?, cs.getLast? with
  | some first, some last =>
      ("@@ -" ++ rangeText first.leftStart last.leftEnd ++ " +"
          ++ rangeText first.rightStart last.rightEnd ++ " @@")
        :: cs.flatMap (Change.text left right)
  | _, _ => []

/-- **The unified difference of two lists of lines,** headed by the names of the lists. -/
def unified (leftName rightName : String) (left right : List String) : List String :=
  match hunks left right with
  | [] => []
  | hs => ("--- " ++ leftName) :: ("+++ " ++ rightName) :: hs.flatMap (hunkText left right)

end Diff

/-- The difference of the listings of two programs. -/
def Program.diff (p q : Program) : List String :=
  Diff.unified p.name q.name (Text.lines p.listing) (Text.lines q.listing)

end RobotShorthand
