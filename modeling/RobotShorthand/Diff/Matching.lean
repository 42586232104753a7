/-
**Matching two texts line by line.**

Two lists of lines are matched by their longest common run of lines, the earliest of several, and then
in the same way before it and behind it.  A line that is very frequent in a long second list is popular:
no run is sought for its sake, but a run is extended over it.

Main definitions:

* `Run` — a common run of lines;
* `Region` — a part of the two lists;
* `longestRun` — the longest common run in a region;
* `commonRuns` — **all runs of the matching,** in order, neighbours joined.
-/

set_option relaxedAutoImplicit false
set_option autoImplicit false

namespace RobotShorthand

namespace Diff

/-- A run of `size` lines that stands at `left` in the first list and at `right` in the second. -/
structure Run where
  left : Nat
  right : Nat
  size : Nat
  deriving DecidableEq, Inhabited

/-- A part of the two lists; the ends do not belong to it. -/
structure Region where
  leftStart : Nat
  leftEnd : Nat
  rightStart : Nat
  rightEnd : Nat

/-! ### Where lines occur -/

/-- The least length of a list that has popular lines. -/
def popularFrom : Nat := 200

/-- How often a line may occur in a list of this length without being popular. -/
def popularLimit (length : Nat) : Nat := length / 100 + 1

/-- The places where a line occurs in a list, counted from `n`. -/
def placesFrom (line : String) (n : Nat) : List String → List Nat
  | [] => []
  | l :: ls => if l = line then n :: placesFrom line (n + 1) ls else placesFrom line (n + 1) ls

/-- The places at which a run may be sought for the sake of a line: all its places in the second list,
or none if it is popular there. -/
def places (right : List String) (line : String) : List Nat :=
  let found := placesFrom line 0 right
  if popularFrom ≤ right.length ∧ popularLimit right.length < found.length then [] else found

/-! ### The longest run -/

/-- The runs that end with a line, each under the place behind its end in the second list, and the best
run so far. -/
structure Search where
  ending : List (Nat × Nat)
  best : Run

/-- Goes on with the line at `i` of the first list, which also stands at the places `js` of the second:
every run that ends before such a place grows by one. -/
def Search.next (s : Search) (i : Nat) (js : List Nat) : Search :=
  let grown := js.map fun j => (j + 1, (s.ending.lookup j).getD 0 + 1)
  let best := grown.foldl
    (fun best (behind, size) =>
      if best.size < size then ⟨i + 1 - size, behind - size, size⟩ else best) s.best
  ⟨grown, best⟩

/-- The longest run that holds no popular line, the earliest of several. -/
def seekRun (sites : Array (List Nat)) (r : Region) : Run :=
  let start : Search := ⟨[], ⟨r.leftStart, r.rightStart, 0⟩⟩
  let found := (List.range' r.leftStart (r.leftEnd - r.leftStart)).foldl
    (fun s i =>
      s.next i ((sites.getD i []).filter fun j => r.rightStart ≤ j ∧ j < r.rightEnd)) start
  found.best

/-- Whether the lines at two places agree. -/
def agree (left right : Array String) (i j : Nat) : Bool :=
  match left[i]?, right[j]? with
  | some x, some y => x = y
  | _, _ => false

/-- A run extended to the front by at most `room` lines. -/
def extendFront (left right : Array String) : Nat → Run → Run
  | 0, run => run
  | room + 1, run =>
      if agree left right (run.left - 1) (run.right - 1) then
        extendFront left right room ⟨run.left - 1, run.right - 1, run.size + 1⟩
      else run

/-- A run extended to the back by at most `room` lines. -/
def extendBack (left right : Array String) : Nat → Run → Run
  | 0, run => run
  | room + 1, run =>
      if agree left right (run.left + run.size) (run.right + run.size) then
        extendBack left right room { run with size := run.size + 1 }
      else run

/-- **The longest run in a region,** extended over the lines around it that agree. -/
def longestRun (left right : Array String) (sites : Array (List Nat)) (r : Region) : Run :=
  let run := seekRun sites r
  let run := extendFront left right (min (run.left - r.leftStart) (run.right - r.rightStart)) run
  extendBack left right
    (min (r.leftEnd - (run.left + run.size)) (r.rightEnd - (run.right + run.size))) run

/-! ### All runs -/

/-- The runs of a region, in order.  Each run takes a line from the first list, so that `lines`, the
number of its lines, bounds the search. -/
def runsIn (left right : Array String) (sites : Array (List Nat)) : Nat → Region → List Run
  | 0, _ => []
  | lines + 1, r =>
      let run := longestRun left right sites r
      if run.size = 0 then []
      else
        let before : List Run :=
          if r.leftStart < run.left ∧ r.rightStart < run.right then
            runsIn left right sites lines ⟨r.leftStart, run.left, r.rightStart, run.right⟩
          else []
        let behind : List Run :=
          if run.left + run.size < r.leftEnd ∧ run.right + run.size < r.rightEnd then
            runsIn left right sites lines
              ⟨run.left + run.size, r.leftEnd, run.right + run.size, r.rightEnd⟩
          else []
        before ++ run :: behind

/-- Runs with neighbours joined into one; `current` is the run that has not been given out. -/
def joinRuns (current : Run) : List Run → List Run
  | [] => if current.size = 0 then [] else [current]
  | run :: rest =>
      if current.left + current.size = run.left ∧ current.right + current.size = run.right then
        joinRuns { current with size := current.size + run.size } rest
      else if current.size = 0 then joinRuns run rest
      else current :: joinRuns run rest

/-- **The common runs of two lists of lines.** -/
def commonRuns (left right : List String) : List Run :=
  let sites := (left.map (places right)).toArray
  joinRuns ⟨0, 0, 0⟩
    (runsIn left.toArray right.toArray sites left.length ⟨0, left.length, 0, right.length⟩)

end Diff

end RobotShorthand
