/-
**Conditionals.**

The text inside a conditional bracket: a threshold and one or two branches with colons between them.
The text is cut at every colon, whatever it stands in, and empty segments at the end are dropped; a
segment behind the second branch is not read.

Main definitions:

* `segments` — a text cut at every colon;
* `Conditional.ofText?` — the threshold and the branches of a conditional;
* `thresholdOf?` — the value of a threshold.

Main results:

* `Conditional.length_branches` — **the branches are shorter than the text they are cut from**.
-/

import RobotShorthand.Dense.Literal

set_option relaxedAutoImplicit false
set_option autoImplicit false

namespace RobotShorthand

namespace Dense

/-! ### Segments -/

/-- A list of segments with a character put before the first one. -/
def onFirst (c : Char) : List (List Char) → List (List Char)
  | [] => [[c]]
  | s :: ss => (c :: s) :: ss

/-- A text cut at every colon. -/
def segments : List Char → List (List Char)
  | [] => [[]]
  | c :: cs => if c = ':' then [] :: segments cs else onFirst c (segments cs)

/-- The segments up to the last one that is not empty. -/
def withoutEmptyEnd (ss : List (List Char)) : List (List Char) :=
  (ss.reverse.dropWhile List.isEmpty).reverse

theorem length_le_of_mem_segments {s : List Char} : ∀ (cs : List Char), s ∈ segments cs →
    s.length ≤ cs.length := by
  intro cs
  induction cs generalizing s with
  | nil => intro h; simp [segments] at h; simp [h]
  | cons c cs ih =>
      intro h
      simp only [segments] at h
      split at h
      · rcases List.mem_cons.1 h with rfl | h
        · simp
        · exact Nat.le_trans (ih h) (by simp)
      · cases hs : segments cs with
        | nil =>
            simp only [hs, onFirst, List.mem_singleton] at h
            subst h; simp
        | cons t ts =>
            simp only [hs, onFirst, List.mem_cons] at h
            rcases h with rfl | h
            · have := ih (s := t) (hs ▸ List.mem_cons_self ..)
              simpa using this
            · exact Nat.le_trans (ih (hs ▸ List.mem_cons_of_mem _ h)) (by simp)

theorem mem_of_mem_withoutEmptyEnd {s : List Char} {ss : List (List Char)}
    (h : s ∈ withoutEmptyEnd ss) : s ∈ ss := by
  unfold withoutEmptyEnd at h
  exact List.mem_reverse.1 ((List.dropWhile_sublist _).subset (List.mem_reverse.1 h))

/-! ### Conditionals -/

/-- The threshold and the branches of a conditional as they are written.  Without a second branch the
second one is empty. -/
structure Conditional where
  threshold : List Char
  thenBranch : List Char
  elseBranch : List Char

/-- **The parts of a conditional,** if it has a threshold and a branch. -/
def Conditional.ofText? (inner : List Char) : Option Conditional :=
  match withoutEmptyEnd (segments inner) with
  | t :: a :: b :: _ => some ⟨t, a, b⟩
  | [t, a] => some ⟨t, a, []⟩
  | _ => none

/-- **The branches are no longer than the text they are cut from.** -/
theorem Conditional.length_branches {inner : List Char} {c : Conditional}
    (h : Conditional.ofText? inner = some c) :
    c.thenBranch.length ≤ inner.length ∧ c.elseBranch.length ≤ inner.length := by
  unfold Conditional.ofText? at h
  split at h
  · rename_i t a b rest hs
    obtain rfl := Option.some.inj h
    exact ⟨length_le_of_mem_segments _ (mem_of_mem_withoutEmptyEnd (by rw [hs]; simp)),
      length_le_of_mem_segments _ (mem_of_mem_withoutEmptyEnd (by rw [hs]; simp))⟩
  · rename_i t a hs
    obtain rfl := Option.some.inj h
    exact ⟨length_le_of_mem_segments _ (mem_of_mem_withoutEmptyEnd (by rw [hs]; simp)), by simp⟩
  · exact absurd h (by simp)

/-- A threshold with a sign taken off it: a minus sign counts, a plus sign does not. -/
def unsignThreshold : List Char → Bool × List Char
  | '-' :: cs => (true, cs)
  | '+' :: cs => (false, cs)
  | cs => (false, cs)

/-- The value of a threshold: a sign or none, and decimal digits that make a signed 32-bit number. -/
def thresholdOf? (text : List Char) : Option Int :=
  let (negative, ds) := unsignThreshold text
  if ds.length ≤ Text.maxDecimalDigits then
    ((digitsOf? Text.asciiDigit? 10 ds).map (signed negative)).filter isInt32
  else none

end Dense

end RobotShorthand
