/-
**The lines that a matching keeps.**

The runs of a matching are common to both lists: the search only lets a run grow by a line that stands
at both places, and a run is extended over lines that agree.  So whatever the matching leaves out, it
never keeps lines that differ.

How much it keeps is another matter, since no run is sought for the sake of a popular line.  A list is
matched with itself as a whole nonetheless.  Wherever a line stands twice, the run that ends there with
an earlier copy is no longer than the run that the copy ends with itself, and that one was found in an
earlier row; the run that ends there with a later copy is no longer than the run that the line ends with
itself, and that one is found first.  So the longest run keeps to the diagonal, even if it is empty, and
from there it is extended to both ends.

Main definitions:

* `Run.IsCommon` — a run of lines that stand in both lists;
* `Search.reach` — the length of the run that ends before a place;
* `streak` — the length of the run on the diagonal that ends before a place.

Main results:

* `reach_next`, `best_next` — what one row of the search does;
* `seekRun_induction` — **what every row keeps, the search keeps;**
* `isCommon_of_mem_commonRuns` — **the runs of a matching are common to both lists;**
* `commonRuns_self` — **a list is matched with itself as a whole.**
-/

import RobotShorthand.Diff.Matching

set_option relaxedAutoImplicit false
set_option autoImplicit false

namespace RobotShorthand

namespace Diff

variable {left right : List String}

/-! ### Common runs -/

/-- A run of lines that stand in both lists. -/
def Run.IsCommon (left right : List String) (run : Run) : Prop :=
  ∀ k < run.size, ∃ line, left[run.left + k]? = some line ∧ right[run.right + k]? = some line

theorem Run.isCommon_empty (i j : Nat) : Run.IsCommon left right ⟨i, j, 0⟩ :=
  fun _ hk => absurd hk (Nat.not_lt_zero _)

/-- A common run and a line behind it. -/
theorem Run.IsCommon.concat {run : Run} (h : run.IsCommon left right) {line : String}
    (hleft : left[run.left + run.size]? = some line)
    (hright : right[run.right + run.size]? = some line) :
    Run.IsCommon left right { run with size := run.size + 1 } := by
  intro k hk
  by_cases hlast : k = run.size
  · subst hlast
    exact ⟨line, hleft, hright⟩
  · exact h k (Nat.lt_of_le_of_ne (Nat.le_of_lt_succ hk) hlast)

/-- A line and a common run behind it. -/
theorem Run.IsCommon.cons {i j size : Nat} (h : Run.IsCommon left right ⟨i + 1, j + 1, size⟩)
    {line : String} (hleft : left[i]? = some line) (hright : right[j]? = some line) :
    Run.IsCommon left right ⟨i, j, size + 1⟩ := by
  intro k hk
  cases k with
  | zero => exact ⟨line, hleft, hright⟩
  | succ k =>
      have hrest := h k (Nat.lt_of_succ_lt_succ hk)
      rwa [Nat.add_assoc, Nat.add_assoc, Nat.add_comm 1] at hrest

/-- Two common runs, one behind the other. -/
theorem Run.IsCommon.append {i j size size' : Nat} (h : Run.IsCommon left right ⟨i, j, size⟩)
    (h' : Run.IsCommon left right ⟨i + size, j + size, size'⟩) :
    Run.IsCommon left right ⟨i, j, size + size'⟩ := by
  intro k hk
  by_cases hfirst : k < size
  · exact h k hfirst
  · obtain ⟨m, rfl⟩ := Nat.exists_eq_add_of_le (Nat.le_of_not_lt hfirst)
    have hsecond := h' m (Nat.lt_of_add_lt_add_left hk)
    rwa [Nat.add_assoc, Nat.add_assoc] at hsecond

theorem agree_iff {i j : Nat} :
    agree left.toArray right.toArray i j = true
      ↔ ∃ line, left[i]? = some line ∧ right[j]? = some line := by
  unfold agree
  rw [List.getElem?_toArray, List.getElem?_toArray]
  cases left[i]? with
  | none => simp
  | some x =>
      cases right[j]? with
      | none => simp
      | some y => simp [eq_comm]

/-! ### Where lines occur -/

theorem mem_placesFrom {line : String} {ls : List String} {n j : Nat} :
    j ∈ placesFrom line n ls ↔ n ≤ j ∧ ls[j - n]? = some line := by
  induction ls generalizing n with
  | nil => simp [placesFrom]
  | cons l ls ih =>
      have hrest : j ∈ placesFrom line (n + 1) ls ↔ n < j ∧ (l :: ls)[j - n]? = some line := by
        rw [ih]
        refine and_congr_right fun hlt => ?_
        obtain ⟨k, rfl⟩ := Nat.exists_eq_add_of_le hlt
        rw [Nat.add_sub_cancel_left, show n + 1 + k - n = k + 1 by omega, List.getElem?_cons_succ]
      have hfirst : n ≤ j ∧ (l :: ls)[j - n]? = some line
          ↔ j = n ∧ l = line ∨ n < j ∧ (l :: ls)[j - n]? = some line := by
        rw [Nat.le_iff_lt_or_eq]
        constructor
        · rintro ⟨hlt | rfl, hline⟩
          · exact .inr ⟨hlt, hline⟩
          · rw [Nat.sub_self] at hline
            exact .inl ⟨rfl, Option.some.inj hline⟩
        · rintro (⟨rfl, rfl⟩ | ⟨hlt, hline⟩)
          · exact ⟨.inr rfl, by rw [Nat.sub_self]; rfl⟩
          · exact ⟨.inl hlt, hline⟩
      rw [hfirst, placesFrom]
      by_cases hline : l = line
      · rw [if_pos hline, List.mem_cons, hrest]
        simp [hline]
      · rw [if_neg hline, hrest]
        simp [hline]

/-- The places of a line are in order. -/
theorem pairwise_placesFrom (line : String) (n : Nat) (ls : List String) :
    (placesFrom line n ls).Pairwise (· < ·) := by
  induction ls generalizing n with
  | nil => exact .nil
  | cons l ls ih =>
      rw [placesFrom]
      by_cases hline : l = line
      · rw [if_pos hline]
        exact .cons (fun j hj => (mem_placesFrom.1 hj).1) (ih (n + 1))
      · rw [if_neg hline]
        exact ih (n + 1)

/-- A line is sought at all its places or at none. -/
theorem places_cases (right : List String) (line : String) :
    places right line = [] ∨ places right line = placesFrom line 0 right := by
  unfold places
  by_cases h : popularFrom ≤ right.length
      ∧ popularLimit right.length < (placesFrom line 0 right).length
  · exact .inl (if_pos h)
  · exact .inr (if_neg h)

theorem getElem?_of_mem_places {line : String} {j : Nat} (h : j ∈ places right line) :
    right[j]? = some line := by
  rcases places_cases right line with hnone | hall
  · rw [hnone] at h
    exact absurd h List.not_mem_nil
  · rw [hall] at h
    exact (mem_placesFrom.1 h).2

/-- The places for the line at a place of a list, in the other list or in itself. -/
def sitesOf (left right : List String) : Array (List Nat) := (left.map (places right)).toArray

theorem getD_sitesOf (left right : List String) (i : Nat) :
    (sitesOf left right).getD i [] = (left[i]?.map (places right)).getD [] := by
  rw [sitesOf, Array.getD_eq_getD_getElem?, List.getElem?_toArray, List.getElem?_map]

theorem mem_getD_sitesOf {i j : Nat} (h : j ∈ (sitesOf left right).getD i []) :
    ∃ line, left[i]? = some line ∧ right[j]? = some line := by
  rw [getD_sitesOf] at h
  cases hline : left[i]? with
  | none =>
      rw [hline] at h
      exact absurd h List.not_mem_nil
  | some line =>
      rw [hline] at h
      exact ⟨line, rfl, getElem?_of_mem_places h⟩

/-! ### Rows of the search -/

/-- The length of the run that ends before a place of the second list. -/
def Search.reach (s : Search) (j : Nat) : Nat := (s.ending.lookup j).getD 0

/-- The better one of two runs: the best one so far, or the one that ends with the lines at two places
if it is longer. -/
def Search.better (s : Search) (i : Nat) (best : Run) (j : Nat) : Run :=
  if best.size < s.reach j + 1 then ⟨i - s.reach j, j - s.reach j, s.reach j + 1⟩ else best

section Rows

variable {s : Search} {i j : Nat} {js : List Nat}

/-- **A row goes on with the runs that end before its places,** and with no other ones. -/
theorem reach_next (s : Search) (i j : Nat) (js : List Nat) :
    (s.next i js).reach (j + 1) = if j ∈ js then s.reach j + 1 else 0 := by
  have hlookup : ((s.next i js).ending.lookup (j + 1))
      = if j ∈ js then some (s.reach j + 1) else none := by
    show (js.map fun j => (j + 1, s.reach j + 1)).lookup (j + 1) = _
    induction js with
    | nil => rfl
    | cons k js ih =>
        rw [List.map_cons, List.lookup_cons, ih]
        by_cases hk : j = k
        · subst hk
          rw [beq_self_eq_true, if_pos (List.mem_cons_self ..)]
        · have hne : (j + 1 == k + 1) = false := by simpa using hk
          rw [hne]
          simp [hk]
  rw [Search.reach, hlookup]
  by_cases hj : j ∈ js
  · rw [if_pos hj, if_pos hj, Option.getD_some]
  · rw [if_neg hj, if_neg hj, Option.getD_none]

theorem reach_next_zero (s : Search) (i : Nat) (js : List Nat) : (s.next i js).reach 0 = 0 := by
  have hlookup : (s.next i js).ending.lookup 0 = none := by
    show (js.map fun j => (j + 1, s.reach j + 1)).lookup 0 = none
    induction js with
    | nil => rfl
    | cons k js ih =>
        rw [List.map_cons, List.lookup_cons, ih]
        rfl
  rw [Search.reach, hlookup, Option.getD_none]

/-- **A row keeps the best run** unless it finds a better one. -/
theorem best_next (s : Search) (i : Nat) (js : List Nat) :
    (s.next i js).best = js.foldl (s.better i) s.best := by
  show (js.map fun j => (j + 1, s.reach j + 1)).foldl _ s.best = _
  rw [List.foldl_map]
  congr 1
  funext best j
  simp only [Search.better, Nat.add_sub_add_right]

/-- The better one is as long as the longer one. -/
theorem size_better (s : Search) (i : Nat) (best : Run) (j : Nat) :
    (s.better i best j).size = max best.size (s.reach j + 1) := by
  unfold Search.better
  by_cases h : best.size < s.reach j + 1
  · rw [if_pos h, Nat.max_eq_right (Nat.le_of_lt h)]
  · rw [if_neg h, Nat.max_eq_left (Nat.le_of_not_lt h)]

/-- Runs that are no longer than the best one change nothing. -/
theorem foldl_better_of_le {best : Run} (h : ∀ j ∈ js, s.reach j + 1 ≤ best.size) :
    js.foldl (s.better i) best = best := by
  induction js with
  | nil => rfl
  | cons j js ih =>
      obtain ⟨hj, hjs⟩ := List.forall_mem_cons.1 h
      rw [List.foldl_cons, Search.better, if_neg (Nat.not_lt.2 hj)]
      exact ih hjs

end Rows

/-- **What every row keeps, the search keeps:** a property of what has been found in front of a line of
the first list. -/
theorem seekRun_induction {P : Nat → Search → Prop} {sites : Array (List Nat)} {r : Region}
    (start : P r.leftStart ⟨[], ⟨r.leftStart, r.rightStart, 0⟩⟩)
    (next : ∀ i s, i < r.leftStart + (r.leftEnd - r.leftStart) → P i s →
      P (i + 1) (s.next i ((sites.getD i []).filter fun j => r.rightStart ≤ j ∧ j < r.rightEnd))) :
    ∃ s, P (r.leftStart + (r.leftEnd - r.leftStart)) s ∧ seekRun sites r = s.best := by
  have hrows (n i : Nat) (s : Search) (hn : i + n ≤ r.leftStart + (r.leftEnd - r.leftStart))
      (hs : P i s) :
      P (i + n) ((List.range' i n).foldl (fun s i =>
        s.next i ((sites.getD i []).filter fun j => r.rightStart ≤ j ∧ j < r.rightEnd)) s) := by
    induction n generalizing i s with
    | zero => exact hs
    | succ n ih =>
        rw [List.range'_succ, List.foldl_cons, Nat.add_comm n, ← Nat.add_assoc]
        exact ih (i + 1) _ (by omega) (next i s (by omega) hs)
  exact ⟨_, hrows _ _ _ (Nat.le_refl _) start, rfl⟩

/-! ### The runs of a matching are common -/

/-- What the search knows of common runs in front of a line. -/
structure FindsCommon (left right : List String) (i : Nat) (s : Search) : Prop where
  bounds : ∀ j, s.reach j ≤ i ∧ s.reach j ≤ j
  ending : ∀ j, Run.IsCommon left right ⟨i - s.reach j, j - s.reach j, s.reach j⟩
  best : s.best.IsCommon left right

theorem reach_start (j : Nat) (best : Run) : Search.reach ⟨[], best⟩ j = 0 := rfl

/-- A row finds common runs, if the line stands at the places of the row. -/
theorem FindsCommon.next {i : Nat} {s : Search} (h : FindsCommon left right i s) {js : List Nat}
    (hjs : ∀ j ∈ js, ∃ line, left[i]? = some line ∧ right[j]? = some line) :
    FindsCommon left right (i + 1) (s.next i js) := by
  -- a run that ends before a place of the row grows by the line there
  have hgrown : ∀ j ∈ js, Run.IsCommon left right ⟨i - s.reach j, j - s.reach j, s.reach j + 1⟩ := by
    intro j hj
    obtain ⟨line, hleft, hright⟩ := hjs j hj
    obtain ⟨hi, hj⟩ := h.bounds j
    exact (h.ending j).concat (by rwa [Nat.sub_add_cancel hi]) (by rwa [Nat.sub_add_cancel hj])
  refine ⟨fun j => ?_, fun j => ?_, ?_⟩
  · cases j with
    | zero => simp only [reach_next_zero, Nat.zero_le, and_self]
    | succ j =>
        obtain ⟨hi, hj⟩ := h.bounds j
        rw [reach_next]
        split <;> omega
  · cases j with
    | zero =>
        rw [reach_next_zero]
        exact Run.isCommon_empty _ _
    | succ j =>
        rw [reach_next]
        by_cases hj : j ∈ js
        · rw [if_pos hj, Nat.add_sub_add_right, Nat.add_sub_add_right]
          exact hgrown j hj
        · rw [if_neg hj]
          exact Run.isCommon_empty _ _
  · rw [best_next]
    refine List.foldlRecOn js (s.better i) h.best ?_
    intro best hbest j hj
    unfold Search.better
    split
    · exact hgrown j hj
    · exact hbest

theorem isCommon_seekRun (left right : List String) (r : Region) :
    (seekRun (sitesOf left right) r).IsCommon left right := by
  have hstart : FindsCommon left right r.leftStart ⟨[], ⟨r.leftStart, r.rightStart, 0⟩⟩ :=
    ⟨fun j => by simp [reach_start], fun _ => Run.isCommon_empty _ _, Run.isCommon_empty _ _⟩
  obtain ⟨s, hs, hseek⟩ :=
    @seekRun_induction (FindsCommon left right) (sitesOf left right) r hstart
      fun i s _ hs => hs.next fun j hj => mem_getD_sitesOf (List.mem_filter.1 hj).1
  rw [hseek]
  exact hs.best

/-- A common run is extended to the front over lines that agree. -/
theorem isCommon_extendFront {room : Nat} {run : Run} (h : run.IsCommon left right)
    (hleft : room ≤ run.left) (hright : room ≤ run.right) :
    (extendFront left.toArray right.toArray room run).IsCommon left right := by
  induction room generalizing run with
  | zero => exact h
  | succ room ih =>
      rw [extendFront]
      by_cases hagree : agree left.toArray right.toArray (run.left - 1) (run.right - 1) = true
      · rw [if_pos hagree]
        obtain ⟨line, hl, hr⟩ := agree_iff.1 hagree
        refine ih ?_ (Nat.le_sub_one_of_lt hleft) (Nat.le_sub_one_of_lt hright)
        refine Run.IsCommon.cons ?_ hl hr
        rwa [Nat.sub_add_cancel (Nat.lt_of_lt_of_le (Nat.succ_pos _) hleft),
          Nat.sub_add_cancel (Nat.lt_of_lt_of_le (Nat.succ_pos _) hright)]
      · rw [if_neg hagree]
        exact h

/-- A common run is extended to the back over lines that agree. -/
theorem isCommon_extendBack {room : Nat} {run : Run} (h : run.IsCommon left right) :
    (extendBack left.toArray right.toArray room run).IsCommon left right := by
  induction room generalizing run with
  | zero => exact h
  | succ room ih =>
      rw [extendBack]
      by_cases hagree :
          agree left.toArray right.toArray (run.left + run.size) (run.right + run.size) = true
      · rw [if_pos hagree]
        obtain ⟨line, hl, hr⟩ := agree_iff.1 hagree
        exact ih (h.concat hl hr)
      · rw [if_neg hagree]
        exact h

theorem isCommon_longestRun (left right : List String) (r : Region) :
    (longestRun left.toArray right.toArray (sitesOf left right) r).IsCommon left right := by
  refine isCommon_extendBack (isCommon_extendFront (isCommon_seekRun left right r) ?_ ?_)
  · exact Nat.le_trans (Nat.min_le_left _ _) (Nat.sub_le _ _)
  · exact Nat.le_trans (Nat.min_le_right _ _) (Nat.sub_le _ _)

theorem isCommon_of_mem_runsIn {lines : Nat} {r : Region} {run : Run}
    (h : run ∈ runsIn left.toArray right.toArray (sitesOf left right) lines r) :
    run.IsCommon left right := by
  induction lines generalizing r with
  | zero => exact absurd h List.not_mem_nil
  | succ lines ih =>
      have hpart {condition : Prop} [Decidable condition] {r' : Region}
          (hmem : run ∈ if condition then
            runsIn left.toArray right.toArray (sitesOf left right) lines r' else []) :
          run.IsCommon left right := by
        split at hmem
        · exact ih hmem
        · exact absurd hmem List.not_mem_nil
      rw [runsIn] at h
      dsimp only at h
      split at h
      · exact absurd h List.not_mem_nil
      · rcases List.mem_append.1 h with hbefore | hrest
        · exact hpart hbefore
        · rcases List.mem_cons.1 hrest with rfl | hbehind
          · exact isCommon_longestRun left right r
          · exact hpart hbehind

theorem isCommon_of_mem_joinRuns {current run : Run} {runs : List Run}
    (hcurrent : current.IsCommon left right) (hruns : ∀ run ∈ runs, run.IsCommon left right)
    (h : run ∈ joinRuns current runs) : run.IsCommon left right := by
  induction runs generalizing current with
  | nil =>
      rw [joinRuns] at h
      split at h
      · exact absurd h List.not_mem_nil
      · rwa [List.mem_singleton.1 h]
  | cons next rest ih =>
      obtain ⟨hnext, hrest⟩ := List.forall_mem_cons.1 hruns
      rw [joinRuns] at h
      by_cases hadjacent : current.left + current.size = next.left
          ∧ current.right + current.size = next.right
      · rw [if_pos hadjacent] at h
        obtain ⟨i, j, size⟩ := next
        obtain ⟨rfl, rfl⟩ : _ = i ∧ _ = j := hadjacent
        exact ih (hcurrent.append hnext) hrest h
      · rw [if_neg hadjacent] at h
        split at h
        · exact ih hnext hrest h
        · rcases List.mem_cons.1 h with rfl | hlater
          · exact hcurrent
          · exact ih hnext hrest hlater

/-- **The runs of a matching are common to both lists.** -/
theorem isCommon_of_mem_commonRuns {run : Run} (h : run ∈ commonRuns left right) :
    run.IsCommon left right :=
  isCommon_of_mem_joinRuns (Run.isCommon_empty 0 0) (fun _ hrun => isCommon_of_mem_runsIn hrun) h

/-! ### A list matched with itself -/

/-- The length of the run on the diagonal that ends before a place: how many lines there are in front
of it, one behind the other, that a run is sought for. -/
def streak (sites : Nat → List Nat) : Nat → Nat
  | 0 => 0
  | i + 1 => if sites i = [] then 0 else streak sites i + 1

theorem streak_le (sites : Nat → List Nat) (i : Nat) : streak sites i ≤ i := by
  induction i with
  | zero => exact Nat.le_refl 0
  | succ i ih =>
      rw [streak]
      split <;> omega

section Self

variable {ls : List String}

/-- The places for the line at a place of a list, in the list itself. -/
def selfSites (ls : List String) (i : Nat) : List Nat := (sitesOf ls ls).getD i []

/-- The same line has the same places. -/
theorem selfSites_eq_of_mem {i j : Nat} (h : j ∈ selfSites ls i) :
    selfSites ls j = selfSites ls i ∧ j < ls.length := by
  obtain ⟨line, hi, hj⟩ := mem_getD_sitesOf h
  refine ⟨?_, (List.getElem?_eq_some_iff.1 hj).1⟩
  rw [selfSites, selfSites, getD_sitesOf, getD_sitesOf, hi, hj]

/-- A line that is sought at all stands among its own places, in order. -/
theorem exists_selfSites_eq {i : Nat} (h : selfSites ls i ≠ []) :
    ∃ before after, selfSites ls i = before ++ i :: after ∧ (∀ j ∈ before, j < i)
      ∧ ∀ j ∈ after, i < j := by
  rw [selfSites, getD_sitesOf] at h ⊢
  cases hline : ls[i]? with
  | none =>
      rw [hline] at h
      exact absurd rfl h
  | some line =>
      rw [hline] at h
      rcases places_cases ls line with hnone | hall
      · exact absurd hnone h
      · have hmem : i ∈ placesFrom line 0 ls := mem_placesFrom.2 ⟨Nat.zero_le i, hline⟩
        obtain ⟨before, after, hsplit⟩ := List.append_of_mem hmem
        have hordered := pairwise_placesFrom line 0 ls
        rw [hsplit] at hordered
        obtain ⟨_, hafter, hbefore⟩ := List.pairwise_append.1 hordered
        refine ⟨before, after, ?_, ?_, (List.pairwise_cons.1 hafter).1⟩
        · rw [Option.map_some, Option.getD_some, hall, hsplit]
        · exact fun j hj => hbefore j hj i (List.mem_cons_self ..)

/-- **What the search in a list for itself keeps:** the best run is on the diagonal, and no run is longer
than the one on the diagonal at either of its ends. -/
structure KeepsDiagonal (ls : List String) (i : Nat) (s : Search) : Prop where
  reach_le : ∀ j, s.reach j ≤ streak (selfSites ls) i ∧ s.reach j ≤ streak (selfSites ls) j
  reach_self : s.reach i = streak (selfSites ls) i
  diagonal : s.best.left = s.best.right
  end_le : s.best.left + s.best.size ≤ i
  longest : ∀ j ≤ i, streak (selfSites ls) j ≤ s.best.size

/-- A row for a line that is not sought ends all runs. -/
theorem KeepsDiagonal.next_of_nil {i : Nat} {s : Search} (h : KeepsDiagonal ls i s)
    (hnone : selfSites ls i = []) : KeepsDiagonal ls (i + 1) (s.next i (selfSites ls i)) := by
  have hstreak : streak (selfSites ls) (i + 1) = 0 := by rw [streak, if_pos hnone]
  have hreach (j : Nat) : (s.next i (selfSites ls i)).reach j = 0 := by
    cases j with
    | zero => exact reach_next_zero ..
    | succ j => rw [reach_next, hnone, if_neg List.not_mem_nil]
  have hbest : (s.next i (selfSites ls i)).best = s.best := by
    rw [best_next, hnone, List.foldl_nil]
  refine ⟨fun j => ?_, ?_, ?_, ?_, fun j hj => ?_⟩
  · simp only [hreach, Nat.zero_le, and_self]
  · rw [hreach, hstreak]
  · rw [hbest]
    exact h.diagonal
  · rw [hbest]
    exact Nat.le_succ_of_le h.end_le
  · rw [hbest]
    by_cases hlast : j = i + 1
    · rw [hlast, hstreak]
      exact Nat.zero_le _
    · exact h.longest j (by omega)

/-- The run on the diagonal goes on with all copies of a line that is sought. -/
theorem streak_succ_of_mem {i j : Nat} (h : j ∈ selfSites ls i) :
    streak (selfSites ls) (j + 1) = streak (selfSites ls) j + 1 := by
  rw [streak, (selfSites_eq_of_mem h).1, if_neg (List.ne_nil_of_mem h)]

/-- **The copies of a line give no better run than the line itself.** -/
theorem KeepsDiagonal.best_eq_better {i : Nat} {s : Search} (h : KeepsDiagonal ls i s)
    (hsome : selfSites ls i ≠ []) : (s.next i (selfSites ls i)).best = s.better i s.best i := by
  obtain ⟨before, after, hsplit, hbefore, _⟩ := exists_selfSites_eq hsome
  -- earlier copies of the line end no longer runs than have been found
  have hfirst : before.foldl (s.better i) s.best = s.best := by
    refine foldl_better_of_le fun j hj => ?_
    have hplace : j ∈ selfSites ls i := by
      rw [hsplit]
      exact List.mem_append_left _ hj
    have hlongest := h.longest (j + 1) (hbefore j hj)
    rw [streak_succ_of_mem hplace] at hlongest
    exact Nat.le_trans (Nat.succ_le_succ (h.reach_le j).2) hlongest
  -- the run on the diagonal is at least as long as those that end with later copies
  have hgrown : streak (selfSites ls) i + 1 ≤ (s.better i s.best i).size := by
    rw [size_better, h.reach_self]
    exact Nat.le_max_right _ _
  rw [best_next, hsplit, List.foldl_append, List.foldl_cons, hfirst]
  refine foldl_better_of_le fun j _ => ?_
  exact Nat.le_trans (Nat.succ_le_succ (h.reach_le j).1) hgrown

/-- **A row keeps to the diagonal.** -/
theorem KeepsDiagonal.next {i : Nat} {s : Search} (h : KeepsDiagonal ls i s) :
    KeepsDiagonal ls (i + 1) (s.next i (selfSites ls i)) := by
  by_cases hnone : selfSites ls i = []
  · exact h.next_of_nil hnone
  · have hbest := h.best_eq_better hnone
    have hmem : i ∈ selfSites ls i := by
      obtain ⟨before, after, hsplit, _⟩ := exists_selfSites_eq hnone
      rw [hsplit]
      simp
    have hi := streak_succ_of_mem hmem
    have hend := h.end_le
    have hle := streak_le (selfSites ls) i
    refine ⟨fun j => ?_, ?_, ?_, ?_, fun j hj => ?_⟩
    · cases j with
      | zero => simp only [reach_next_zero, Nat.zero_le, and_self]
      | succ j =>
          rw [reach_next]
          by_cases hj : j ∈ selfSites ls i
          · obtain ⟨hleft, hright⟩ := h.reach_le j
            rw [if_pos hj, hi, streak_succ_of_mem hj]
            exact ⟨Nat.succ_le_succ hleft, Nat.succ_le_succ hright⟩
          · rw [if_neg hj]
            exact ⟨Nat.zero_le _, Nat.zero_le _⟩
    · rw [reach_next, if_pos hmem, h.reach_self, hi]
    · rw [hbest, Search.better]
      split
      · rfl
      · exact h.diagonal
    · rw [hbest, Search.better, h.reach_self]
      split
      · show i - streak (selfSites ls) i + (streak (selfSites ls) i + 1) ≤ i + 1
        omega
      · omega
    · rw [hbest, size_better, h.reach_self]
      by_cases hlast : j = i + 1
      · rw [hlast, hi]
        exact Nat.le_max_right _ _
      · exact Nat.le_trans (h.longest j (by omega)) (Nat.le_max_left _ _)

/-- **The longest run of a list in itself keeps to the diagonal** before it is extended. -/
theorem keepsDiagonal_seekRun (ls : List String) :
    let run := seekRun (sitesOf ls ls) ⟨0, ls.length, 0, ls.length⟩
    run.left = run.right ∧ run.left + run.size ≤ ls.length := by
  have hfilter (i : Nat) : (((sitesOf ls ls).getD i []).filter fun j => 0 ≤ j ∧ j < ls.length)
      = selfSites ls i := by
    refine List.filter_eq_self.2 fun j hj => ?_
    rw [decide_eq_true_eq]
    exact ⟨Nat.zero_le j, (selfSites_eq_of_mem hj).2⟩
  have hstart : KeepsDiagonal ls 0 ⟨[], ⟨0, 0, 0⟩⟩ :=
    { reach_le := fun j => by simp [reach_start]
      reach_self := rfl
      diagonal := rfl
      end_le := Nat.le_refl 0
      longest := fun j hj => by rw [Nat.le_zero.1 hj]; exact Nat.le_refl 0 }
  have hnext (i : Nat) (s : Search) (hs : KeepsDiagonal ls i s) :
      KeepsDiagonal ls (i + 1)
        (s.next i (((sitesOf ls ls).getD i []).filter fun j => 0 ≤ j ∧ j < ls.length)) := by
    rw [hfilter]
    exact hs.next
  obtain ⟨s, hs, hseek⟩ :=
    @seekRun_induction (KeepsDiagonal ls) (sitesOf ls ls) ⟨0, ls.length, 0, ls.length⟩ hstart
      fun i s _ hs => hnext i s hs
  have hend := hs.end_le
  rw [Nat.zero_add, Nat.sub_zero] at hend
  rw [hseek]
  exact ⟨hs.diagonal, hend⟩

theorem agree_self {i : Nat} (h : i < ls.length) : agree ls.toArray ls.toArray i i = true :=
  agree_iff.2 ⟨ls[i], List.getElem?_eq_getElem h, List.getElem?_eq_getElem h⟩

/-- On the diagonal a run is extended to the front as far as there is room. -/
theorem extendFront_self {room i size : Nat} (hroom : room ≤ i) (hi : i ≤ ls.length) :
    extendFront ls.toArray ls.toArray room ⟨i, i, size⟩ = ⟨i - room, i - room, size + room⟩ := by
  induction room generalizing i size with
  | zero => rfl
  | succ room ih =>
      obtain ⟨j, rfl⟩ := Nat.exists_eq_add_one_of_ne_zero (Nat.ne_of_gt
        (Nat.lt_of_lt_of_le (Nat.succ_pos room) hroom))
      have hagree : agree ls.toArray ls.toArray (j + 1 - 1) (j + 1 - 1) = true := agree_self hi
      have hrest : extendFront ls.toArray ls.toArray room ⟨j, j, size + 1⟩
          = ⟨j - room, j - room, size + 1 + room⟩ :=
        ih (Nat.le_of_succ_le_succ hroom) (Nat.le_of_succ_le hi)
      rw [Nat.add_assoc, Nat.add_comm 1] at hrest
      rw [extendFront, if_pos hagree, Nat.add_sub_add_right j 1 room]
      exact hrest

/-- On the diagonal a run is extended to the back as far as there is room. -/
theorem extendBack_self {room i size : Nat} (h : i + size + room ≤ ls.length) :
    extendBack ls.toArray ls.toArray room ⟨i, i, size⟩ = ⟨i, i, size + room⟩ := by
  induction room generalizing size with
  | zero => rfl
  | succ room ih =>
      have hagree : agree ls.toArray ls.toArray (i + size) (i + size) = true :=
        agree_self (by omega)
      rw [extendBack, if_pos hagree]
      have hrest : extendBack ls.toArray ls.toArray room ⟨i, i, size + 1⟩
          = ⟨i, i, size + 1 + room⟩ := ih (by omega)
      rwa [Nat.add_assoc, Nat.add_comm 1] at hrest

/-- **The longest run of a list in itself is the whole list.** -/
theorem longestRun_self (ls : List String) :
    longestRun ls.toArray ls.toArray (sitesOf ls ls) ⟨0, ls.length, 0, ls.length⟩
      = ⟨0, 0, ls.length⟩ := by
  obtain ⟨hdiagonal, hend⟩ := keepsDiagonal_seekRun ls
  unfold longestRun
  generalize seekRun (sitesOf ls ls) ⟨0, ls.length, 0, ls.length⟩ = run at hdiagonal hend ⊢
  obtain ⟨i, j, size⟩ := run
  obtain rfl : i = j := hdiagonal
  dsimp only at hend ⊢
  rw [Nat.min_self, Nat.sub_zero,
    extendFront_self (Nat.le_refl i) (Nat.le_trans (Nat.le_add_right i size) hend), Nat.sub_self]
  dsimp only
  rw [Nat.min_self, Nat.zero_add, extendBack_self (by omega)]
  congr 1
  omega

/-- **A list is matched with itself as a whole.** -/
theorem commonRuns_self (ls : List String) :
    commonRuns ls ls = if ls = [] then [] else [⟨0, 0, ls.length⟩] := by
  by_cases hls : ls = []
  · subst hls
    rfl
  · have hlength : ls.length ≠ 0 := fun h => hls (List.length_eq_zero_iff.1 h)
    obtain ⟨n, hn⟩ := Nat.exists_eq_add_one_of_ne_zero hlength
    have hruns : runsIn ls.toArray ls.toArray (sitesOf ls ls) ls.length
        ⟨0, ls.length, 0, ls.length⟩ = [⟨0, 0, ls.length⟩] := by
      conv => lhs; arg 4; rw [hn]
      rw [runsIn, longestRun_self]
      simp [hlength]
    show joinRuns ⟨0, 0, 0⟩ (runsIn _ _ (sitesOf ls ls) _ _) = _
    rw [hruns, if_neg hls]
    simp [joinRuns, hlength]

end Self

end Diff

end RobotShorthand
