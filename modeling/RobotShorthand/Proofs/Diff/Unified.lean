/-
**Differences of equal lists.**

The text of a difference has no lines exactly if the two lists are equal.  A list is matched with itself
as a whole, so that nothing changes.  And when nothing is shown, then at most one stretch is left, and it
is kept; it covers both lists, and its lines are common to both.

Main results:

* `actions_of_grouped_eq_nil` — when there are no groups, there is at most one stretch, and it is kept;
* `eq_of_actions_changes` — lists of which one stretch is kept, or none is there, are equal;
* `unified_eq_nil_iff` — **a difference has no lines exactly if the lists are equal;**
* `Program.diff_eq_nil_iff` — the difference of two programs has no lines exactly if their listings
  have the same lines.
-/

import RobotShorthand.Diff.Unified
import RobotShorthand.Proofs.Diff.Matching

set_option relaxedAutoImplicit false
set_option autoImplicit false

namespace RobotShorthand

namespace Diff

variable {left right : List String}

/-! ### Groups -/

/-- **When there are no groups, there is at most one stretch, and it is kept.** -/
theorem actions_of_grouped_eq_nil {group cs : List Change} (h : grouped group cs = []) :
    (group ++ cs).map (·.action) = [] ∨ (group ++ cs).map (·.action) = [.keep] := by
  induction cs generalizing group with
  | nil =>
      rw [List.append_nil]
      match group, h with
      | [], _ => exact .inl rfl
      | [c], h =>
          rw [grouped] at h
          by_cases hkeep : c.action = .keep
          · exact .inr (by rw [List.map_singleton, hkeep])
          · rw [if_neg hkeep] at h
            exact absurd h (List.cons_ne_nil _ _)
      | c :: c' :: cs, h =>
          rw [grouped] at h
          · exact absurd h (List.cons_ne_nil _ _)
          · simp
          · simp
  | cons c cs ih =>
      rw [grouped] at h
      by_cases hlong : c.action = .keep ∧ 2 * contextLines < c.leftEnd - c.leftStart
      · rw [if_pos hlong] at h
        exact absurd h (List.cons_ne_nil _ _)
      · rw [if_neg hlong] at h
        have hrest := ih h
        rwa [List.append_assoc, List.singleton_append] at hrest

theorem actions_trimFirst (cs : List Change) :
    (trimFirst cs).map (·.action) = cs.map (·.action) := by
  cases cs with
  | nil => rfl
  | cons c cs =>
      rw [trimFirst, List.map_cons, List.map_cons]
      split <;> rfl

theorem actions_trimLast (cs : List Change) :
    (trimLast cs).map (·.action) = cs.map (·.action) := by
  induction cs with
  | nil => rfl
  | cons c cs ih =>
      cases cs with
      | nil =>
          rw [trimLast, List.map_singleton, List.map_singleton]
          split <;> rfl
      | cons c' cs =>
          show (c :: trimLast (c' :: cs)).map (·.action) = _
          rw [List.map_cons, ih, ← List.map_cons]

/-- One stretch that is kept makes no group. -/
theorem grouped_trimmed_keep (r : Region) :
    grouped [] (trimLast (trimFirst [⟨r, .keep⟩])) = [] := by
  have hshort : ¬ 2 * contextLines
      < min r.leftEnd (max r.leftStart (r.leftEnd - contextLines) + contextLines)
        - max r.leftStart (r.leftEnd - contextLines) := by
    unfold contextLines
    omega
  show grouped [] [Change.asTrail (Change.asLead ⟨r, .keep⟩)] = []
  rw [grouped, if_neg fun h => hshort h.2]
  rfl

/-! ### Changes -/

theorem gap_eq_nil_iff {r : Region} :
    gap r = [] ↔ r.leftEnd ≤ r.leftStart ∧ r.rightEnd ≤ r.rightStart := by
  rw [← Nat.not_lt, ← Nat.not_lt, gap]
  by_cases hleft : r.leftStart < r.leftEnd <;> by_cases hright : r.rightStart < r.rightEnd
  all_goals simp [hleft, hright]

/-- What stands between two common runs is not kept. -/
theorem keep_not_mem_gap (r : Region) : Action.keep ∉ (gap r).map (·.action) := by
  unfold gap
  split <;> simp

/-- **Lists of which one stretch is kept, or none is there, are equal.** -/
theorem eq_of_actions_changes
    (h : (changes left right).map (·.action) = [] ∨ (changes left right).map (·.action) = [.keep]) :
    left = right := by
  have hcommon : ∀ run ∈ commonRuns left right, run.IsCommon left right :=
    fun _ hrun => isCommon_of_mem_commonRuns hrun
  unfold changes at h
  cases hruns : commonRuns left right with
  | nil =>
      rw [hruns, changesFrom] at h
      have hgap : gap ⟨0, left.length, 0, right.length⟩ = [] := by
        rcases h with h | h
        · exact List.map_eq_nil_iff.1 h
        · have hkeep := keep_not_mem_gap ⟨0, left.length, 0, right.length⟩
          rw [h] at hkeep
          exact absurd (List.mem_singleton.2 rfl) hkeep
      obtain ⟨hleft, hright⟩ := gap_eq_nil_iff.1 hgap
      rw [List.length_eq_zero_iff.1 (Nat.le_zero.1 hleft),
        List.length_eq_zero_iff.1 (Nat.le_zero.1 hright)]
  | cons run rest =>
      rw [hruns, changesFrom, List.map_append, List.map_cons] at h
      obtain ⟨hbefore, hbehind⟩ : (gap ⟨0, run.left, 0, run.right⟩).map (·.action) = []
          ∧ (changesFrom (run.left + run.size) (run.right + run.size) left.length right.length
              rest).map (·.action) = [] := by
        rcases h with h | h
        · exact absurd h (by simp)
        · have hlength := congrArg List.length h
          rw [List.length_append, List.length_cons, List.length_singleton] at hlength
          exact ⟨List.length_eq_zero_iff.1 (by omega), List.length_eq_zero_iff.1 (by omega)⟩
      -- there is nothing in front of the run and nothing behind it, so it is all of both lists
      obtain ⟨hl, hr⟩ := gap_eq_nil_iff.1 (List.map_eq_nil_iff.1 hbefore)
      cases rest with
      | cons run' rest => exact absurd hbehind (by simp [changesFrom])
      | nil =>
          rw [changesFrom] at hbehind
          obtain ⟨hleft, hright⟩ := gap_eq_nil_iff.1 (List.map_eq_nil_iff.1 hbehind)
          dsimp only at hl hr hleft hright
          have hrun := hcommon run (by rw [hruns]; exact List.mem_cons_self ..)
          refine List.ext_getElem? fun k => ?_
          by_cases hk : k < run.size
          · obtain ⟨line, hlineLeft, hlineRight⟩ := hrun k hk
            rw [Nat.le_zero.1 hl, Nat.zero_add] at hlineLeft
            rw [Nat.le_zero.1 hr, Nat.zero_add] at hlineRight
            rw [hlineLeft, hlineRight]
          · rw [List.getElem?_eq_none (by omega), List.getElem?_eq_none (by omega)]

/-- A list changes into itself by being kept as a whole. -/
theorem changes_self (ls : List String) :
    changes ls ls = if ls = [] then [] else [⟨⟨0, ls.length, 0, ls.length⟩, .keep⟩] := by
  have hempty (n : Nat) : gap ⟨n, n, n, n⟩ = [] := gap_eq_nil_iff.2 ⟨Nat.le_refl n, Nat.le_refl n⟩
  rw [changes, commonRuns_self]
  by_cases hls : ls = []
  · rw [if_pos hls, if_pos hls, changesFrom, hls]
    rfl
  · rw [if_neg hls, if_neg hls, changesFrom, changesFrom, Nat.zero_add, hempty, hempty,
      List.nil_append]

/-! ### Texts -/

theorem hunks_eq_nil_iff : hunks left right = [] ↔ left = right := by
  unfold hunks
  constructor
  · intro h
    have hactions := actions_of_grouped_eq_nil h
    rw [List.nil_append, actions_trimLast, actions_trimFirst] at hactions
    exact eq_of_actions_changes hactions
  · rintro rfl
    rw [changes_self]
    by_cases hls : left = []
    · rw [if_pos hls]
      rfl
    · rw [if_neg hls]
      exact grouped_trimmed_keep _

/-- A difference has no lines, or it begins with the names of the two lists. -/
theorem unified_cases (leftName rightName : String) (left right : List String) :
    left = right ∧ unified leftName rightName left right = []
      ∨ left ≠ right ∧ ∃ more, unified leftName rightName left right
          = ("--- " ++ leftName) :: ("+++ " ++ rightName) :: more := by
  unfold unified
  cases hhunks : hunks left right with
  | nil => exact .inl ⟨hunks_eq_nil_iff.1 hhunks, rfl⟩
  | cons h hs =>
      refine .inr ⟨fun heq => ?_, _, rfl⟩
      rw [hunks_eq_nil_iff.2 heq] at hhunks
      exact absurd hhunks.symm (List.cons_ne_nil _ _)

/-- **A difference has no lines exactly if the lists are equal.** -/
theorem unified_eq_nil_iff {leftName rightName : String} :
    unified leftName rightName left right = [] ↔ left = right := by
  rcases unified_cases leftName rightName left right with ⟨heq, hnone⟩ | ⟨hne, more, hsome⟩
  · exact iff_of_true hnone heq
  · rw [hsome]
    exact iff_of_false (List.cons_ne_nil _ _) hne

end Diff

/-- The difference of two programs has no lines exactly if their listings have the same lines. -/
theorem Program.diff_eq_nil_iff {p q : Program} :
    p.diff q = [] ↔ Text.lines p.listing = Text.lines q.listing := Diff.unified_eq_nil_iff

end RobotShorthand
