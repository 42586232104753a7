/-
**Where expansion reports problems.**

The expansion of ultra-dense code counts its positions in the ultra-dense source, also inside the body
of a loop shorthand.  What it reports points at the character that a problem is about, or behind the
`$` whose degrees it quotes, and no two problems are at one place.

Main results:

* `located_turnExpansion`, `located_single` — what a turn and a character by itself report;
* `located_expand` — **what expansion reports points into the source, at increasing positions;**
* `located_diagnostics` — the same for whole sources, with the report of dense code beside it.
-/

import RobotShorthand.Proofs.Dense.Positions
import RobotShorthand.Proofs.Ultra.Shorthands

set_option relaxedAutoImplicit false
set_option autoImplicit false

namespace RobotShorthand

namespace Ultra

section Expanding

variable {source cs : List Char} {position : Int} {c : Char}

/-- Degrees that cannot be read are reported behind their `$`. -/
theorem located_turnExpansion {high low : Char} (h : StandsAt source position ['$', high, low]) :
    Located .ultra source position (position + 2) (turnExpansion position high low).diagnostics := by
  unfold turnExpansion
  cases degreesOf? high low with
  | some degrees => exact .nil
  | none =>
      have hpoints : Diagnostic.PointsInto .ultra source
          ⟨position + 1, .malformedDegrees [high, low]⟩ := by
        show StandsAt source (position + 1 - 1) ['$', high, low]
        rwa [Int.add_sub_cancel]
      exact .single hpoints (by show position ≤ position + 1; omega)
        (by show position + 1 ≤ position + 2; omega)

/-- A character by itself is reported where it stands. -/
theorem located_single (h : StandsAt source position [c]) :
    Located .ultra source position position (single position c).diagnostics := by
  unfold single
  split
  case h_9 =>
    split
    · exact .nil
    · exact .single h (Int.le_refl _) (Int.le_refl _)
  all_goals first
    | exact .nil
    | exact .single h (Int.le_refl _) (Int.le_refl _)

/-- **What expansion reports points into the source, at increasing positions.** -/
theorem located_expand (h : StandsAt source position cs) :
    Located .ultra source position (position + cs.length) (expand position cs).diagnostics := by
  -- one shorthand at a time; the body of a loop ends in front of the star that closes it
  induction cs using shorthand_induction generalizing position with
  | nil =>
      rw [expand_nil]
      exact .nil
  | actuate address power cs ih =>
      have hrest : StandsAt source (position + 3) cs :=
        @StandsAt.right source ['&', address, power] cs position h
      rw [expand_actuate]
      exact (ih hrest).mono (by omega) (by simp only [List.length_cons]; omega)
  | turn high low cs ih =>
      have hturn := @StandsAt.left source ['$', high, low] cs position h
      have hrest : StandsAt source (position + 3) cs :=
        @StandsAt.right source ['$', high, low] cs position h
      have hlocated := (located_turnExpansion hturn).append (ih hrest) (by omega) (by omega)
        (by omega)
      rw [expand_turn]
      exact hlocated.mono (Int.le_refl _) (by simp only [List.length_cons]; omega)
  | sense sensor cs ih =>
      have hrest : StandsAt source (position + 2) cs :=
        @StandsAt.right source ['~', sensor] cs position h
      rw [expand_sense]
      exact (ih hrest).mono (by omega) (by simp only [List.length_cons]; omega)
  | loop count body cs hbody ihBody ih =>
      have htext : StandsAt source (position + 2) (body ++ '*' :: cs) :=
        @StandsAt.right source ['*', count] (body ++ '*' :: cs) position h
      have hlocated := (ihBody htext.left).append (ih htext.right.tail) (by omega) (by omega)
        (by omega)
      rw [expand_loop hbody]
      exact hlocated.mono (by omega) (by simp only [List.length_cons, List.length_append]; omega)
  | alone c cs halone ih =>
      have hlocated := (located_single h.head).append (ih h.tail) (by omega) (by omega) (by omega)
      rw [expand_alone halone]
      exact hlocated.mono (Int.le_refl _) (by rw [List.length_cons]; omega)

end Expanding

end Ultra

/-- **Diagnostics point into the text that was written, in order.**  Those of dense code point into
the code with its blanks, and at one place there are only different kinds of them; those of expanding
ultra-dense code are all at different places. -/
theorem located_diagnostics (code : String) :
    Located .dense code.toList 0 code.toList.length (Dialect.dense.report code).diagnostics
      ∧ Located .ultra code.toList 0 code.toList.length
          (Ultra.expand 0 code.toList).diagnostics := by
  refine ⟨Dense.located_denseDiagnostics code.toList, ?_⟩
  have hexpand := Ultra.located_expand (.refl code.toList)
  rwa [Int.zero_add] at hexpand

end RobotShorthand
