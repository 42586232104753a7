/-
**Reading what ultra-dense code expands to.**

Expansion puts texts next to each other that were made separately, so each of them must be read as
it was meant whatever stands behind it.  Nearly all of them are.  The exception is an actuator
shorthand whose address is no digit and whose power is neither a letter nor a digit: its power is
expanded to a minus sign, a one and a zero, the minus sign ends the literal in front of it, and the
three characters are left over as unknown symbols.

Main definitions:

* `Reports` — a text that is read by itself, and the problems it is read with;
* `leftover` — the problems that an actuator shorthand leaves.

Main results:

* `Reports.append`, `Reports.loop` — texts next to each other, and a text inside a loop;
* `reports_actuatorText` — what an actuator shorthand expands to leaves its leftover;
* `reports_expand` — **an expansion leaves the leftovers of its actuators and no other problem;**
* `report_expand` — **an expansion has no errors,** and it has warnings only from actuators as
  above.
-/

import RobotShorthand.Proofs.Ultra.Addresses

set_option relaxedAutoImplicit false
set_option autoImplicit false

namespace RobotShorthand

namespace Ultra

open RobotShorthand.Dense

/-! ### Texts that are read by themselves -/

/-- A text that is read by itself, with these problems, in front of every text that ends literals.
-/
def Reports (levels : Nat) (text : List Char) (problems : List Problem) : Prop :=
  ∀ rest, EndsLiteral rest → ∀ position, ∃ r : Reading, ∃ position',
    read (some levels) position (text ++ rest) = r ++ read (some levels) position' rest
      ∧ r.diagnostics.map (·.problem) = problems

variable {levels : Nat} {text : List Char}

theorem Reports.nil : Reports levels [] [] :=
  fun _ _ position => ⟨.empty, position, rfl, rfl⟩

/-- Two texts next to each other, of which the second ends literals. -/
theorem Reports.append {text' : List Char} {ps ps' : List Problem} (h : Reports levels text ps)
    (h' : Reports levels text' ps') (hend : EndsLiteral text') :
    Reports levels (text ++ text') (ps ++ ps') := by
  intro rest hrest position
  obtain ⟨r, position', hr, hps⟩ := h (text' ++ rest) (hend.append hrest) position
  obtain ⟨r', position'', hr', hps'⟩ := h' rest hrest position'
  refine ⟨r ++ r', position'', ?_, ?_⟩
  · rw [List.append_assoc, hr, hr', Reading.append_assoc]
  · rw [Reading.diagnostics_append, List.map_append, hps, hps']

/-- The problems of the whole text. -/
theorem Reports.problems_eq {ps : List Problem} (h : Reports levels text ps) (position : Int) :
    (read (some levels) position text).diagnostics.map (·.problem) = ps := by
  obtain ⟨r, position', hr, hps⟩ := h [] endsLiteral_nil position
  rw [List.append_nil, read_nil] at hr
  rw [hr, Reading.diagnostics_append, List.map_append, hps]
  exact List.append_nil ps

/-- A text that gives instructions leaves no problems. -/
theorem reports_of_gives {is : List Instruction} (h : Gives levels text is) :
    Reports levels text [] := by
  intro rest hrest position
  obtain ⟨position', hread⟩ := h rest hrest position
  exact ⟨_, position', hread, rfl⟩

/-- A text inside a loop. -/
theorem Reports.loop {n : Int} {ps : List Problem} (h : Reports levels text ps)
    (hn : isInt32 n = true) (hend : EndsLiteral text) (hbalanced : Balanced '[' ']' text) :
    Reports (levels + 1) ('[' :: (Text.decimal n ++ text ++ [']'])) ps := by
  intro rest _ position
  have htext : '[' :: (Text.decimal n ++ text ++ [']']) ++ rest
      = '[' :: (Text.decimal n ++ text ++ ']' :: rest) := by simp
  rw [htext, read_loop_decimal hn hend hbalanced]
  exact ⟨_, _, rfl, h.problems_eq _⟩

/-! ### Actuators -/

/-- The problems that an actuator shorthand leaves, by its address and its power. -/
def leftover (operands : Char × Char) : List Problem :=
  if operands.1.isDigit || operands.2.isAlphanum then []
  else [.unknownSymbol '-', .unknownSymbol '1', .unknownSymbol '0']

/-- A minus sign, a one and a zero are three unknown symbols. -/
theorem reports_minusTen :
    Reports levels ['-', '1', '0']
      [.unknownSymbol '-', .unknownSymbol '1', .unknownSymbol '0'] := by
  intro rest _ position
  exact ⟨_, _, read_minusTen rest position, rfl⟩

/-- **What an actuator shorthand expands to leaves its leftover.** -/
theorem reports_actuatorText (address power : Char) :
    Reports levels (actuatorText address power) (leftover (address, power)) := by
  obtain ⟨text, actuator, value, htext, hgives⟩ := @exists_gives_actuatorText levels address power
  have hfirst : Reports levels text [] := reports_of_gives hgives
  rw [htext, leftover]
  by_cases h : (address.isDigit || power.isAlphanum) = true
  · rw [if_pos h, if_pos h, List.append_nil]
    exact hfirst
  · rw [if_neg h, if_neg h]
    exact hfirst.append reports_minusTen (endsLiteral_cons (by decide))

/-! ### Expansions -/

/-- **An expansion leaves the leftovers of its actuators and no other problem,** at any depth that
leaves room for a loop if there is one. -/
theorem reports_expand (cs : List Char) {levels : Nat} (h : '*' ∈ cs → 0 < levels)
    (position : Int) :
    Reports levels (expand position cs).dense ((actuators cs).flatMap leftover) := by
  -- one shorthand at a time: what follows it is an expansion too, and so ends its literals
  induction cs using shorthand_induction generalizing levels position with
  | nil =>
      rw [expand_nil, actuators_nil]
      exact .nil
  | actuate address power cs ih =>
      have hrest := ih (fun hs => h (by simp [hs])) (position + 3)
      rw [expand_actuate, actuators_actuate]
      exact (reports_actuatorText address power).append hrest (endsLiteral_expand cs _)
  | turn high low cs ih =>
      have hrest := ih (fun hs => h (by simp [hs])) (position + 3)
      rw [expand_turn, actuators_turn]
      exact (reports_of_gives (gives_turnExpansion position high low)).append hrest
        (endsLiteral_expand cs _)
  | sense sensor cs ih =>
      have hrest := ih (fun hs => h (by simp [hs])) (position + 2)
      rw [expand_sense, actuators_sense]
      exact (reports_of_gives (gives_sensor sensor)).append hrest (endsLiteral_expand cs _)
  | loop count body cs hbody ihBody ih =>
      obtain ⟨levels, rfl⟩ := Nat.exists_eq_add_one_of_ne_zero (Nat.ne_of_gt (h (by simp)))
      obtain ⟨hmin, hmax⟩ := digitOf_bounds count
      have hcount : isInt32 (loopCount count) = true :=
        isInt32_of_bounds (by unfold loopCount; omega) (by unfold loopCount; omega)
      -- the body has no loop, so it is read with whatever room is left inside this one
      have hinner : Reports levels (expand (position + 2) body).dense _ :=
        ihBody (fun hs => absurd hs hbody) (position + 2)
      have hrest := ih (fun _ => Nat.succ_pos levels) (position + 2 + body.length + 1)
      have hloop := hinner.loop hcount (endsLiteral_expand body _) (balanced_expand hbody _)
      rw [expand_loop hbody, actuators_loop hbody, List.flatMap_append]
      exact hloop.append hrest (endsLiteral_expand cs _)
  | alone c cs halone ih =>
      have hrest := ih (fun hs => h (List.mem_cons_of_mem _ hs)) (position + 1)
      rw [expand_alone halone, actuators_alone halone]
      exact (reports_of_gives (gives_single position c)).append hrest (endsLiteral_expand cs _)

/-- **The problems of an expansion are the leftovers of its actuators,** in order. -/
theorem problems_expand (cs : List Char) :
    (Dialect.denseDiagnostics (expand 0 cs).dense).map (·.problem)
      = (actuators cs).flatMap leftover := by
  have hroom : '*' ∈ cs → 0 < roomAt 0 := fun _ => by decide
  rw [Dialect.denseDiagnostics, strip_expand]
  exact (reports_expand cs hroom 0).problems_eq _

theorem leftover_ne_nil_iff {operands : Char × Char} :
    leftover operands ≠ [] ↔ operands.1.isDigit = false ∧ operands.2.isAlphanum = false := by
  cases hd : operands.1.isDigit <;> cases hp : operands.2.isAlphanum <;> simp [leftover, hd, hp]

theorem isUnknownSymbol_of_mem_leftover {operands : Char × Char} {p : Problem}
    (h : p ∈ leftover operands) : ∃ c, p = .unknownSymbol c := by
  unfold leftover at h
  split at h
  · exact absurd h List.not_mem_nil
  · simp only [List.mem_cons, List.not_mem_nil, or_false] at h
    rcases h with h | h | h
    · exact ⟨_, h⟩
    · exact ⟨_, h⟩
    · exact ⟨_, h⟩

/-- Everything that is reported for an expansion is an unknown symbol. -/
theorem isUnknownSymbol_of_mem {cs : List Char} {d : Diagnostic}
    (h : d ∈ Dialect.denseDiagnostics (expand 0 cs).dense) :
    ∃ c, d.problem = .unknownSymbol c := by
  have hmem : d.problem ∈ (Dialect.denseDiagnostics (expand 0 cs).dense).map (·.problem) :=
    List.mem_map_of_mem h
  rw [problems_expand, List.mem_flatMap] at hmem
  obtain ⟨operands, _, hp⟩ := hmem
  exact isUnknownSymbol_of_mem_leftover hp

/-- Something is reported for an expansion when one of its actuators has a leftover. -/
theorem denseDiagnostics_expand_ne_nil_iff (cs : List Char) :
    Dialect.denseDiagnostics (expand 0 cs).dense ≠ []
      ↔ ∃ operands ∈ actuators cs,
          operands.1.isDigit = false ∧ operands.2.isAlphanum = false := by
  rw [ne_eq, ← @List.map_eq_nil_iff _ _ fun d : Diagnostic => d.problem, problems_expand]
  simp only [List.flatMap_eq_nil_iff, Classical.not_forall, exists_prop]
  constructor
  · rintro ⟨operands, hmem, hne⟩
    exact ⟨operands, hmem, leftover_ne_nil_iff.1 hne⟩
  · rintro ⟨operands, hmem, hoperands⟩
    exact ⟨operands, hmem, leftover_ne_nil_iff.2 hoperands⟩

/-- **An expansion has no errors,** only warnings of unknown symbols, and these exactly when it has
an actuator whose address is no digit and whose power is neither a letter nor a digit.  So all
errors of ultra-dense code are those of expanding it. -/
theorem report_expand (code : String) :
    let report := Dialect.dense.report (String.ofList (Dialect.ultra.denseCode code))
    report.errors = []
      ∧ (∀ d ∈ report.diagnostics,
          d.problem.kind = "UnknownSymbol" ∧ d.problem.severity = .warning)
      ∧ (report.diagnostics ≠ [] ↔ ∃ operands ∈ actuators code.toList,
          operands.1.isDigit = false ∧ operands.2.isAlphanum = false)
      ∧ (Dialect.ultra.report code).errors
          = (expand 0 code.toList).diagnostics.filter (·.isError) := by
  intro report
  have hreport : report.diagnostics = Dialect.denseDiagnostics (expand 0 code.toList).dense := by
    show Dialect.denseDiagnostics (String.ofList (expand 0 code.toList).dense).toList = _
    rw [String.toList_ofList]
  have hwarning : ∀ d ∈ Dialect.denseDiagnostics (expand 0 code.toList).dense,
      d.problem.kind = "UnknownSymbol" ∧ d.problem.severity = .warning := by
    intro d hd
    obtain ⟨c, hc⟩ := isUnknownSymbol_of_mem hd
    rw [hc]
    exact ⟨rfl, rfl⟩
  have hnone : (Dialect.denseDiagnostics (expand 0 code.toList).dense).filter (·.isError) = [] := by
    rw [List.filter_eq_nil_iff]
    intro d hd
    simp [Diagnostic.isError, (hwarning d hd).2]
  refine ⟨?_, ?_, ?_, ?_⟩
  · rw [Report.errors, hreport, hnone]
  · rw [hreport]
    exact hwarning
  · rw [hreport]
    exact denseDiagnostics_expand_ne_nil_iff code.toList
  · show ((expand 0 code.toList).diagnostics
      ++ Dialect.denseDiagnostics (expand 0 code.toList).dense).filter (·.isError) = _
    rw [List.filter_append, hnone, List.append_nil]

end Ultra

end RobotShorthand
