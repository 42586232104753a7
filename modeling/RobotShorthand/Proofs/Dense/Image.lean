/-
**The trees that reading gives.**

Reading dense code never fails, and whatever the text, the tree that it gives is of a narrow class.
Numbers are signed 32-bit integers, or cut to at least one; brackets nest to a limited depth; and
since a conditional is cut at every colon, nothing that needs a colon is left inside one: neither a
conditional nor a message with a colon.

The class is described twice.  `InImage` follows the tree from the top, with the levels that are
left and whether colons are: that is what reading keeps as it goes into a bracket.  `Fits` speaks of
one instruction of a walk with its depth, so that it says the same of every instruction anywhere in
a program.

Main definitions:

* `Leaf`, `InImage` — the instructions without a body, and **the trees that reading gives;**
* `IsShaped`, `IsColonless` — what holds of an instruction by itself;
* `Fits`, `IsDenseImage` — what holds of an instruction at a depth, and of every instruction
  of a program.

Main results:

* `sublist_inner_enclosedBy`, `suffix_rest_enclosedBy` — brackets enclose part of a text;
* `not_mem_colon_branches`, `ofText?_eq_none` — no colon is left inside a conditional;
* `inImage_read` — **reading gives a tree of the class,** whatever the text;
* `InImage.fits` — every instruction of such a tree fits at its depth;
* `isDenseImage_compile` — **compiling gives a program of the class,** from either dialect.
-/

import RobotShorthand.Program.Walk
import RobotShorthand.Proofs.Dense.Grammar

set_option relaxedAutoImplicit false
set_option autoImplicit false

namespace RobotShorthand

namespace Dense

/-! ### Parts of a text -/

theorem inner_consIf_sublist {inside : Bool} {c : Char} {e : Enclosed} {cs : List Char}
    (h : e.inner.Sublist cs) : (e.consIf inside c).inner.Sublist (c :: cs) := by
  cases inside with
  | false => exact h.cons c
  | true => exact h.cons_cons c

/-- The text that is enclosed at a depth is left over when characters are taken out. -/
theorem sublist_inner_enclose (opener closer : Char) (cs : List Char) (depth : Int) :
    (enclose opener closer depth cs).inner.Sublist cs := by
  induction cs generalizing depth with
  | nil => exact List.Sublist.refl _
  | cons c cs ih =>
      simp only [enclose]
      split
      · exact inner_consIf_sublist (ih (depth + 1))
      · split
        · split
          · exact List.nil_sublist _
          · exact (ih (depth - 1)).cons_cons c
        · exact inner_consIf_sublist (ih depth)

theorem rest_consIf (inside : Bool) (c : Char) (e : Enclosed) : (e.consIf inside c).rest = e.rest :=
  (length_consIf_le inside c e).2

/-- What follows a bracket is the end of the text. -/
theorem suffix_rest_enclose (opener closer : Char) (cs : List Char) (depth : Int) :
    (enclose opener closer depth cs).rest <:+ cs := by
  induction cs generalizing depth with
  | nil => exact List.suffix_refl _
  | cons c cs ih =>
      simp only [enclose]
      split
      · rw [rest_consIf]
        exact (ih (depth + 1)).trans (List.suffix_cons c cs)
      · split
        · split
          · exact List.suffix_cons c cs
          · exact (ih (depth - 1)).trans (List.suffix_cons c cs)
        · rw [rest_consIf]
          exact (ih depth).trans (List.suffix_cons c cs)

theorem sublist_inner_enclosedBy (opener closer : Char) (cs : List Char) :
    (enclosedBy opener closer cs).inner.Sublist cs := sublist_inner_enclose opener closer cs 1

theorem suffix_rest_enclosedBy (opener closer : Char) (cs : List Char) :
    (enclosedBy opener closer cs).rest <:+ cs := suffix_rest_enclose opener closer cs 1

theorem suffix_behindDigit (cs : List Char) : behindDigit cs <:+ cs := by
  cases cs with
  | nil => exact List.suffix_refl _
  | cons c cs =>
      by_cases hc : c.isDigit = true
      · simp [behindDigit, hc]
      · simp [behindDigit, hc]

/-! ### Colons inside a conditional -/

/-- A text that is cut at every colon has none left. -/
theorem not_mem_colon_of_mem_segments {s cs : List Char} (h : s ∈ segments cs) : ':' ∉ s := by
  induction cs generalizing s with
  | nil =>
      simp only [segments, List.mem_singleton] at h
      subst h
      exact List.not_mem_nil
  | cons c cs ih =>
      simp only [segments] at h
      split at h
      · rcases List.mem_cons.1 h with rfl | h
        · exact List.not_mem_nil
        · exact ih h
      · rename_i hc
        cases hs : segments cs with
        | nil =>
            simp only [hs, onFirst, List.mem_singleton] at h
            subst h
            simpa using Ne.symm hc
        | cons t ts =>
            simp only [hs, onFirst, List.mem_cons] at h
            rcases h with rfl | h
            · have ht : ':' ∉ t := ih (hs ▸ List.mem_cons_self ..)
              simpa [ht] using Ne.symm hc
            · exact ih (hs ▸ List.mem_cons_of_mem _ h)

/-- **The branches of a conditional have no colons.** -/
theorem not_mem_colon_branches {inner : List Char} {parts : Conditional}
    (h : Conditional.ofText? inner = some parts) :
    ':' ∉ parts.thenBranch ∧ ':' ∉ parts.elseBranch := by
  have hsegment {s : List Char} (hs : s ∈ withoutEmptyEnd (segments inner)) : ':' ∉ s :=
    not_mem_colon_of_mem_segments (mem_of_mem_withoutEmptyEnd hs)
  obtain ⟨threshold, thenBranch, more, hs, rfl⟩ := ofText?_eq_some_iff.1 h
  rw [← segments_eq_splitOn] at hs
  refine ⟨hsegment (by rw [hs]; simp), ?_⟩
  cases more with
  | nil => exact List.not_mem_nil
  | cons elseBranch more => exact hsegment (by rw [hs]; simp)

/-- Without a colon a text is no conditional. -/
theorem ofText?_eq_none {inner : List Char} (h : ':' ∉ inner) :
    Conditional.ofText? inner = none := by
  cases hparts : Conditional.ofText? inner with
  | none => rfl
  | some parts =>
      obtain ⟨threshold, thenBranch, more, hs, _⟩ := ofText?_eq_some_iff.1 hparts
      rw [List.splitOn_eq_singleton h] at hs
      have hlen : (withoutEmptyEnd [inner]).length ≤ 1 := by
        unfold withoutEmptyEnd
        rw [List.length_reverse]
        exact (List.dropWhile_sublist _).length_le
      rw [hs] at hlen
      simp at hlen

/-! ### The class -/

/-- The instructions without a body that reading gives, where colons may be left or not. -/
inductive Leaf (colons : Bool) : Instruction → Prop
  | move {direction : Direction} {n : Int} :
      isInt32 n = true → Leaf colons (.move direction (atLeastOne n))
  | turn {n : Int} : isInt32 n = true → Leaf colons (.turn (.int n))
  | sense {n : Int} : isInt32 n = true → Leaf colons (senseOf n)
  | actuate {actuator : Nat} {n : Int} :
      actuator ≤ 9 → isInt32 n = true → Leaf colons (actuateOf actuator n)
  | wait {milliseconds : Nat} :
      milliseconds = 100 ∨ milliseconds = 50 → Leaf colons (.wait milliseconds)
  | log {text : List Char} :
      '"' ∉ text → (':' ∈ text → colons = true) → Leaf colons (.log (String.ofList text))
  | halt : Leaf colons .halt

/-- **The trees that reading gives,** with at most `levels` brackets around each other, from a text
in which colons may be left or not. -/
inductive InImage : (levels : Nat) → (colons : Bool) → List Instruction → Prop
  | nil {levels : Nat} {colons : Bool} : InImage levels colons []
  | leaf {levels : Nat} {colons : Bool} {i : Instruction} {is : List Instruction} :
      Leaf colons i → InImage levels colons is → InImage levels colons (i :: is)
  | loop {levels : Nat} {colons : Bool} {n : Int} {body is : List Instruction} :
      isInt32 n = true → InImage levels colons body → InImage (levels + 1) colons is →
      InImage (levels + 1) colons (.loop (atLeastOne n) body :: is)
  | cond {levels : Nat} {threshold : Int} {thenBranch elseBranch is : List Instruction} :
      isInt32 threshold = true → InImage levels false thenBranch →
      InImage levels false elseBranch → InImage (levels + 1) true is →
      InImage (levels + 1) true (.cond (conditionOf threshold) thenBranch elseBranch :: is)

/-- Trees of the class one after another. -/
theorem InImage.append {levels : Nat} {colons : Bool} {is js : List Instruction}
    (h : InImage levels colons is) (h' : InImage levels colons js) :
    InImage levels colons (is ++ js) := by
  induction h with
  | nil => exact h'
  | leaf hleaf _ ih => exact .leaf hleaf (ih h')
  | loop hn hbody _ _ ih => exact .loop hn hbody (ih h')
  | cond ht ha hb _ _ _ ih => exact .cond ht ha hb (ih h')

/-! ### Reading -/

@[simp] theorem instructions_problemIf (condition : Bool) (position : Int) (p : Problem) :
    (Reading.problemIf condition position p).instructions = [] := by
  cases condition <;> rfl

@[simp] theorem instructions_reading (l : Literal) (position : Int) :
    (l.reading position).instructions = [] := instructions_problemIf _ _ _

@[simp] theorem instructions_instruction (i : Instruction) :
    (Reading.instruction i).instructions = [i] := rfl

/-- A wait is long or short. -/
theorem duration_of_ofChar {c : Char} {milliseconds : Nat}
    (h : Symbol.ofChar c = .wait milliseconds) : milliseconds = 100 ∨ milliseconds = 50 := by
  unfold Symbol.ofChar at h
  split at h
  case h_13 => exact .inl (Symbol.wait.inj h).symm
  case h_14 => exact .inr (Symbol.wait.inj h).symm
  case h_20 =>
      split at h
      · exact absurd h (by simp)
      · exact absurd h (by simp)
  all_goals exact absurd h (by simp)

theorem actuatorDigit_le (cs : List Char) : (actuatorDigit cs).1 ≤ 9 := by
  unfold actuatorDigit
  split
  · exact Nat.zero_le 9
  · split
    · rename_i d hd
      exact Nat.le_of_lt_succ (Text.asciiDigit?_lt hd)
    · exact Nat.zero_le 9

theorem isInt32_threshold (text : List Char) :
    isInt32 ((thresholdOf? text).getD defaultThreshold) = true := by
  cases h : thresholdOf? text with
  | none => decide
  | some n =>
      simp only [thresholdOf?] at h
      split at h
      · exact (Option.filter_eq_some_iff.1 h).2
      · exact absurd h (by simp)

section Brackets

variable {levels : Nat} {colons : Bool} {inner : List Char}

/-- A loop bracket is skipped where no level is left, and else holds what its text gives. -/
theorem inImage_readLoop
    (hbody : ∀ levels position, InImage levels colons (read (some levels) position
      (inner.drop (Literal.scan inner).length)).instructions) (position : Int) :
    InImage levels colons (readLoop (some levels) position inner).instructions := by
  cases levels with
  | zero => exact .nil
  | succ levels =>
      rw [readLoop, if_neg (by simp [noRoom])]
      simp only [Reading.instructions_append, instructions_reading, List.nil_append]
      exact .loop (Literal.isInt32_value inner) (hbody levels _) .nil

/-- A conditional bracket needs a colon, and leaves none to its branches. -/
theorem inImage_readConditional (h : ':' ∈ inner → colons = true)
    (hbranches : ∀ parts, Conditional.ofText? inner = some parts → ∀ levels position,
      InImage levels false (read (some levels) position parts.thenBranch).instructions
        ∧ InImage levels false (read (some levels) position parts.elseBranch).instructions)
    (position : Int) :
    InImage levels colons (readConditional (some levels) position inner).instructions := by
  cases levels with
  | zero => exact .nil
  | succ levels =>
      rw [readConditional, if_neg (by simp [noRoom])]
      cases hparts : Conditional.ofText? inner with
      | none => exact .nil
      | some parts =>
          have hcolon : ':' ∈ inner := by
            refine Classical.byContradiction fun hnone => ?_
            rw [ofText?_eq_none hnone] at hparts
            exact absurd hparts (by simp)
          obtain rfl := h hcolon
          simp only [oneLess, Option.map_some, Nat.add_sub_cancel, Reading.instructions_append,
            instructions_problemIf, List.nil_append]
          exact .cond (isInt32_threshold _) (hbranches parts hparts levels _).1
            (hbranches parts hparts levels _).2 .nil

end Brackets

/-- **Reading gives a tree of the class,** whatever the text; without colons it is one without them.
-/
theorem inImage_read (cs : List Char) {levels : Nat} {colons : Bool}
    (h : ':' ∈ cs → colons = true) (position : Int) :
    InImage levels colons (read (some levels) position cs).instructions := by
  -- on the length of the text, since an item is followed by some later part of it
  induction hn : cs.length using Nat.strongRecOn generalizing cs levels colons position with
  | ind n ih =>
      subst hn
      cases cs with
      | nil =>
          rw [read_nil]
          exact .nil
      | cons c cs =>
          have hcolon (hmem : ':' ∈ cs) : colons = true := h (List.mem_cons_of_mem _ hmem)
          have later {ds : List Char} (hsub : ds.Sublist cs) (levels : Nat) (position : Int) :
              InImage levels colons (read (some levels) position ds).instructions :=
            ih ds.length (Nat.lt_succ_of_le hsub.length_le) ds
              (fun hd => hcolon (hsub.subset hd)) position rfl
          have behind (n : Nat) (position : Int) :
              InImage levels colons (read (some levels) position (cs.drop n)).instructions :=
            later (List.drop_sublist n cs) levels position
          have next (position : Int) :
              InImage levels colons (read (some levels) position cs).instructions :=
            later (List.Sublist.refl cs) levels position
          cases hc : Symbol.ofChar c with
          | move direction =>
              rw [read_move hc]
              simp only [Reading.instructions_append, instructions_reading, List.nil_append,
                instructions_instruction, List.singleton_append]
              exact .leaf (.move (Literal.isInt32_value cs)) (behind _ _)
          | turn =>
              rw [read_turn hc]
              simp only [Reading.instructions_append, instructions_reading, List.nil_append,
                instructions_instruction, List.singleton_append]
              exact .leaf (.turn (Literal.isInt32_value cs)) (behind _ _)
          | sense =>
              rw [read_sense hc]
              simp only [Reading.instructions_append, instructions_reading, List.nil_append,
                instructions_instruction, List.singleton_append]
              exact .leaf (.sense (Literal.isInt32_value cs)) (behind _ _)
          | actuate =>
              have hsub : ((behindDigit cs).drop (Literal.scan (behindDigit cs)).length).Sublist cs :=
                (List.drop_sublist _ _).trans (suffix_behindDigit cs).sublist
              rw [read_actuate hc, actuatorDigit_snd]
              simp only [Reading.instructions_append, instructions_reading, List.nil_append,
                instructions_instruction, List.singleton_append]
              exact .leaf (.actuate (actuatorDigit_le cs) (Literal.isInt32_value _))
                (later hsub levels _)
          | loop =>
              have hinner := sublist_inner_enclosedBy '[' ']' cs
              have hitem : InImage levels colons
                  (readLoop (some levels) position (enclosedBy '[' ']' cs).inner).instructions :=
                inImage_readLoop (later ((List.drop_sublist _ _).trans hinner)) position
              rw [read_loop hc]
              simp only [Reading.instructions_append, instructions_problemIf, List.nil_append]
              exact hitem.append (later (suffix_rest_enclosedBy '[' ']' cs).sublist levels _)
          | conditional =>
              have hinner := sublist_inner_enclosedBy '{' '}' cs
              -- the branches have no colons, so they are read as texts without any
              have hbranches (parts : Conditional)
                  (hparts : Conditional.ofText? (enclosedBy '{' '}' cs).inner = some parts)
                  (levels : Nat) (position : Int) :
                  InImage levels false (read (some levels) position parts.thenBranch).instructions
                    ∧ InImage levels false
                      (read (some levels) position parts.elseBranch).instructions := by
                obtain ⟨hthen, helse⟩ := not_mem_colon_branches hparts
                obtain ⟨hlenThen, hlenElse⟩ := Conditional.length_branches hparts
                have hlen := hinner.length_le
                constructor
                · exact ih _ (Nat.lt_succ_of_le (Nat.le_trans hlenThen hlen)) _
                    (fun hmem => absurd hmem hthen) position rfl
                · exact ih _ (Nat.lt_succ_of_le (Nat.le_trans hlenElse hlen)) _
                    (fun hmem => absurd hmem helse) position rfl
              have hitem : InImage levels colons (readConditional (some levels) position
                  (enclosedBy '{' '}' cs).inner).instructions :=
                inImage_readConditional (fun hmem => hcolon (hinner.subset hmem)) hbranches position
              rw [read_conditional hc]
              simp only [Reading.instructions_append, instructions_problemIf, List.nil_append]
              exact hitem.append (later (suffix_rest_enclosedBy '{' '}' cs).sublist levels _)
          | message =>
              rw [read_message hc]
              split
              · have hquote : '"' ∉ cs.takeWhile (· ≠ '"') := by
                  intro hmem
                  simpa using List.all_eq_true.1 List.all_takeWhile '"' hmem
                have hlog : Leaf colons (.log (String.ofList (cs.takeWhile (· ≠ '"')))) :=
                  .log hquote fun hmem => hcolon ((List.takeWhile_sublist _).subset hmem)
                exact .leaf hlog (behind _ _)
              · exact next _
          | wait milliseconds =>
              rw [read_wait hc]
              exact .leaf (.wait (duration_of_ofChar hc)) (next _)
          | halt =>
              rw [read_halt hc]
              exact .leaf .halt (next _)
          | separator =>
              rw [read_separator hc]
              exact next _
          | closer =>
              rw [read_closer hc]
              exact next _
          | unknown =>
              rw [read_unknown hc]
              exact next _

/-! ### Every instruction of a walk -/

/-- What holds of every instruction that reading gives, whatever is inside it. -/
def IsShaped : Instruction → Prop
  | .move _ distance => 1 ≤ distance ∧ (distance : Int) ≤ int32Max
  | .turn degrees => ∃ n : Int, isInt32 n = true ∧ degrees = .int n
  | .sense kind sensor target =>
      kind = "proximity" ∧ ∃ n : Int, isInt32 n = true ∧ target = "s" ++ toString n
        ∧ sensor.toInt = (n + 128) % 256 - 128
  | .actuate kind actuator value =>
      kind = "motor" ∧ 0 ≤ actuator.toInt ∧ actuator.toInt ≤ 9
        ∧ ∃ n : Int, isInt32 n = true ∧ Binary64.ofInt? n = some value
  | .cond predicate _ _ =>
      ∃ n : Int, isInt32 n = true ∧ predicate = .threshold ⟨"s0", .int n, .above⟩
  | .loop count _ => 1 ≤ count ∧ (count : Int) ≤ int32Max
  | .wait milliseconds => milliseconds = 100 ∨ milliseconds = 50
  | .log message => '"' ∉ message.toList
  | .halt => True
  | .repeatWhile .. => False
  | .parallel _ => False
  | .foreign _ => False

/-- What holds of every instruction inside a branch of a conditional. -/
def IsColonless : Instruction → Prop
  | .cond .. => False
  | .log message => ':' ∉ message.toList
  | _ => True

/-- **What holds of an instruction and the number of blocks around it,** where brackets may nest to
a bound. -/
structure Fits (bound : Nat) (e : Instruction × Nat) : Prop where
  shaped : IsShaped e.1
  depth_le : e.2 ≤ bound
  bracket_lt : e.1.kind = .loop ∨ e.1.kind = .cond → e.2 < bound
  colonless : ∀ predicate thenBranch elseBranch, e.1 = .cond predicate thenBranch elseBranch →
    ∀ e' ∈ walkBlock 0 thenBranch ++ walkBlock 0 elseBranch, IsColonless e'.1

theorem atLeastOne_bounds {n : Int} (h : isInt32 n = true) :
    1 ≤ atLeastOne n ∧ (atLeastOne n : Int) ≤ int32Max := by
  have hbounds := isInt32_iff.1 h
  simp only [int32Min, int32Max, atLeastOne] at hbounds ⊢
  omega

theorem Leaf.isShaped {colons : Bool} {i : Instruction} (h : Leaf colons i) : IsShaped i := by
  cases h with
  | move hn => exact atLeastOne_bounds hn
  | turn hn => exact ⟨_, hn, rfl⟩
  | sense hn => exact ⟨rfl, _, hn, rfl, toInt_wrapByte _⟩
  | @actuate actuator n ha hn =>
      have hbyte := toInt_wrapByte actuator
      refine ⟨rfl, ?_, ?_, n, hn, ofInt?_of_isInt32 hn⟩
      · show 0 ≤ (wrapByte actuator).toInt
        omega
      · show (wrapByte actuator).toInt ≤ 9
        omega
  | wait hm => exact hm
  | @log text hquote =>
      show '"' ∉ (String.ofList text).toList
      rwa [String.toList_ofList]
  | halt => exact trivial

theorem Leaf.isColonless {i : Instruction} (h : Leaf false i) : IsColonless i := by
  cases h with
  | @log text _ hcolon =>
      show ':' ∉ (String.ofList text).toList
      rw [String.toList_ofList]
      exact fun hmem => absurd (hcolon hmem) (by simp)
  | _ => exact trivial

/-- An instruction without a body is all of its walk. -/
theorem Leaf.walk_eq {colons : Bool} {i : Instruction} (h : Leaf colons i) (depth : Nat) :
    i.walk depth = [(i, depth)] := by
  cases h <;> rfl

/-- An instruction without a body fits where brackets may be closed. -/
theorem Leaf.fits {colons : Bool} {i : Instruction} (h : Leaf colons i) {depth bound : Nat}
    (hdepth : depth ≤ bound) : Fits bound (i, depth) := by
  refine ⟨h.isShaped, hdepth, ?_, ?_⟩
  · intro hkind
    cases h <;> simp [Instruction.kind, senseOf, actuateOf] at hkind
  · intro predicate thenBranch elseBranch hcond
    cases h <;> simp [senseOf, actuateOf] at hcond

/-- Without colons there is nothing in a tree that needs one. -/
theorem InImage.isColonless {levels : Nat} {colons : Bool} {is : List Instruction}
    (h : InImage levels colons is) (hcolons : colons = false) (depth : Nat) :
    ∀ e ∈ walkBlock depth is, IsColonless e.1 := by
  induction h generalizing depth with
  | nil => exact fun e he => absurd he List.not_mem_nil
  | leaf hleaf _ ih =>
      subst hcolons
      rw [walkBlock, hleaf.walk_eq]
      exact List.forall_mem_cons.2 ⟨hleaf.isColonless, ih rfl depth⟩
  | loop _ _ _ ihBody ih =>
      rw [walkBlock, Instruction.walk, List.cons_append, List.forall_mem_cons,
        List.forall_mem_append]
      exact ⟨trivial, ihBody hcolons _, ih hcolons depth⟩
  | cond => exact absurd hcolons (by simp)

/-- **Every instruction of a tree fits at its depth.** -/
theorem InImage.fits {levels : Nat} {colons : Bool} {is : List Instruction}
    (h : InImage levels colons is) {depth bound : Nat} (hbound : depth + levels = bound) :
    ∀ e ∈ walkBlock depth is, Fits bound e := by
  -- inside a bracket there is one level less, and the depth is one more
  induction h generalizing depth with
  | nil => exact fun e he => absurd he List.not_mem_nil
  | leaf hleaf _ ih =>
      rw [walkBlock, hleaf.walk_eq]
      exact List.forall_mem_cons.2 ⟨hleaf.fits (by omega), ih hbound⟩
  | loop hn _ _ ihBody ih =>
      rw [walkBlock, Instruction.walk, List.cons_append, List.forall_mem_cons,
        List.forall_mem_append]
      refine ⟨⟨atLeastOne_bounds hn, ?_, ?_, ?_⟩, ihBody (by omega), ih hbound⟩
      · show depth ≤ bound
        omega
      · intro _
        show depth < bound
        omega
      · intro predicate thenBranch elseBranch hcond
        exact absurd hcond (by simp)
  | cond ht ha hb _ ihThen ihElse ih =>
      rw [walkBlock, Instruction.walk, List.cons_append, List.append_assoc, List.forall_mem_cons,
        List.forall_mem_append, List.forall_mem_append]
      refine ⟨⟨⟨_, ht, rfl⟩, ?_, ?_, ?_⟩, ihThen (by omega), ihElse (by omega), ih hbound⟩
      · show depth ≤ bound
        omega
      · intro _
        show depth < bound
        omega
      · intro predicate thenBranch elseBranch hcond
        obtain ⟨_, rfl, rfl⟩ := Instruction.cond.inj hcond
        exact List.forall_mem_append.2 ⟨ha.isColonless rfl 0, hb.isColonless rfl 0⟩

/-! ### Programs -/

/-- **The programs that reading gives:** every instruction in them fits at its depth. -/
def IsDenseImage (p : Program) : Prop := ∀ e ∈ p.walk, Fits maxNesting e

/-- The instructions of a source are a tree of the class, in either dialect. -/
theorem inImage_compile (d : Dialect) (code name : String) :
    InImage maxNesting true (d.compile code name).instructions :=
  inImage_read _ (fun _ => rfl) 0

/-- **Compiling gives a program of the class,** whatever the text and in either dialect. -/
theorem isDenseImage_compile (d : Dialect) (code name : String) :
    IsDenseImage (d.compile code name) := (inImage_compile d code name).fits (Nat.zero_add _)

end Dense

end RobotShorthand
