/-
**What reading leaves out.**

Reading skips and replaces what it cannot read, and a diagnostic says so each time.  A text that is
read without any diagnostic should therefore be accounted for to the last character: what is no
separator is part of the notation of one of the instructions that are read.  There is one exception,
and it is silent.  A conditional has two branches at most, and the segments behind the second one are
passed over without a diagnostic, whatever they say.

The accounts of a text are kept by a relation between the text, the instructions, and the segments that
are left out; it has one rule for separators and one for the notation of each instruction, and a
conditional enters its surplus segments in the third place.  Which segments are left out is also computed
from the text alone, and a text without diagnostics has exactly one account, with just these segments.

Main definitions:

* `surplus`, `leftOut` — the segments behind the second branch of a conditional, and those of all
  conditionals that are read in a text;
* `Accounted` — **a text whose characters are all accounted for,** by instructions or as left out.

Main results:

* `leftOut_operand`, … — what is left out of a text, one item at a time;
* `Accounted.left_eq` — what an account leaves out is what the text leaves out;
* `accounted_read` — a text that is read without a diagnostic has an account;
* `accounted_iff_leftOut` — **a source without diagnostics is accounted for by its program up to the
  surplus segments of its conditionals,** so entirely if and only if there are none;
* `surplus_segment_not_reported` — a source without diagnostics from which a halt has vanished.
-/

import RobotShorthand.Proofs.Dense.Sequence

set_option relaxedAutoImplicit false
set_option autoImplicit false

namespace RobotShorthand

namespace Dense

/-! ### Segments that are left out -/

/-- The segments of a conditional behind its second branch, up to the last one that is not empty. -/
def surplus (inner : List Char) : List (List Char) := (withoutEmptyEnd (segments inner)).drop 3

/-- **The segments that are left out of a text:** the surplus segments of the conditionals in it that
are read, in the branches of conditionals and the bodies of loops as well. -/
def leftOut : List Char → List (List Char)
  | [] => []
  | c :: cs =>
      if c ∈ operandSymbols then leftOut (cs.drop (Literal.scan cs).length)
      else if c = '!' then leftOut ((behindDigit cs).drop (Literal.scan (behindDigit cs)).length)
      else if c = '[' then
        let e := enclosedBy '[' ']' cs
        leftOut (e.inner.drop (Literal.scan e.inner).length) ++ leftOut e.rest
      else if c = '{' then
        let e := enclosedBy '{' '}' cs
        (match _h : Conditional.ofText? e.inner with
          | none => []
          | some parts =>
              leftOut parts.thenBranch ++ leftOut parts.elseBranch ++ surplus e.inner)
          ++ leftOut e.rest
      else if c = '"' ∧ '"' ∈ cs then leftOut (cs.drop ((cs.takeWhile (· ≠ '"')).length + 1))
      else leftOut cs
termination_by cs => cs.length
decreasing_by
  all_goals simp only [List.length_cons, List.length_drop]
  all_goals first
    | omega
    | (have bound := length_behindDigit_le cs; omega)
    | (have bound := length_inner_enclosedBy '[' ']' cs; omega)
    | (have bound := length_rest_enclosedBy '[' ']' cs; omega)
    | (have bound := length_rest_enclosedBy '{' '}' cs; omega)
    | (have within : e.inner.length ≤ cs.length := length_inner_enclosedBy '{' '}' cs
       have := Conditional.length_branches _h
       omega)

section Equations

variable {c : Char} {cs inner rest : List Char}

@[simp] theorem leftOut_nil : leftOut [] = [] := by rw [leftOut]

theorem leftOut_operand (h : c ∈ operandSymbols) :
    leftOut (c :: cs) = leftOut (cs.drop (Literal.scan cs).length) := by
  rw [leftOut, if_pos h]

theorem leftOut_actuate :
    leftOut ('!' :: cs)
      = leftOut ((behindDigit cs).drop (Literal.scan (behindDigit cs)).length) := by
  rw [leftOut, if_neg (by decide), if_pos rfl]

theorem leftOut_loop (h : Balanced '[' ']' inner) :
    leftOut ('[' :: (inner ++ ']' :: rest))
      = leftOut (inner.drop (Literal.scan inner).length) ++ leftOut rest := by
  rw [leftOut, if_neg (by decide), if_neg (by decide), if_pos rfl, enclosedBy_balanced (by decide) h]
  rfl

theorem leftOut_conditional (h : Balanced '{' '}' inner) {parts : Conditional}
    (hparts : Conditional.ofText? inner = some parts) :
    leftOut ('{' :: (inner ++ '}' :: rest))
      = leftOut parts.thenBranch ++ leftOut parts.elseBranch ++ surplus inner ++ leftOut rest := by
  rw [leftOut, if_neg (by decide), if_neg (by decide), if_neg (by decide), if_pos rfl,
    enclosedBy_balanced (by decide) h]
  simp only [Enclosed.rest, Option.getD_some]
  split
  · rename_i hnone
    exact absurd (hnone.symm.trans hparts) (by simp)
  · rename_i parts' hsome
    obtain rfl := Option.some.inj (hsome.symm.trans hparts)
    rfl

theorem leftOut_message {text : List Char} (h : '"' ∉ text) :
    leftOut ('"' :: (text ++ '"' :: rest)) = leftOut rest := by
  have hdrop : (text ++ '"' :: rest).drop (text.length + 1) = rest := by simp
  rw [leftOut, if_neg (by decide), if_neg (by decide), if_neg (by decide), if_neg (by decide),
    if_pos ⟨rfl, by simp⟩, takeWhile_ne_append_cons h, hdrop]

theorem leftOut_single (h : c ∉ itemSymbols) : leftOut (c :: cs) = leftOut cs := by
  have hnot (d : Char) (hd : d ∈ itemSymbols) : c ≠ d := by
    rintro rfl
    exact h hd
  have hoperand : c ∉ operandSymbols := fun hc => h (List.mem_append_left _ hc)
  rw [leftOut, if_neg hoperand, if_neg (hnot '!' (by decide)), if_neg (hnot '[' (by decide)),
    if_neg (hnot '{' (by decide)), if_neg fun hq => hnot '"' (by decide) hq.1]

end Equations

/-! ### Accounts -/

/-- The instructions that a character makes by itself. -/
def singleSymbols : List (Char × Instruction) :=
  [('.', .wait longWait), (',', .wait shortWait), ('#', .halt)]

/-- **A text whose characters are all accounted for.**  Each of them is a separator, or part of the
notation of one of the instructions, or left out as part of a segment behind the second branch of a
conditional.  Empty segments at the end of a conditional are part of its notation. -/
inductive Accounted : List Char → List Instruction → (left : List (List Char)) → Prop
  | nil : Accounted [] [] []
  | separator {c : Char} {cs : List Char} {is : List Instruction} {left : List (List Char)} :
      IsSeparator c → Accounted cs is left → Accounted (c :: cs) is left
  | single {c : Char} {i : Instruction} {cs : List Char} {is : List Instruction}
      {left : List (List Char)} :
      (c, i) ∈ singleSymbols → Accounted cs is left → Accounted (c :: cs) (i :: is) left
  | operand {c : Char} {numeral cs : List Char} {n : Int} {is : List Instruction}
      {left : List (List Char)} :
      c ∈ operandSymbols → Literal.scan (numeral ++ cs) = ⟨numeral, some n⟩ →
      Accounted cs is left →
      Accounted (c :: (numeral ++ cs)) (operandInstruction c n :: is) left
  | actuate {digit numeral cs : List Char} {actuator : Nat} {n : Int} {is : List Instruction}
      {left : List (List Char)} :
      actuatorDigit (digit ++ (numeral ++ cs)) = (actuator, numeral ++ cs) →
      Literal.scan (numeral ++ cs) = ⟨numeral, some n⟩ → Accounted cs is left →
      Accounted ('!' :: (digit ++ (numeral ++ cs))) (actuateOf actuator n :: is) left
  | message {text cs : List Char} {is : List Instruction} {left : List (List Char)} :
      '"' ∉ text → Accounted cs is left →
      Accounted ('"' :: (text ++ '"' :: cs)) (.log (String.ofList text) :: is) left
  | loop {numeral body cs : List Char} {n : Int} {js is : List Instruction}
      {inside left : List (List Char)} :
      Balanced '[' ']' (numeral ++ body) → Literal.scan (numeral ++ body) = ⟨numeral, some n⟩ →
      Accounted body js inside → Accounted cs is left →
      Accounted ('[' :: (numeral ++ body ++ ']' :: cs)) (.loop (atLeastOne n) js :: is)
        (inside ++ left)
  | conditional {inner threshold thenBranch cs : List Char} {more : List (List Char)} {n : Int}
      {js ks is : List Instruction} {inThen inElse left : List (List Char)} :
      Balanced '{' '}' inner →
      withoutEmptyEnd (inner.splitOn ':') = threshold :: thenBranch :: more →
      thresholdOf? threshold = some n → Accounted thenBranch js inThen →
      Accounted (more.headD []) ks inElse → Accounted cs is left →
      Accounted ('{' :: (inner ++ '}' :: cs)) (.cond (conditionOf n) js ks :: is)
        (inThen ++ inElse ++ more.tail ++ left)

/-- No separator starts an item. -/
theorem IsSeparator.not_mem_itemSymbols {c : Char} (h : IsSeparator c) : c ∉ itemSymbols := by
  intro hc
  have hall : ∀ c ∈ itemSymbols, Symbol.ofChar c ≠ .separator := Text.forall_mem_of_all (by decide)
  exact hall c hc h.ofChar

/-- What is left out of a conditional, from its segments. -/
theorem surplus_eq {inner threshold thenBranch : List Char} {more : List (List Char)}
    (h : withoutEmptyEnd (inner.splitOn ':') = threshold :: thenBranch :: more) :
    surplus inner = more.tail := by
  rw [surplus, segments_eq_splitOn, h]
  cases more <;> rfl

/-- **What an account leaves out is what the text leaves out.** -/
theorem Accounted.left_eq {text : List Char} {is : List Instruction} {left : List (List Char)}
    (h : Accounted text is left) : left = leftOut text := by
  -- along the account, one item at a time
  induction h with
  | nil => rw [leftOut_nil]
  | separator hc _ ih => rw [leftOut_single hc.not_mem_itemSymbols, ih]
  | single hc _ ih =>
      have hall : ∀ e ∈ singleSymbols, e.1 ∉ itemSymbols := by decide
      rw [leftOut_single (hall _ hc), ih]
  | operand hc hl _ ih => rw [leftOut_operand hc, hl, drop_length_literal, ih]
  | actuate ha hl _ ih =>
      rw [leftOut_actuate, ← actuatorDigit_snd, ha, hl, drop_length_literal, ih]
  | message ht _ ih => rw [leftOut_message ht, ih]
  | loop hb hl _ _ ihBody ih => rw [leftOut_loop hb, hl, drop_length_literal, ihBody, ih]
  | conditional hb hs _ _ _ _ ihThen ihElse ih =>
      rw [leftOut_conditional hb (ofText?_eq_some_iff.2 ⟨_, _, _, hs, rfl⟩), surplus_eq hs, ihThen,
        ihElse, ih]

/-! ### Readings without diagnostics -/

namespace Reading

@[simp] theorem diagnostics_problem (position : Int) (p : Problem) :
    (problem position p).diagnostics = [⟨position, p⟩] := rfl

@[simp] theorem diagnostics_problemIf_eq_nil_iff (condition : Bool) (position : Int) (p : Problem) :
    (problemIf condition position p).diagnostics = [] ↔ condition = false := by
  cases condition <;> simp [problemIf, empty]

end Reading

/-- A literal that is not reported has a value, and stands at the beginning of its text. -/
theorem exists_numeral {cs : List Char} {position : Int}
    (h : ((Literal.scan cs).reading position).diagnostics = []) :
    ∃ numeral rest n, cs = numeral ++ rest ∧ Literal.scan (numeral ++ rest) = ⟨numeral, some n⟩ := by
  have hwell : (Literal.scan cs).isWellFormed = true := by
    simpa [Literal.reading] using h
  obtain ⟨n, hn⟩ := Option.isSome_iff_exists.1 hwell
  have hcs : literalText cs ++ cs.drop (literalText cs).length = cs := literalText_append_drop cs
  refine ⟨literalText cs, cs.drop (literalText cs).length, n, hcs.symm, ?_⟩
  rw [hcs, ← hn]
  rfl

/-- A character by itself is a separator, or makes an instruction, or is reported. -/
theorem singleReading_cases (position : Int) {c : Char} (hc : c ∉ itemSymbols) :
    (IsSeparator c ∧ singleReading position c = .empty)
      ∨ (∃ i, (c, i) ∈ singleSymbols ∧ singleReading position c = .instruction i)
      ∨ ∃ p, singleReading position c = .problem position p := by
  unfold singleReading
  fun_cases Symbol.ofChar c with
  -- the two waits and the halt
  | case13 => exact .inr (.inl ⟨_, .head _, rfl⟩)
  | case14 => exact .inr (.inl ⟨_, .tail _ (.head _), rfl⟩)
  | case15 => exact .inr (.inl ⟨_, .tail _ (.tail _ (.head _)), rfl⟩)
  -- separators, and brackets that close nothing
  | case16 => exact .inl ⟨.inl rfl, rfl⟩
  | case17 => exact .inl ⟨.inr (.inl rfl), rfl⟩
  | case18 => exact .inr (.inr ⟨_, rfl⟩)
  | case19 => exact .inr (.inr ⟨_, rfl⟩)
  -- blanks, and symbols that mean nothing
  | case20 =>
      rename_i hblank
      exact .inl ⟨.inr (.inr hblank), rfl⟩
  | case21 => exact .inr (.inr ⟨_, rfl⟩)
  -- all others start an item
  | _ => exact absurd (by decide) hc

section Silent

variable {room : Option Nat} {position : Int}

/-- A loop bracket that is read without a diagnostic holds a count and a body that is read without
one. -/
theorem exists_of_readLoop {inner : List Char}
    (h : (readLoop room position inner).diagnostics = []) :
    ∃ numeral body n position', inner = numeral ++ body
      ∧ Literal.scan (numeral ++ body) = ⟨numeral, some n⟩
      ∧ (read (oneLess room) position' body).diagnostics = []
      ∧ (readLoop room position inner).instructions
          = [.loop (atLeastOne n) (read (oneLess room) position' body).instructions] := by
  unfold readLoop at h ⊢
  split
  · rename_i hroom
    rw [if_pos hroom] at h
    exact absurd h (by simp)
  · rename_i hroom
    simp only [if_neg hroom, Reading.diagnostics_append, List.append_eq_nil_iff] at h
    obtain ⟨numeral, body, n, rfl, hl⟩ := exists_numeral h.1
    simp only [hl, drop_length_literal] at h ⊢
    exact ⟨numeral, body, n, _, rfl, hl, h.2, rfl⟩

/-- A conditional bracket that is read without a diagnostic holds a threshold and branches that are
read without one. -/
theorem exists_of_readConditional {inner : List Char}
    (h : (readConditional room position inner).diagnostics = []) :
    ∃ threshold thenBranch more n position' position'',
      withoutEmptyEnd (inner.splitOn ':') = threshold :: thenBranch :: more
      ∧ thresholdOf? threshold = some n
      ∧ (read (oneLess room) position' thenBranch).diagnostics = []
      ∧ (read (oneLess room) position'' (more.headD [])).diagnostics = []
      ∧ (readConditional room position inner).instructions
          = [.cond (conditionOf n) (read (oneLess room) position' thenBranch).instructions
              (read (oneLess room) position'' (more.headD [])).instructions] := by
  unfold readConditional at h ⊢
  split
  · rename_i hroom
    rw [if_pos hroom] at h
    exact absurd h (by simp)
  · rename_i hroom
    rw [if_neg hroom] at h
    cases hparts : Conditional.ofText? inner with
    | none =>
        rw [hparts] at h
        exact absurd h (by simp)
    | some parts =>
        obtain ⟨threshold, thenBranch, more, hs, rfl⟩ := ofText?_eq_some_iff.1 hparts
        simp only [hparts, Reading.diagnostics_append, List.append_eq_nil_iff,
          Reading.diagnostics_problemIf_eq_nil_iff, Option.isNone_eq_false_iff] at h
        obtain ⟨ht, hthen, helse⟩ := h
        obtain ⟨n, hn⟩ := Option.isSome_iff_exists.1 ht
        refine ⟨threshold, thenBranch, more, n, _, _, hs, hn, hthen, helse, ?_⟩
        simp only [hn, Option.getD_some, Reading.instructions_append, instructions_problemIf,
          List.nil_append]

/-- **A text that is read without a diagnostic has an account,** which leaves out the surplus segments
of its conditionals. -/
theorem accounted_read {cs : List Char} (h : (read room position cs).diagnostics = []) :
    Accounted cs (read room position cs).instructions (leftOut cs) := by
  induction cs using item_induction generalizing room position with
  | nil =>
      rw [read_nil, leftOut_nil]
      exact .nil
  | operand c cs hc ih =>
      rw [read_operand hc] at h ⊢
      simp only [Reading.diagnostics_append, List.append_eq_nil_iff] at h
      obtain ⟨numeral, rest, n, rfl, hl⟩ := exists_numeral h.1.1
      rw [leftOut_operand hc]
      simp only [hl, drop_length_literal] at ih h ⊢
      exact .operand hc hl (ih h.2)
  | actuate cs ih =>
      rw [read_actuate rfl, actuatorDigit_snd] at h ⊢
      simp only [Reading.diagnostics_append, List.append_eq_nil_iff] at h
      obtain ⟨numeral, rest, n, hbehind, hl⟩ := exists_numeral h.1.1
      obtain ⟨digit, hcs⟩ := suffix_behindDigit cs
      have ha : actuatorDigit cs = ((actuatorDigit cs).1, numeral ++ rest) :=
        Prod.ext rfl ((actuatorDigit_snd cs).trans hbehind)
      rw [leftOut_actuate]
      simp only [hbehind, hl, drop_length_literal] at ih h hcs ⊢
      rw [← hcs] at ha
      have haccounted := Accounted.actuate ha hl (ih h.2)
      rwa [hcs] at haccounted
  | loop inner rest hb ihBody ih =>
      rw [read_loop_balanced hb] at h ⊢
      simp only [Reading.diagnostics_append, List.append_eq_nil_iff] at h
      obtain ⟨numeral, body, n, position', rfl, hl, hbody, hloop⟩ := exists_of_readLoop h.1
      rw [leftOut_loop hb, Reading.instructions_append, hloop]
      simp only [hl, drop_length_literal] at ihBody ⊢
      exact .loop hb hl (ihBody hbody) (ih h.2)
  | openLoop cs ho _ =>
      rw [read_openLoop ho] at h
      exact absurd h (by simp)
  | conditional inner rest hb ihBranches ih =>
      rw [read_conditional_balanced hb] at h ⊢
      simp only [Reading.diagnostics_append, List.append_eq_nil_iff] at h
      obtain ⟨threshold, thenBranch, more, n, _, _, hs, ht, hthen, helse, hcond⟩ :=
        exists_of_readConditional h.1
      have hparts := ofText?_eq_some_iff.2 ⟨threshold, thenBranch, more, hs, rfl⟩
      obtain ⟨ihThen, ihElse⟩ := ihBranches _ hparts
      rw [leftOut_conditional hb hparts, surplus_eq hs, Reading.instructions_append, hcond]
      exact .conditional hb hs ht (ihThen hthen) (ihElse helse) (ih h.2)
  | openConditional cs ho _ =>
      rw [read_openConditional ho] at h
      exact absurd h (by simp)
  | message text rest ht ih =>
      rw [read_message_closed ht] at h ⊢
      rw [leftOut_message ht]
      exact .message ht (ih h)
  | openMessage cs hq _ =>
      rw [read_openMessage hq] at h
      exact absurd h (by simp)
  | single c cs hc ih =>
      rw [read_single hc] at h ⊢
      rw [leftOut_single hc]
      simp only [Reading.diagnostics_append, List.append_eq_nil_iff] at h
      rcases singleReading_cases position hc with ⟨hsep, he⟩ | ⟨i, hi, he⟩ | ⟨p, he⟩
      · rw [he]
        exact .separator hsep (ih h.2)
      · rw [he]
        exact .single hi (ih h.2)
      · rw [he] at h
        exact absurd h.1 (by simp)

end Silent

/-- The instructions of a text do not depend on where it stands in its source. -/
theorem instructions_read (room : Option Nat) (position : Int) (cs : List Char) :
    (read room position cs).instructions = (read room 0 cs).instructions := by
  have hshift := read_shift cs position room 0
  rw [Int.zero_add] at hshift
  rw [hshift]
  rfl

/-- **A source without diagnostics is accounted for by its program up to the surplus segments of its
conditionals:** an account leaves out just these.  So every character of the source has a part in the
program exactly when no conditional that is read has a segment behind its second branch. -/
theorem accounted_iff_leftOut {code : String} (name : String) (left : List (List Char))
    (h : (Dialect.dense.report code).diagnostics = []) :
    Accounted (Text.strip code.toList) (Dialect.dense.compile code name).instructions left
      ↔ left = leftOut (Text.strip code.toList) := by
  constructor
  · exact Accounted.left_eq
  · rintro rfl
    have haccounted := accounted_read h
    rw [instructions_read] at haccounted
    exact haccounted

/-- The branches of this conditional are accounted for, the loop in the first one included; the halt
behind them is not. -/
theorem accounted_iff_leftOut_late_halt :
    (Dialect.dense.report "{50:[2>1]:<1::#}").diagnostics = []
      ∧ Accounted (Text.strip "{50:[2>1]:<1::#}".toList)
          (Dialect.dense.compile "{50:[2>1]:<1::#}" "late").instructions [[], ['#']]
      ∧ ¬ Accounted (Text.strip "{50:[2>1]:<1::#}".toList)
          (Dialect.dense.compile "{50:[2>1]:<1::#}" "late").instructions [] := by
  have silent : (Dialect.dense.report "{50:[2>1]:<1::#}").diagnostics = [] := by
    decide +kernel
  have hleft : leftOut (Text.strip "{50:[2>1]:<1::#}".toList) = [[], ['#']] := by
    decide +kernel
  refine ⟨silent, (accounted_iff_leftOut "late" _ silent).2 hleft.symm, fun h => ?_⟩
  have hnone := (accounted_iff_leftOut "late" _ silent).1 h
  rw [hleft] at hnone
  exact absurd hnone (by simp)

/-- **A halt is lost without a diagnostic.**  Behind the second branch of a conditional nothing is read
and nothing is reported, so this source has no diagnostics and is not accounted for by its program. -/
theorem surplus_segment_not_reported :
    (Dialect.dense.report "{50:>1:<1:#}").diagnostics = []
      ∧ ¬ Accounted (Text.strip "{50:>1:<1:#}".toList)
          (Dialect.dense.compile "{50:>1:<1:#}" "dense").instructions [] := by
  refine ⟨by decide +kernel, fun h => ?_⟩
  have lost : leftOut (Text.strip "{50:>1:<1:#}".toList) = [['#']] := by
    decide +kernel
  exact absurd (h.left_eq.trans lost) (by simp)

end Dense

end RobotShorthand
