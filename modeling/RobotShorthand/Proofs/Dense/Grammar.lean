/-
**The grammar of dense code.**

Reading dense code never fails, so which texts are well formed can only be seen from the errors that
are reported.  This module describes the well-formed texts by themselves, as sequences of items with
brackets that hold further such texts, and proves that these are the texts read without an error: no
error is missed inside a bracket, and none is reported for a well-formed text.

Main definitions:

* `IsThreshold` — the thresholds of conditionals;
* `WellFormed` — **the well-formed texts at a depth;**
* `Reading.IsErrorFree` — readings that report warnings at most.

Main results:

* `isSome_thresholdOf?_iff` — exactly the thresholds have a value;
* `isErrorFree_bracket` — a bracket is read without an error when it is closed, its text makes an
  item without one, and what follows has none;
* `isErrorFree_read_operand`, … — what each kind of item takes to be read without an error;
* `WellFormed.isErrorFree_read`, `wellFormed_of_isErrorFree_read` — **reading reports no error
  exactly for the well-formed texts;**
* `compileStrict_dense` — **strict compiling succeeds exactly for them,** with the program that
  compiling gives.
-/

import RobotShorthand.Program.Compilation
import RobotShorthand.Proofs.Dense.Notation

set_option relaxedAutoImplicit false
set_option autoImplicit false

namespace RobotShorthand

namespace Dense

/-! ### Thresholds -/

/-- The signs that a threshold may have. -/
def thresholdSigns : List (List Char) := [[], ['+'], ['-']]

/-- The thresholds of conditionals: a sign or none and decimal digits, not too many, that make a
signed 32-bit number. -/
def IsThreshold (text : List Char) : Prop :=
  ∃ sign ∈ thresholdSigns, ∃ digits, text = sign ++ digits ∧ digits ≠ []
    ∧ (∀ c ∈ digits, c.isDigit = true) ∧ digits.length ≤ Text.maxDecimalDigits
    ∧ isInt32 (signed (sign = ['-']) (Nat.ofDigitChars 10 digits 0)) = true

/-- Taking the sign off a threshold undoes putting it in front of digits. -/
theorem unsignThreshold_sign_append {sign digits : List Char} (hs : sign ∈ thresholdSigns)
    (hd : ∀ c ∈ digits, c.isDigit = true) :
    unsignThreshold (sign ++ digits) = (decide (sign = ['-']), digits) := by
  simp only [thresholdSigns, List.mem_cons, List.not_mem_nil, or_false] at hs
  rcases hs with rfl | rfl | rfl
  · exact unsignThreshold_minus_append false hd
  · rfl
  · rfl

/-- Every text is a sign or none in front of what is left without it. -/
theorem exists_sign_append (text : List Char) :
    ∃ sign ∈ thresholdSigns, text = sign ++ (unsignThreshold text).2
      ∧ (unsignThreshold text).1 = decide (sign = ['-']) := by
  unfold unsignThreshold
  split
  · exact ⟨['-'], by decide, rfl, rfl⟩
  · exact ⟨['+'], by decide, rfl, rfl⟩
  · exact ⟨[], by decide, rfl, rfl⟩

/-- **Exactly the thresholds have a value.** -/
theorem isSome_thresholdOf?_iff (text : List Char) :
    (thresholdOf? text).isSome = true ↔ IsThreshold text := by
  constructor
  · intro h
    obtain ⟨sign, hs, htext, hsign⟩ := exists_sign_append text
    obtain ⟨n, hn⟩ := Option.isSome_iff_exists.1 h
    simp only [thresholdOf?] at hn
    split at hn
    · rename_i hlen
      obtain ⟨hm, hfit⟩ := Option.filter_eq_some_iff.1 hn
      obtain ⟨m, hdigits, rfl⟩ := Option.map_eq_some_iff.1 hm
      obtain ⟨hne, hd, rfl⟩ := digitsOf?_asciiDigit?_eq_some_iff.1 hdigits
      rw [hsign] at hfit
      exact ⟨sign, hs, _, htext, hne, hd, hlen, hfit⟩
    · exact absurd hn (by simp)
  · rintro ⟨sign, hs, digits, rfl, hne, hd, hlen, hfit⟩
    rw [thresholdOf?, unsignThreshold_sign_append hs hd]
    simp only [if_pos hlen, digitsOf?_digits hne hd, Option.map_some]
    simp [Option.filter, hfit]

/-! ### The grammar -/

/-- The symbols that are followed by a literal. -/
def operandSymbols : List Char := ['>', '<', '^', 'v', '/', '\\', '@', '?']

/-- The symbols that something must or may follow. -/
def itemSymbols : List Char := operandSymbols ++ ['!', '"', '[', '{']

/-- The text behind a decimal digit if one is next. -/
def behindDigit : List Char → List Char
  | [] => []
  | c :: cs => if c.isDigit then cs else c :: cs

/-- **The well-formed texts** with `depth` brackets around them.  A literal is what reading takes
for one; brackets of the other kind do not count inside a bracket, and neither do quotes. -/
inductive WellFormed : (depth : Nat) → List Char → Prop
  | nil {depth : Nat} : WellFormed depth []
  | operand {depth : Nat} {symbol : Char} {cs : List Char} :
      symbol ∈ operandSymbols → (Literal.scan cs).isWellFormed = true →
      WellFormed depth (cs.drop (Literal.scan cs).length) → WellFormed depth (symbol :: cs)
  | actuate {depth : Nat} {cs : List Char} :
      (Literal.scan (behindDigit cs)).isWellFormed = true →
      WellFormed depth ((behindDigit cs).drop (Literal.scan (behindDigit cs)).length) →
      WellFormed depth ('!' :: cs)
  | message {depth : Nat} {text cs : List Char} :
      '"' ∉ text → WellFormed depth cs → WellFormed depth ('"' :: (text ++ '"' :: cs))
  | loop {depth : Nat} {inner cs : List Char} :
      depth < maxNesting → Balanced '[' ']' inner → (Literal.scan inner).isWellFormed = true →
      WellFormed (depth + 1) (inner.drop (Literal.scan inner).length) →
      WellFormed depth cs → WellFormed depth ('[' :: (inner ++ ']' :: cs))
  | conditional {depth : Nat} {inner threshold thenBranch cs : List Char}
      {more : List (List Char)} :
      depth < maxNesting → Balanced '{' '}' inner →
      withoutEmptyEnd (inner.splitOn ':') = threshold :: thenBranch :: more →
      IsThreshold threshold → WellFormed (depth + 1) thenBranch →
      (∀ elseBranch ∈ more.head?, WellFormed (depth + 1) elseBranch) →
      WellFormed depth cs → WellFormed depth ('{' :: (inner ++ '}' :: cs))
  | other {depth : Nat} {c : Char} {cs : List Char} :
      c ∉ itemSymbols → WellFormed depth cs → WellFormed depth (c :: cs)

/-! ### Readings without errors -/

namespace Reading

/-- A reading that reports warnings at most. -/
def IsErrorFree (r : Reading) : Prop := ∀ d ∈ r.diagnostics, d.isError = false

@[simp] theorem isErrorFree_empty : empty.IsErrorFree := fun _ h => absurd h List.not_mem_nil

@[simp] theorem isErrorFree_instruction (i : Instruction) : (instruction i).IsErrorFree :=
  fun _ h => absurd h List.not_mem_nil

@[simp] theorem isErrorFree_append (r s : Reading) :
    (r ++ s).IsErrorFree ↔ r.IsErrorFree ∧ s.IsErrorFree := List.forall_mem_append

@[simp] theorem isErrorFree_problem (position : Int) (p : Problem) :
    (problem position p).IsErrorFree ↔ p.severity ≠ .error := by
  simp [IsErrorFree, problem, Diagnostic.isError]

@[simp] theorem isErrorFree_problemIf (condition : Bool) (position : Int) (p : Problem) :
    (problemIf condition position p).IsErrorFree ↔ (condition = true → p.severity ≠ .error) := by
  cases condition <;> simp [problemIf]

/-- A body inside an instruction reports what it reports by itself. -/
theorem isErrorFree_body (is : List Instruction) (r : Reading) :
    IsErrorFree ⟨is, r.diagnostics⟩ ↔ r.IsErrorFree := Iff.rfl

/-- Two bodies inside an instruction. -/
theorem isErrorFree_branches (is : List Instruction) (r s : Reading) :
    IsErrorFree ⟨is, r.diagnostics ++ s.diagnostics⟩ ↔ r.IsErrorFree ∧ s.IsErrorFree :=
  List.forall_mem_append

end Reading

/-- A literal is reported unless it is well formed. -/
@[simp] theorem Literal.isErrorFree_reading (l : Literal) (position : Int) :
    (l.reading position).IsErrorFree ↔ l.isWellFormed = true := by
  cases h : l.isWellFormed <;> simp [Literal.reading, h, Problem.severity]

/-! ### What an item takes -/

section Items

variable {room : Option Nat} {depth : Nat} {position : Int} {c : Char} {cs inner : List Char}

/-- Whether a symbol is followed by a literal. -/
def Symbol.takesLiteral : Symbol → Bool
  | .move _ => true
  | .turn => true
  | .sense => true
  | _ => false

/-- Whether something must or may follow a symbol. -/
def Symbol.startsItem : Symbol → Bool
  | .actuate => true
  | .loop => true
  | .conditional => true
  | .message => true
  | s => s.takesLiteral

theorem mem_itemSymbols_of_startsItem (h : (Symbol.ofChar c).startsItem = true) :
    c ∈ itemSymbols := by
  unfold Symbol.ofChar at h
  split at h
  case h_20 =>
      split at h
      · exact absurd h (by decide)
      · exact absurd h (by decide)
  all_goals first
    | decide
    | exact absurd h (by decide)

theorem isErrorFree_read_operand (hc : c ∈ operandSymbols) :
    (read room position (c :: cs)).IsErrorFree
      ↔ (Literal.scan cs).isWellFormed = true
        ∧ (read room (position + 1 + (Literal.scan cs).length)
            (cs.drop (Literal.scan cs).length)).IsErrorFree := by
  have hall : ∀ c ∈ operandSymbols, (Symbol.ofChar c).takesLiteral = true :=
    Text.forall_mem_of_all (by decide)
  have hliteral := hall c hc
  cases h : Symbol.ofChar c with
  | move => simp [read_move h]
  | turn => simp [read_turn h]
  | sense => simp [read_sense h]
  | _ =>
      rw [h] at hliteral
      exact absurd hliteral (by simp [Symbol.takesLiteral])

/-- Behind the digit of an actuator, if there is one, stands its value. -/
theorem actuatorDigit_snd (cs : List Char) : (actuatorDigit cs).2 = behindDigit cs := by
  cases cs with
  | nil => rfl
  | cons c cs =>
      by_cases hc : c.isDigit = true
      · simp [actuatorDigit, behindDigit, asciiDigit?_of_isDigit hc, hc]
      · have hnone : Text.asciiDigit? c = none := by
          cases h : Text.asciiDigit? c with
          | none => rfl
          | some d => exact absurd (isDigit_of_asciiDigit? h) hc
        simp [actuatorDigit, behindDigit, hnone, hc]

theorem length_behindDigit_le (cs : List Char) : (behindDigit cs).length ≤ cs.length := by
  rw [← actuatorDigit_snd]
  exact length_actuatorDigit_le cs

theorem isErrorFree_read_actuate :
    (read room position ('!' :: cs)).IsErrorFree
      ↔ (Literal.scan (behindDigit cs)).isWellFormed = true
        ∧ (read room (actuatorStart position cs + (Literal.scan (behindDigit cs)).length)
            ((behindDigit cs).drop (Literal.scan (behindDigit cs)).length)).IsErrorFree := by
  rw [read_actuate rfl, actuatorDigit_snd]
  simp

/-- A message ends at the first quote behind it. -/
theorem isErrorFree_read_message :
    (read room position ('"' :: cs)).IsErrorFree
      ↔ ∃ text rest, cs = text ++ '"' :: rest ∧ '"' ∉ text
          ∧ (read room (position + text.length + 2) rest).IsErrorFree := by
  constructor
  · intro h
    by_cases hq : '"' ∈ cs
    · obtain ⟨text, rest, rfl, ht⟩ := List.eq_append_cons_of_mem hq
      rw [read_message_closed ht, Reading.isErrorFree_append] at h
      exact ⟨text, rest, rfl, ht, h.2⟩
    · rw [read_message rfl, takeWhile_ne_of_not_mem hq, if_neg (Nat.lt_irrefl _),
        Reading.isErrorFree_append] at h
      exact absurd h.1 (by simp [Problem.severity])
  · rintro ⟨text, rest, rfl, ht, h⟩
    rw [read_message_closed ht, Reading.isErrorFree_append]
    exact ⟨Reading.isErrorFree_instruction _, h⟩

/-- A bracket is closed behind a balanced text, or never. -/
theorem enclosedBy_cases {opener closer : Char} (hne : opener ≠ closer) (cs : List Char) :
    (∃ inner rest, cs = inner ++ closer :: rest ∧ Balanced opener closer inner)
      ∨ (enclosedBy opener closer cs).isClosed = false := by
  cases h : enclosedBy opener closer cs with
  | mk inner rest? =>
      cases rest? with
      | none => exact .inr rfl
      | some rest => exact .inl ⟨inner, rest, (enclosedBy_eq_some_iff hne).1 h⟩

/-- **A bracket is read without an error when it is closed** and neither the item that its text
makes nor what follows it has one. -/
theorem isErrorFree_bracket {opener closer : Char} (hne : opener ≠ closer) {unclosed : Problem}
    (hunclosed : unclosed.severity = .error) (item : List Char → Reading) :
    (Reading.problemIf (!(enclosedBy opener closer cs).isClosed) position unclosed
        ++ item (enclosedBy opener closer cs).inner
        ++ read room (position + 1 + (cs.length - (enclosedBy opener closer cs).rest.length : Nat))
            (enclosedBy opener closer cs).rest).IsErrorFree
      ↔ ∃ inner rest, cs = inner ++ closer :: rest ∧ Balanced opener closer inner
          ∧ (item inner).IsErrorFree
          ∧ (read room (position + inner.length + 2) rest).IsErrorFree := by
  have hclosed {inner rest : List Char} (hb : Balanced opener closer inner) :
      (Reading.problemIf (!(⟨inner, some rest⟩ : Enclosed).isClosed) position unclosed
          ++ item inner
          ++ read room (position + 1 + ((inner ++ closer :: rest).length - rest.length : Nat))
              rest).IsErrorFree
        ↔ (item inner).IsErrorFree
          ∧ (read room (position + inner.length + 2) rest).IsErrorFree := by
    rw [position_behind_bracket, Reading.isErrorFree_append, Reading.isErrorFree_append]
    simp [Enclosed.isClosed]
  constructor
  · intro h
    rcases enclosedBy_cases hne cs with ⟨inner, rest, rfl, hb⟩ | hopen
    · rw [enclosedBy_balanced hne hb] at h
      exact ⟨inner, rest, rfl, hb, (hclosed hb).1 h⟩
    · rw [hopen, Reading.append_assoc, Reading.isErrorFree_append] at h
      exact absurd h.1 (by simp [hunclosed])
  · rintro ⟨inner, rest, rfl, hb, h⟩
    rw [enclosedBy_balanced hne hb]
    exact (hclosed hb).2 h

theorem isErrorFree_read_loop :
    (read room position ('[' :: cs)).IsErrorFree
      ↔ ∃ inner rest, cs = inner ++ ']' :: rest ∧ Balanced '[' ']' inner
          ∧ (readLoop room position inner).IsErrorFree
          ∧ (read room (position + inner.length + 2) rest).IsErrorFree := by
  rw [read_loop rfl]
  exact isErrorFree_bracket (by decide) rfl (readLoop room position)

theorem isErrorFree_read_conditional :
    (read room position ('{' :: cs)).IsErrorFree
      ↔ ∃ inner rest, cs = inner ++ '}' :: rest ∧ Balanced '{' '}' inner
          ∧ (readConditional room position inner).IsErrorFree
          ∧ (read room (position + inner.length + 2) rest).IsErrorFree := by
  rw [read_conditional rfl]
  exact isErrorFree_bracket (by decide) rfl (readConditional room position)

/-- No level is left at the greatest depth and beyond. -/
theorem noRoom_eq_true_iff : noRoom (some (maxNesting - depth)) = true ↔ ¬ depth < maxNesting := by
  simp only [noRoom, beq_iff_eq, Option.some.injEq]
  omega

theorem isErrorFree_readLoop :
    (readLoop (some (maxNesting - depth)) position inner).IsErrorFree
      ↔ depth < maxNesting ∧ (Literal.scan inner).isWellFormed = true
        ∧ (read (some (maxNesting - (depth + 1))) (position + 1 + (Literal.scan inner).length)
            (inner.drop (Literal.scan inner).length)).IsErrorFree := by
  unfold readLoop
  by_cases hd : depth < maxNesting
  · rw [if_neg fun h => noRoom_eq_true_iff.1 h hd]
    simp [oneLess, Nat.sub_sub, Reading.isErrorFree_body, hd]
  · rw [if_pos (noRoom_eq_true_iff.2 hd)]
    simp [Problem.severity, hd]

/-- The parts of a conditional are its first segments, and the second branch may be missing. -/
theorem ofText?_eq_some_iff {parts : Conditional} :
    Conditional.ofText? inner = some parts
      ↔ ∃ threshold thenBranch more,
          withoutEmptyEnd (inner.splitOn ':') = threshold :: thenBranch :: more
            ∧ parts = ⟨threshold, thenBranch, more.headD []⟩ := by
  rw [Conditional.ofText?, segments_eq_splitOn]
  constructor
  · intro h
    split at h
    · rename_i hs
      exact ⟨_, _, _, hs, (Option.some.inj h).symm⟩
    · rename_i hs
      exact ⟨_, _, _, hs, (Option.some.inj h).symm⟩
    · exact absurd h (by simp)
  · rintro ⟨threshold, thenBranch, more, hs, rfl⟩
    rw [hs]
    cases more with
    | nil => rfl
    | cons elseBranch more => rfl

theorem isErrorFree_readConditional :
    (readConditional (some (maxNesting - depth)) position inner).IsErrorFree
      ↔ depth < maxNesting ∧ ∃ parts, Conditional.ofText? inner = some parts
          ∧ IsThreshold parts.threshold
          ∧ (read (some (maxNesting - (depth + 1))) (position + 1 + parts.threshold.length + 1)
              parts.thenBranch).IsErrorFree
          ∧ (read (some (maxNesting - (depth + 1)))
              (position + 1 + parts.threshold.length + 1 + parts.thenBranch.length + 1)
              parts.elseBranch).IsErrorFree := by
  unfold readConditional
  by_cases hd : depth < maxNesting
  · rw [if_neg fun h => noRoom_eq_true_iff.1 h hd]
    cases hparts : Conditional.ofText? inner with
    | none => simp [Problem.severity]
    | some parts =>
        simp [oneLess, Nat.sub_sub, Reading.isErrorFree_branches, hd, Problem.severity,
          ← isSome_thresholdOf?_iff, Option.isSome_iff_ne_none]
  · rw [if_pos (noRoom_eq_true_iff.2 hd)]
    simp [Problem.severity, hd]

/-- Everything that starts no item is passed, with a warning at most. -/
theorem isErrorFree_read_other (hc : c ∉ itemSymbols) :
    (read room position (c :: cs)).IsErrorFree ↔ (read room (position + 1) cs).IsErrorFree := by
  have hstart : (Symbol.ofChar c).startsItem = false := by
    cases h : (Symbol.ofChar c).startsItem with
    | false => rfl
    | true => exact absurd (mem_itemSymbols_of_startsItem h) hc
  cases h : Symbol.ofChar c with
  | wait => simp [read_wait h]
  | halt => simp [read_halt h]
  | separator => rw [read_separator h]
  | closer => simp [read_closer h, Problem.severity]
  | unknown => simp [read_unknown h, Problem.severity]
  | _ =>
      rw [h] at hstart
      exact absurd hstart (by simp [Symbol.startsItem, Symbol.takesLiteral])

end Items

/-! ### The grammar and reading -/

/-- **A well-formed text is read without an error.** -/
theorem WellFormed.isErrorFree_read {depth : Nat} {cs : List Char} (h : WellFormed depth cs)
    (position : Int) : (read (some (maxNesting - depth)) position cs).IsErrorFree := by
  -- along the derivation, one item at a time
  induction h generalizing position with
  | nil =>
      rw [read_nil]
      exact Reading.isErrorFree_empty
  | operand hs hl _ ih => exact (isErrorFree_read_operand hs).2 ⟨hl, ih _⟩
  | actuate hl _ ih => exact isErrorFree_read_actuate.2 ⟨hl, ih _⟩
  | message ht _ ih => exact isErrorFree_read_message.2 ⟨_, _, rfl, ht, ih _⟩
  | @loop depth inner cs hd hb hl _ _ ihBody ih =>
      have hinner : (readLoop (some (maxNesting - depth)) position inner).IsErrorFree :=
        isErrorFree_readLoop.2 ⟨hd, hl, ihBody _⟩
      exact isErrorFree_read_loop.2 ⟨_, _, rfl, hb, hinner, ih _⟩
  | @conditional depth inner threshold thenBranch cs more hd hb hs ht _ _ _ ihThen ihElse ih =>
      -- a second branch that is missing is read as an empty one
      have helse (position : Int) :
          (read (some (maxNesting - (depth + 1))) position (more.headD [])).IsErrorFree := by
        cases more with
        | nil =>
            rw [List.headD_nil, read_nil]
            exact Reading.isErrorFree_empty
        | cons elseBranch more => exact ihElse elseBranch rfl position
      have hparts := ofText?_eq_some_iff.2 ⟨_, _, _, hs, rfl⟩
      have hinner : (readConditional (some (maxNesting - depth)) position inner).IsErrorFree :=
        isErrorFree_readConditional.2 ⟨hd, _, hparts, ht, ihThen _, helse _⟩
      exact isErrorFree_read_conditional.2 ⟨_, _, rfl, hb, hinner, ih _⟩
  | other hc _ ih => exact (isErrorFree_read_other hc).2 (ih _)

theorem mem_itemSymbols_iff {c : Char} :
    c ∈ itemSymbols ↔ c ∈ operandSymbols ∨ c = '!' ∨ c = '"' ∨ c = '[' ∨ c = '{' := by
  simp [itemSymbols]

/-- **A text that is read without an error is well formed.** -/
theorem wellFormed_of_isErrorFree_read {depth : Nat} {cs : List Char} {position : Int}
    (h : (read (some (maxNesting - depth)) position cs).IsErrorFree) : WellFormed depth cs := by
  -- on the length of the text, since an item is followed by some later part of it
  induction hn : cs.length using Nat.strongRecOn generalizing depth cs position with
  | ind n ih =>
      subst hn
      cases cs with
      | nil => exact .nil
      | cons c cs =>
          have later {ds : List Char} {e : Nat} {p : Int} (hlen : ds.length ≤ cs.length)
              (hds : (read (some (maxNesting - e)) p ds).IsErrorFree) : WellFormed e ds :=
            ih ds.length (Nat.lt_succ_of_le hlen) hds rfl
          by_cases hc : c ∈ itemSymbols
          · rcases mem_itemSymbols_iff.1 hc with hs | rfl | rfl | rfl | rfl
            · obtain ⟨hl, hrest⟩ := (isErrorFree_read_operand hs).1 h
              exact .operand hs hl (later (by simp) hrest)
            · obtain ⟨hl, hrest⟩ := isErrorFree_read_actuate.1 h
              have hlen := length_behindDigit_le cs
              exact .actuate hl (later (by rw [List.length_drop]; omega) hrest)
            · obtain ⟨text, rest, rfl, ht, hrest⟩ := isErrorFree_read_message.1 h
              exact .message ht (later (by simp; omega) hrest)
            · obtain ⟨inner, rest, rfl, hb, hinner, hrest⟩ := isErrorFree_read_loop.1 h
              obtain ⟨hd, hl, hbody⟩ := isErrorFree_readLoop.1 hinner
              exact .loop hd hb hl (later (by simp; omega) hbody) (later (by simp; omega) hrest)
            · obtain ⟨inner, rest, rfl, hb, hinner, hrest⟩ := isErrorFree_read_conditional.1 h
              obtain ⟨hd, parts, hparts, ht, ha, he⟩ := isErrorFree_readConditional.1 hinner
              obtain ⟨threshold, thenBranch, more, hs, rfl⟩ := ofText?_eq_some_iff.1 hparts
              obtain ⟨hthen, helse⟩ : thenBranch.length ≤ inner.length
                  ∧ (more.headD []).length ≤ inner.length := Conditional.length_branches hparts
              refine .conditional hd hb hs ht (later ?_ ha) ?_ (later (by simp; omega) hrest)
              · simp only [List.length_append, List.length_cons]
                omega
              · intro elseBranch hmem
                obtain ⟨more, rfl⟩ := List.head?_eq_some_iff.1 hmem
                refine later ?_ he
                simp only [List.headD_cons, List.length_append, List.length_cons] at helse ⊢
                omega
          · exact .other hc (later (Nat.le_refl _) ((isErrorFree_read_other hc).1 h))

/-- **Reading reports no error exactly for the well-formed texts.** -/
theorem isErrorFree_read_iff {depth : Nat} {cs : List Char} (position : Int) :
    (read (some (maxNesting - depth)) position cs).IsErrorFree ↔ WellFormed depth cs :=
  ⟨wellFormed_of_isErrorFree_read, fun h => h.isErrorFree_read position⟩

/-- A source is accepted when it is well formed without the blanks around it. -/
theorem isAccepted_report_iff (code : String) :
    (Dialect.dense.report code).isAccepted = true ↔ WellFormed 0 (Text.strip code.toList) := by
  rw [Report.isAccepted_iff]
  exact @isErrorFree_read_iff 0 (Text.strip code.toList) (Text.leadingBlanks code.toList)

/-- **Strict compiling succeeds exactly for the well-formed texts,** with the program that compiling
gives; every other text is refused with its report, which has errors. -/
theorem compileStrict_dense (code : String) (name? : Option String) :
    (∀ p, Dialect.dense.compileStrict code name? = .ok p
        ↔ WellFormed 0 (Text.strip code.toList)
          ∧ p = Dialect.dense.compile code (Dialect.dense.nameOr name?))
      ∧ ∀ r, Dialect.dense.compileStrict code name? = .error r
        ↔ ¬ WellFormed 0 (Text.strip code.toList)
          ∧ r = Dialect.dense.report code ∧ r.errors ≠ [] := by
  constructor
  · intro p
    rw [Dialect.compileStrict_eq_ok_iff, isAccepted_report_iff]
  · intro r
    rw [← isAccepted_report_iff, Dialect.compileStrict]
    by_cases h : (Dialect.dense.report code).isAccepted = true
    · simp [h]
    · have herrors : (Dialect.dense.report code).errors ≠ [] := by
        simpa [Report.isAccepted] using h
      rw [if_neg h]
      constructor
      · intro e
        obtain rfl := Except.error.inj e
        exact ⟨h, rfl, herrors⟩
      · rintro ⟨_, rfl, _⟩
        rfl

end Dense

end RobotShorthand
