/-
**Taking dense code apart.**

How a text is read is decided by its beginning: a symbol with the literal behind it, an actuator, a
bracket up to its closer, a message up to its quote, or a character by itself.  A bracket that is never
closed takes all that follows, and a quote without another one takes nothing.  This module gives one
equation for each of these beginnings and says in one induction principle that there are no others, so
that what holds of readings is proved an item at a time.

Main definitions:

* `operandInstruction` — the instruction of a symbol with a literal behind it;
* `singleReading` — the reading of a character by itself.

Main results:

* `read_operand`, `read_openLoop`, `read_openConditional`, `read_openMessage`, `read_single` — the
  equations of beginnings, beside those for closed brackets and messages;
* `item_induction` — **induction along a text, one item at a time.**
-/

import RobotShorthand.Proofs.Dense.Image

set_option relaxedAutoImplicit false
set_option autoImplicit false

namespace RobotShorthand

namespace Dense

/-! ### The equations of beginnings -/

@[simp] theorem Reading.append_empty (r : Reading) : r ++ .empty = r := by
  show Reading.append r .empty = r
  simp [Reading.append, Reading.empty]

/-- The instruction of a symbol that is followed by a literal, with the value of that literal. -/
def operandInstruction (c : Char) (n : Int) : Instruction :=
  match Symbol.ofChar c with
  | .move direction => .move direction (atLeastOne n)
  | .turn => .turn (.int n)
  | _ => senseOf n

/-- The reading of a character by itself. -/
def singleReading (position : Int) (c : Char) : Reading :=
  match Symbol.ofChar c with
  | .wait milliseconds => .instruction (.wait milliseconds)
  | .halt => .instruction .halt
  | .closer => .problem position (.unmatchedCloser c)
  | .unknown => .problem position (.unknownSymbol c)
  | _ => .empty

section Equations

variable {room : Option Nat} {position : Int} {c : Char} {cs : List Char}

theorem read_operand (h : c ∈ operandSymbols) :
    read room position (c :: cs) =
      (Literal.scan cs).reading (position + 1)
        ++ .instruction (operandInstruction c (Literal.scan cs).value)
        ++ read room (position + 1 + (Literal.scan cs).length)
            (cs.drop (Literal.scan cs).length) := by
  have hall : ∀ c ∈ operandSymbols, (Symbol.ofChar c).takesLiteral = true :=
    Text.forall_mem_of_all (by decide)
  have hliteral := hall c h
  cases hc : Symbol.ofChar c with
  | move direction => simp only [read_move hc, operandInstruction, hc]
  | turn => simp only [read_turn hc, operandInstruction, hc]
  | sense => simp only [read_sense hc, operandInstruction, hc]
  | _ =>
      rw [hc] at hliteral
      exact absurd hliteral (by simp [Symbol.takesLiteral])

theorem read_openLoop (h : (enclosedBy '[' ']' cs).isClosed = false) :
    read room position ('[' :: cs) =
      .problem position .unclosedLoop ++ readLoop room position cs := by
  rw [read_loop rfl, enclosedBy_eq_of_isClosed_eq_false (by decide) h]
  simp only [Enclosed.isClosed, Enclosed.rest, Option.isSome_none, Option.getD_none, read_nil]
  exact Reading.append_empty _

theorem read_openConditional (h : (enclosedBy '{' '}' cs).isClosed = false) :
    read room position ('{' :: cs) =
      .problem position .unclosedConditional ++ readConditional room position cs := by
  rw [read_conditional rfl, enclosedBy_eq_of_isClosed_eq_false (by decide) h]
  simp only [Enclosed.isClosed, Enclosed.rest, Option.isSome_none, Option.getD_none, read_nil]
  exact Reading.append_empty _

theorem read_openMessage (h : '"' ∉ cs) :
    read room position ('"' :: cs) =
      .problem position .unclosedMessage ++ read room (position + 1) cs := by
  rw [read_message rfl, takeWhile_ne_of_not_mem h, if_neg (Nat.lt_irrefl _)]

theorem read_single (h : c ∉ itemSymbols) :
    read room position (c :: cs) = singleReading position c ++ read room (position + 1) cs := by
  have hstart : (Symbol.ofChar c).startsItem = false := by
    cases h' : (Symbol.ofChar c).startsItem with
    | false => rfl
    | true => exact absurd (mem_itemSymbols_of_startsItem h') h
  cases hc : Symbol.ofChar c with
  | wait => simp only [read_wait hc, singleReading, hc]
  | halt => simp only [read_halt hc, singleReading, hc]
  | separator => simp only [read_separator hc, singleReading, hc, Reading.empty_append]
  | closer => simp only [read_closer hc, singleReading, hc]
  | unknown => simp only [read_unknown hc, singleReading, hc]
  | _ =>
      rw [hc] at hstart
      exact absurd hstart (by simp [Symbol.startsItem, Symbol.takesLiteral])

end Equations

/-! ### Ends of items -/

/-- The end of a text behind a literal in front of it. -/
theorem position_behind_literal (position : Int) (cs : List Char) :
    position + (Literal.scan cs).length + (cs.drop (Literal.scan cs).length).length
      = position + cs.length := by
  have hlen : (Literal.scan cs).length ≤ cs.length := length_literalText_le cs
  rw [List.length_drop]
  omega

/-- The end of a text behind the digit that addresses an actuator. -/
theorem actuatorStart_add_length (position : Int) (cs : List Char) :
    actuatorStart position cs + (actuatorDigit cs).2.length = position + 1 + cs.length := by
  have hlen := length_actuatorDigit_le cs
  rw [actuatorStart]
  omega

/-- The end of a text behind a bracket or a message in front of it. -/
theorem position_behind_closed (position : Int) (opener closer : Char) (inner rest : List Char) :
    position + inner.length + 2 + rest.length
      = position + (opener :: (inner ++ closer :: rest)).length := by
  simp only [List.length_cons, List.length_append]
  omega

theorem closed_append (opener closer : Char) (inner rest tail : List Char) :
    opener :: (inner ++ closer :: rest) ++ tail = opener :: (inner ++ closer :: (rest ++ tail)) := by
  simp

/-! ### Induction -/

/-- **Induction along a text, one item at a time.**  A loop comes with the code behind its count, and a
conditional with its branches. -/
theorem item_induction {motive : List Char → Prop} (nil : motive [])
    (operand : ∀ c cs, c ∈ operandSymbols → motive (cs.drop (Literal.scan cs).length) →
      motive (c :: cs))
    (actuate : ∀ cs, motive ((behindDigit cs).drop (Literal.scan (behindDigit cs)).length) →
      motive ('!' :: cs))
    (loop : ∀ inner rest, Balanced '[' ']' inner →
      motive (inner.drop (Literal.scan inner).length) → motive rest →
      motive ('[' :: (inner ++ ']' :: rest)))
    (openLoop : ∀ cs, (enclosedBy '[' ']' cs).isClosed = false →
      motive (cs.drop (Literal.scan cs).length) → motive ('[' :: cs))
    (conditional : ∀ inner rest, Balanced '{' '}' inner →
      (∀ parts, Conditional.ofText? inner = some parts →
        motive parts.thenBranch ∧ motive parts.elseBranch) → motive rest →
      motive ('{' :: (inner ++ '}' :: rest)))
    (openConditional : ∀ cs, (enclosedBy '{' '}' cs).isClosed = false →
      (∀ parts, Conditional.ofText? cs = some parts →
        motive parts.thenBranch ∧ motive parts.elseBranch) → motive ('{' :: cs))
    (message : ∀ text rest, '"' ∉ text → motive rest → motive ('"' :: (text ++ '"' :: rest)))
    (openMessage : ∀ cs, '"' ∉ cs → motive cs → motive ('"' :: cs))
    (single : ∀ c cs, c ∉ itemSymbols → motive cs → motive (c :: cs)) (cs : List Char) :
    motive cs := by
  -- on the length of the text, since an item is followed by some later part of it
  induction hn : cs.length using Nat.strongRecOn generalizing cs with
  | ind n ih =>
      subst hn
      cases cs with
      | nil => exact nil
      | cons c cs =>
          have later {ds : List Char} (hlen : ds.length ≤ cs.length) : motive ds :=
            ih ds.length (Nat.lt_succ_of_le hlen) ds rfl
          have branches {inner : List Char} (hlen : inner.length ≤ cs.length) (parts : Conditional)
              (hparts : Conditional.ofText? inner = some parts) :
              motive parts.thenBranch ∧ motive parts.elseBranch := by
            obtain ⟨hthen, helse⟩ := Conditional.length_branches hparts
            exact ⟨later (Nat.le_trans hthen hlen), later (Nat.le_trans helse hlen)⟩
          by_cases hc : c ∈ itemSymbols
          · rcases mem_itemSymbols_iff.1 hc with hs | rfl | rfl | rfl | rfl
            · exact operand c cs hs (later (by simp))
            · have hlen := length_behindDigit_le cs
              exact actuate cs (later (by rw [List.length_drop]; omega))
            · by_cases hq : '"' ∈ cs
              · obtain ⟨text, rest, rfl, ht⟩ := List.eq_append_cons_of_mem hq
                exact message text rest ht (later (by simp; omega))
              · exact openMessage cs hq (later (Nat.le_refl _))
            · rcases enclosedBy_cases (by decide : '[' ≠ ']') cs with
                ⟨inner, rest, rfl, hb⟩ | hopen
              · exact loop inner rest hb (later (by simp; omega)) (later (by simp; omega))
              · exact openLoop cs hopen (later (by simp))
            · rcases enclosedBy_cases (by decide : '{' ≠ '}') cs with
                ⟨inner, rest, rfl, hb⟩ | hopen
              · exact conditional inner rest hb (branches (by simp)) (later (by simp; omega))
              · exact openConditional cs hopen (branches (Nat.le_refl _))
          · exact single c cs hc (later (Nat.le_refl _))

end Dense

end RobotShorthand
