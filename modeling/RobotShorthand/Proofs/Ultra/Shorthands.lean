/-
**Taking ultra-dense code apart.**

What a text expands to is decided by its beginning: a shorthand with its operands, a loop up to its
closing star, or a character by itself, which takes no operands or lacks them.  This module says so
in one induction principle, lists the actuators that are set on the way, and shows which characters
an expansion is made of.

Main definitions:

* `IsAlone` — a character that takes no operands, or lacks them;
* `actuators` — **the operands of the actuator shorthands that are expanded,** in order, those
  inside loops included;
* `IsWord` — the dense texts that single shorthands expand to.

Main results:

* `expand_loop`, `expand_alone` — what a loop expands to, and what a character by itself;
* `shorthand_induction` — **induction along a text, one shorthand at a time;**
* `digitOf_cases`, `degreesOf?_bounds` — the values of operands;
* `endsLiteral_expand`, `mem_expand` — how an expansion begins, and the characters in it.
-/

import RobotShorthand.Proofs.Dense.Notation
import RobotShorthand.Ultra.Expansion

set_option relaxedAutoImplicit false
set_option autoImplicit false

namespace RobotShorthand

namespace Ultra

open RobotShorthand.Dense

/-! ### Beginnings -/

/-- A character that is expanded by itself in front of a text: it has no operands, or lacks them. -/
structure IsAlone (c : Char) (cs : List Char) : Prop where
  pair : c = '&' ∨ c = '$' → cs.length < 2
  one : c = '~' → cs = []
  loop : c = '*' → '*' ∉ cs.drop 1

/-- The operands of the actuator shorthands that are expanded, in order. -/
def actuators : List Char → List (Char × Char)
  | [] => []
  | '&' :: address :: power :: cs => (address, power) :: actuators cs
  | '$' :: _ :: _ :: cs => actuators cs
  | '~' :: _ :: cs => actuators cs
  | '*' :: count :: cs =>
      let body := cs.takeWhile (· ≠ '*')
      if body.length < cs.length then
        actuators body ++ actuators (cs.drop (body.length + 1))
      else actuators (count :: cs)
  | _ :: cs => actuators cs
termination_by cs => cs.length
decreasing_by
  all_goals simp only [List.length_cons, List.length_drop]
  all_goals first
    | omega
    | (simp only [body] at *
       have := length_takeWhile_le (· ≠ '*') cs
       omega)

section Equations

variable {position : Int} {c : Char} {body cs : List Char}

theorem actuators_nil : actuators [] = [] := by rw [actuators]

theorem actuators_actuate {address power : Char} :
    actuators ('&' :: address :: power :: cs) = (address, power) :: actuators cs := by
  rw [actuators]

theorem actuators_turn {high low : Char} :
    actuators ('$' :: high :: low :: cs) = actuators cs := by
  rw [actuators]

theorem actuators_sense {sensor : Char} : actuators ('~' :: sensor :: cs) = actuators cs := by
  rw [actuators]

theorem drop_behind_star (body cs : List Char) :
    (body ++ '*' :: cs).drop (body.length + 1) = cs := by simp

/-- A loop is expanded up to the first star behind its count. -/
theorem expand_loop {count : Char} (h : '*' ∉ body) :
    expand position ('*' :: count :: (body ++ '*' :: cs)) =
      (expand (position + 2) body).within ('[' :: Text.decimal (loopCount count)) [']']
        ++ expand (position + 2 + body.length + 1) cs := by
  rw [expand_repeat, takeWhile_ne_append_cons h, if_pos (by simp), drop_behind_star]

theorem actuators_loop {count : Char} (h : '*' ∉ body) :
    actuators ('*' :: count :: (body ++ '*' :: cs)) = actuators body ++ actuators cs := by
  rw [actuators, takeWhile_ne_append_cons h]
  simp only [if_pos (by simp : body.length < (body ++ '*' :: cs).length), drop_behind_star]

/-- A character by itself begins no shorthand that has its operands. -/
theorem IsAlone.not_begins (h : IsAlone c cs) (hstar : ¬ (c = '*' ∧ cs ≠ [])) :
    (∀ address power ds, c = '&' → cs = address :: power :: ds → False)
      ∧ (∀ high low ds, c = '$' → cs = high :: low :: ds → False)
      ∧ (∀ sensor ds, c = '~' → cs = sensor :: ds → False)
      ∧ ∀ count ds, c = '*' → cs = count :: ds → False := by
  refine ⟨?_, ?_, ?_, ?_⟩
  · rintro address power ds rfl rfl
    exact absurd (h.pair (.inl rfl)) (by simp)
  · rintro high low ds rfl rfl
    exact absurd (h.pair (.inr rfl)) (by simp)
  · rintro sensor ds rfl rfl
    exact absurd (h.one rfl) (by simp)
  · rintro count ds rfl rfl
    exact hstar ⟨rfl, by simp⟩

/-- A character by itself is expanded by itself, also a star without the star that closes its loop.
-/
theorem expand_alone (h : IsAlone c cs) :
    expand position (c :: cs) = single position c ++ expand (position + 1) cs := by
  by_cases hc : c = '*' ∧ cs ≠ []
  · obtain ⟨rfl, hne⟩ := hc
    obtain ⟨count, cs, rfl⟩ := List.exists_cons_of_ne_nil hne
    have hstar : '*' ∉ cs := h.loop rfl
    rw [expand_repeat, takeWhile_ne_of_not_mem hstar, if_neg (Nat.lt_irrefl _)]
  · obtain ⟨hactuate, hturn, hsense, hloop⟩ := h.not_begins hc
    rw [expand]
    · exact hactuate
    · exact hturn
    · exact hsense
    · exact hloop

theorem actuators_alone (h : IsAlone c cs) : actuators (c :: cs) = actuators cs := by
  by_cases hc : c = '*' ∧ cs ≠ []
  · obtain ⟨rfl, hne⟩ := hc
    obtain ⟨count, cs, rfl⟩ := List.exists_cons_of_ne_nil hne
    have hstar : '*' ∉ cs := h.loop rfl
    rw [actuators, takeWhile_ne_of_not_mem hstar]
    simp only [Nat.lt_irrefl, if_false]
  · obtain ⟨hactuate, hturn, hsense, hloop⟩ := h.not_begins hc
    rw [actuators]
    · exact hactuate
    · exact hturn
    · exact hsense
    · exact hloop

end Equations

/-- **Induction along a text, one shorthand at a time.** -/
theorem shorthand_induction {motive : List Char → Prop} (nil : motive [])
    (actuate : ∀ address power cs, motive cs → motive ('&' :: address :: power :: cs))
    (turn : ∀ high low cs, motive cs → motive ('$' :: high :: low :: cs))
    (sense : ∀ sensor cs, motive cs → motive ('~' :: sensor :: cs))
    (loop : ∀ count body cs, '*' ∉ body → motive body → motive cs →
      motive ('*' :: count :: (body ++ '*' :: cs)))
    (alone : ∀ c cs, IsAlone c cs → motive cs → motive (c :: cs)) (cs : List Char) : motive cs := by
  -- along the recursion of `actuators`, which is that of `expand`
  induction cs using actuators.induct with
  | case1 => exact nil
  | case2 address power cs ih => exact actuate address power cs ih
  | case3 high low cs ih => exact turn high low cs ih
  | case4 sensor cs ih => exact sense sensor cs ih
  | case5 count cs body hlt ihBody ih =>
      have hmem : '*' ∈ cs := by
        by_cases h : '*' ∈ cs
        · exact h
        · have hbody : body = cs := takeWhile_ne_of_not_mem h
          rw [hbody] at hlt
          exact absurd hlt (Nat.lt_irrefl _)
      obtain ⟨text, rest, rfl, htext⟩ := List.eq_append_cons_of_mem hmem
      have hbody : body = text := takeWhile_ne_append_cons htext rest
      rw [hbody] at ihBody ih
      rw [drop_behind_star] at ih
      exact loop count text rest htext ihBody ih
  | case6 count cs body hge ih =>
      have hmem : '*' ∉ cs := by
        intro hmem
        obtain ⟨text, rest, rfl, htext⟩ := List.eq_append_cons_of_mem hmem
        have hbody : body = text := takeWhile_ne_append_cons htext rest
        rw [hbody] at hge
        exact hge (by simp)
      exact alone '*' (count :: cs) ⟨by simp, by simp, fun _ => hmem⟩ ih
  | case7 c cs hactuate hturn hsense hloop ih =>
      refine alone c cs ⟨?_, ?_, ?_⟩ ih
      · intro hc
        rcases cs with _ | ⟨d, _ | ⟨e, cs⟩⟩
        · simp
        · simp
        · rcases hc with rfl | rfl
          · exact (hactuate d e cs rfl rfl).elim
          · exact (hturn d e cs rfl rfl).elim
      · intro hc
        cases cs with
        | nil => rfl
        | cons d cs => exact (hsense d cs hc rfl).elim
      · intro hc
        cases cs with
        | nil => simp
        | cons d cs => exact (hloop d cs hc rfl).elim

/-! ### Operands -/

/-- The value of an operand: that of a digit, that of a letter, or that of neither. -/
theorem digitOf_cases (c : Char) :
    (c.isDigit = true ∧ c.isAlphanum = true ∧ ∃ d : Nat, d < 10 ∧ digitOf c = d)
      ∨ (c.isDigit = false ∧ c.isAlphanum = true ∧ ∃ d : Nat, d < 36 ∧ 10 ≤ d ∧ digitOf c = d)
      ∨ (c.isDigit = false ∧ c.isAlphanum = false ∧ digitOf c = noDigit) := by
  by_cases hd : 48 ≤ c.toNat ∧ c.toNat ≤ 57
  · have halphanum : c.isAlphanum = true := Text.isAlphanum_iff_toNat.2 (.inl hd)
    have hvalue : digitOf c = (c.toNat - 48 : Nat) := by
      simp only [digitOf, Text.alphanumericDigit?, if_pos hd]
    exact .inl ⟨Text.isDigit_iff_toNat.2 hd, halphanum, _, by omega, hvalue⟩
  · have hdigit : c.isDigit = false := by
      rw [← Bool.not_eq_true, Text.isDigit_iff_toNat]
      exact hd
    by_cases hl : 97 ≤ c.toNat ∧ c.toNat ≤ 122
    · have halphanum : c.isAlphanum = true := Text.isAlphanum_iff_toNat.2 (.inr (.inl hl))
      have hvalue : digitOf c = (c.toNat - 97 + 10 : Nat) := by
        simp only [digitOf, Text.alphanumericDigit?, if_neg hd, if_pos hl]
      exact .inr (.inl ⟨hdigit, halphanum, _, by omega, by omega, hvalue⟩)
    · by_cases hu : 65 ≤ c.toNat ∧ c.toNat ≤ 90
      · have halphanum : c.isAlphanum = true := Text.isAlphanum_iff_toNat.2 (.inr (.inr hu))
        have hvalue : digitOf c = (c.toNat - 65 + 10 : Nat) := by
          simp only [digitOf, Text.alphanumericDigit?, if_neg hd, if_neg hl, if_pos hu]
        exact .inr (.inl ⟨hdigit, halphanum, _, by omega, by omega, hvalue⟩)
      · have halphanum : c.isAlphanum = false := by
          rw [← Bool.not_eq_true, Text.isAlphanum_iff_toNat]
          omega
        have hvalue : digitOf c = noDigit := by
          simp only [digitOf, Text.alphanumericDigit?, if_neg hd, if_neg hl, if_neg hu]
        exact .inr (.inr ⟨hdigit, halphanum, hvalue⟩)

theorem exists_digitOf {c : Char} (h : c.isAlphanum = true) :
    ∃ d : Nat, d < 36 ∧ digitOf c = d := by
  rcases digitOf_cases c with ⟨_, _, d, hd, hvalue⟩ | ⟨_, _, d, hd, _, hvalue⟩ | ⟨_, hc, _⟩
  · exact ⟨d, by omega, hvalue⟩
  · exact ⟨d, hd, hvalue⟩
  · rw [h] at hc
    exact absurd hc (by simp)

theorem digitOf_eq_noDigit {c : Char} (h : c.isAlphanum = false) : digitOf c = noDigit := by
  rcases digitOf_cases c with ⟨_, hc, _⟩ | ⟨_, hc, _⟩ | ⟨_, _, hvalue⟩
  · rw [h] at hc
    exact absurd hc (by simp)
  · rw [h] at hc
    exact absurd hc (by simp)
  · exact hvalue

theorem digitOf_bounds (c : Char) : -1 ≤ digitOf c ∧ digitOf c ≤ 35 := by
  rcases digitOf_cases c with ⟨_, _, d, hd, h⟩ | ⟨_, _, d, hd, _, h⟩ | ⟨_, _, h⟩
  · omega
  · omega
  · rw [h]
    decide

theorem isInt32_of_bounds {n : Int} (hmin : -1000 ≤ n) (hmax : n ≤ 1000) : isInt32 n = true := by
  rw [isInt32_iff]
  simp only [int32Min, int32Max]
  omega

/-! ### Words -/

/-- The characters that begin what a shorthand other than a loop expands to. -/
def leads : List Char := ['!', '@', '?', '>', ';', '.', ',', '#']

/-- The dense texts that shorthands other than loops expand to: nothing, or one of the leads with an
operand of digits and minus signs. -/
def IsWord (text : List Char) : Prop :=
  text = [] ∨ ∃ lead ∈ leads, ∃ operand, text = lead :: operand
    ∧ ∀ c ∈ operand, c = '-' ∨ c.isDigit = true

theorem isWord_nil : IsWord [] := .inl rfl

theorem isWord_lead {lead : Char} (h : lead ∈ leads) : IsWord [lead] :=
  .inr ⟨lead, h, [], rfl, fun _ hc => absurd hc List.not_mem_nil⟩

theorem isWord_decimal {lead : Char} (h : lead ∈ leads) (n : Int) :
    IsWord (lead :: Text.decimal n) := .inr ⟨lead, h, _, rfl, fun _ => mem_decimal⟩

theorem isWord_actuatorText (address power : Char) : IsWord (actuatorText address power) := by
  refine .inr ⟨'!', by decide, _, rfl, ?_⟩
  intro c hc
  rcases List.mem_append.1 hc with hc | hc
  · exact mem_decimal hc
  · exact mem_decimal hc

theorem hexDigitOf?_lt {c : Char} {d : Nat} (h : hexDigitOf? c = some d) : d < 16 := by
  rcases Option.or_eq_some_iff.1 h with h | ⟨_, h⟩
  · exact Nat.lt_trans (Text.decimalDigit?_lt h) (by decide)
  · exact of_decide_eq_true (Option.filter_eq_some_iff.1 h).2

/-- Degrees have at most two hexadecimal digits. -/
theorem degreesOf?_bounds {high low : Char} {degrees : Int}
    (h : degreesOf? high low = some degrees) :
    -255 ≤ degrees ∧ degrees ≤ 255 := by
  unfold degreesOf? at h
  split at h
  · exact absurd h (by simp)
  · rename_i l hl
    have hlow := hexDigitOf?_lt hl
    split at h
    · obtain rfl := Option.some.inj h
      omega
    · split at h
      · obtain rfl := Option.some.inj h
        omega
      · obtain ⟨_, hsome, rfl⟩ := Option.map_eq_some_iff.1 h
        obtain ⟨d, hd, hvalue⟩ := Option.bind_eq_some_iff.1 hsome
        obtain rfl := Option.some.inj hvalue
        have hhigh := hexDigitOf?_lt hd
        omega

/-- A turn is written with its degrees, or with zero if they cannot be read. -/
theorem dense_turnExpansion (position : Int) (high low : Char) :
    (turnExpansion position high low).dense
      = '@' :: Text.decimal ((degreesOf? high low).getD 0) := by
  unfold turnExpansion
  cases degreesOf? high low with
  | none => rfl
  | some degrees => rfl

/-- A character by itself expands to nothing, to a separator or an instruction without an operand,
or to a move. -/
theorem single_cases (position : Int) (c : Char) :
    (single position c).dense = []
      ∨ (∃ lead ∈ [';', '.', ',', '#'], (single position c).dense = [lead])
      ∨ ∃ d : Nat, d < 10 ∧ (single position c).dense = '>' :: Text.decimal (d * 10) := by
  unfold single
  split
  case h_9 =>
      split
      · rename_i d hd
        exact .inr (.inr ⟨d, Text.asciiDigit?_lt hd, rfl⟩)
      · exact .inl rfl
  all_goals first
    | exact .inl rfl
    | exact .inr (.inl ⟨_, by decide, rfl⟩)

theorem isWord_turn (position : Int) (high low : Char) :
    IsWord (turnExpansion position high low).dense := by
  rw [dense_turnExpansion]
  exact isWord_decimal (by decide) _

theorem isWord_single (position : Int) (c : Char) : IsWord (single position c).dense := by
  rcases single_cases position c with h | ⟨lead, hl, h⟩ | ⟨d, _, h⟩
  · rw [h]
    exact isWord_nil
  · have hall : ∀ lead ∈ [';', '.', ',', '#'], lead ∈ leads := Text.forall_mem_of_all (by decide)
    rw [h]
    exact isWord_lead (hall lead hl)
  · rw [h]
    exact isWord_decimal (by decide) _

/-! ### The characters of an expansion -/

theorem IsWord.endsLiteral {text : List Char} (h : IsWord text) : EndsLiteral text := by
  rcases h with rfl | ⟨lead, hl, operand, rfl, _⟩
  · exact endsLiteral_nil
  · have hall : ∀ lead ∈ leads, isLiteralChar lead = false := Text.forall_mem_of_all (by decide)
    exact endsLiteral_cons (hall lead hl)

/-- **An expansion ends the literal in front of it.** -/
theorem endsLiteral_expand (cs : List Char) (position : Int) :
    EndsLiteral (expand position cs).dense := by
  induction cs using shorthand_induction generalizing position with
  | nil =>
      rw [expand_nil]
      exact endsLiteral_nil
  | actuate address power cs ih =>
      rw [expand_actuate]
      exact (isWord_actuatorText address power).endsLiteral.append (ih _)
  | turn high low cs ih =>
      rw [expand_turn]
      exact (isWord_turn position high low).endsLiteral.append (ih _)
  | sense sensor cs ih =>
      have hword : IsWord ('?' :: Text.decimal (digitOf sensor)) := isWord_decimal (by decide) _
      rw [expand_sense]
      exact hword.endsLiteral.append (ih _)
  | loop count body cs hbody _ ih =>
      rw [expand_loop hbody]
      exact endsLiteral_cons (by decide)
  | alone c cs h ih =>
      rw [expand_alone h]
      exact (isWord_single position c).endsLiteral.append (ih _)

/-- The characters that words are made of. -/
def IsEmitted (c : Char) : Prop := c = '-' ∨ c.isDigit = true ∨ c ∈ leads

theorem IsWord.isEmitted {text : List Char} (h : IsWord text) : ∀ c ∈ text, IsEmitted c := by
  rcases h with rfl | ⟨lead, hl, operand, rfl, hop⟩
  · exact fun c hc => absurd hc List.not_mem_nil
  · intro c hc
    rcases List.mem_cons.1 hc with rfl | hc
    · exact .inr (.inr hl)
    · rcases hop c hc with h | h
      · exact .inl h
      · exact .inr (.inl h)

/-- **An expansion is made of words and, where a loop is, of square brackets.** -/
theorem mem_expand (cs : List Char) (position : Int) :
    ∀ c ∈ (expand position cs).dense, IsEmitted c ∨ (c ∈ ['[', ']'] ∧ '*' ∈ cs) := by
  have hword {word ds rest : List Char} {p : Int} (hw : IsWord word)
      (hsub : '*' ∈ rest → '*' ∈ ds)
      (ih : ∀ c ∈ (expand p rest).dense, IsEmitted c ∨ (c ∈ ['[', ']'] ∧ '*' ∈ rest)) :
      ∀ c ∈ word ++ (expand p rest).dense, IsEmitted c ∨ (c ∈ ['[', ']'] ∧ '*' ∈ ds) := by
    intro c hc
    rcases List.mem_append.1 hc with hc | hc
    · exact .inl (hw.isEmitted c hc)
    · rcases ih c hc with h | ⟨h, hstar⟩
      · exact .inl h
      · exact .inr ⟨h, hsub hstar⟩
  induction cs using shorthand_induction generalizing position with
  | nil =>
      rw [expand_nil]
      exact fun c hc => absurd hc List.not_mem_nil
  | actuate address power cs ih =>
      rw [expand_actuate]
      exact hword (isWord_actuatorText address power) (by simp +contextual) (ih _)
  | turn high low cs ih =>
      rw [expand_turn]
      exact hword (isWord_turn position high low) (by simp +contextual) (ih _)
  | sense sensor cs ih =>
      rw [expand_sense]
      exact hword (isWord_decimal (by decide) _) (by simp +contextual) (ih _)
  | loop count body cs hbody ihBody ih =>
      have hstar : '*' ∈ '*' :: count :: (body ++ '*' :: cs) := List.mem_cons_self ..
      rw [expand_loop hbody]
      intro c hc
      simp only [Expansion.dense_append, Expansion.within, List.mem_append, List.mem_cons,
        List.not_mem_nil, or_false] at hc
      rcases hc with (((rfl | hc) | hc) | rfl) | hc
      · exact .inr ⟨by decide, hstar⟩
      · rcases mem_decimal hc with h | h
        · exact .inl (.inl h)
        · exact .inl (.inr (.inl h))
      -- a body ends at the first star, so it has no loop
      · rcases ihBody _ c hc with h | ⟨_, h⟩
        · exact .inl h
        · exact absurd h hbody
      · exact .inr ⟨by decide, hstar⟩
      · rcases ih _ c hc with h | ⟨h, _⟩
        · exact .inl h
        · exact .inr ⟨h, hstar⟩
  | alone c cs h ih =>
      rw [expand_alone h]
      exact hword (isWord_single position c) (by simp +contextual) (ih _)

/-- Without a star in its source an expansion is balanced, since it has no square brackets. -/
theorem balanced_expand {cs : List Char} (h : '*' ∉ cs) (position : Int) :
    Balanced '[' ']' (expand position cs).dense := by
  have hbracket : ∀ c ∈ ['[', ']'], c ≠ '-' ∧ c.isDigit = false ∧ c ∉ leads :=
    Text.forall_mem_of_all (by decide)
  have hnone : ∀ c ∈ ['[', ']'], c ∉ (expand position cs).dense := by
    intro c hc hmem
    obtain ⟨hminus, hdigit, hlead⟩ := hbracket c hc
    rcases mem_expand cs position c hmem with (hc | hc | hc) | ⟨_, hstar⟩
    · exact hminus hc
    · rw [hdigit] at hc
      exact absurd hc (by simp)
    · exact hlead hc
    · exact h hstar
  exact .of_not_mem (hnone '[' (by decide)) (hnone ']' (by decide))

/-- There are no blanks to remove around an expansion. -/
theorem strip_expand (cs : List Char) (position : Int) :
    Text.strip (expand position cs).dense = (expand position cs).dense := by
  have hleads : ∀ c ∈ leads, Text.isBlank c = false := Text.forall_mem_of_all (by decide)
  have hbrackets : ∀ c ∈ ['[', ']'], Text.isBlank c = false := Text.forall_mem_of_all (by decide)
  refine Text.strip_of_forall fun c hc => ?_
  rcases mem_expand cs position c hc with (rfl | hd | hl) | ⟨hb, _⟩
  · decide
  · exact Text.isBlank_of_isDigit hd
  · exact hleads c hl
  · exact hbrackets c hb

end Ultra

end RobotShorthand
