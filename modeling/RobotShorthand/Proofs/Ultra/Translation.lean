/-
**Ultra-dense code read directly.**

Ultra-dense code is compiled by way of dense code, which reads its own symbols in a text that was
put together from pieces.  What a text is meant to stand for can be said without dense code, in one
reading from the left.  This module does that, and proves that compiling gives the same instructions
as long as the actuators are addressed by digits.  An address that is no digit is expanded to more
characters than dense code reads as an address, and there the two readings part.

Main definitions:

* `hexadecimal?`, `turnDegrees` — the integer that a text denotes in base sixteen, and **the degrees
  that two characters stand for;**
* `aloneTranslation` — the instructions of a character that takes no operands, or lacks them;
* `translation` — **the instructions that a text stands for.**

Main results:

* `turnDegrees_eq` — the expansion of a turn reads the same degrees;
* `gives_actuatorText`, `gives_turnExpansion`, `gives_single` — what single shorthands expand to is
  read as it is meant wherever it stands;
* `gives_expand` — **so is what a text expands to;**
* `instructions_compile_ultra` — **compiling ultra-dense code gives its translation.**
-/

import RobotShorthand.Program.Compilation
import RobotShorthand.Proofs.Ultra.Shorthands

set_option relaxedAutoImplicit false
set_option autoImplicit false

namespace RobotShorthand

namespace Ultra

open RobotShorthand.Dense

/-! ### Degrees -/

/-- The digits of a text of hexadecimal digits with single underscores between them; `afterDigit`
tells whether a digit has just been read, so that an underscore or the end may follow. -/
def hexadecimalDigits? (afterDigit : Bool) : List Char → Option (List Nat)
  | [] => if afterDigit then some [] else none
  | c :: cs =>
      if c = '_' then (if afterDigit then hexadecimalDigits? false cs else none)
      else match hexDigitOf? c with
        | some d => (hexadecimalDigits? true cs).map (d :: ·)
        | none => none

/-- A text of hexadecimal digits without the mark that may stand in front of them, a zero and an `x`
and perhaps an underscore. -/
def withoutMark : List Char → List Char
  | zero :: x :: cs =>
      if Text.decimalDigit? zero = some 0 ∧ (x = 'x' ∨ x = 'X') then
        match cs with
        | '_' :: ds => ds
        | ds => ds
      else zero :: x :: cs
  | cs => cs

/-- The number that a text of hexadecimal digits denotes. -/
def hexadecimalNatural? (cs : List Char) : Option Nat :=
  (hexadecimalDigits? false (withoutMark cs)).map (Text.digitsValue 16)

/-- **The integer that a text denotes in base sixteen,** if it denotes one. -/
def hexadecimal? (cs : List Char) : Option Int :=
  match Text.stripNumeral cs with
  | '-' :: ds => (hexadecimalNatural? ds).map fun n => -(n : Int)
  | '+' :: ds => (hexadecimalNatural? ds).map Int.ofNat
  | ds => (hexadecimalNatural? ds).map Int.ofNat

/-- **The degrees that two characters stand for:** zero where they denote no integer, or have a blank
around them. -/
def turnDegrees (high low : Char) : Int :=
  if Text.strip [high, low] = [high, low] then (hexadecimal? [high, low]).getD 0 else 0

theorem hexDigitOf?_of_isBlank {c : Char} (h : Text.isBlank c = true) : hexDigitOf? c = none := by
  have hn := Text.toNat_of_isBlank h
  have hletter : Text.alphanumericDigit? c = none := by
    unfold Text.alphanumericDigit?
    rw [if_neg (by omega), if_neg (by omega), if_neg (by omega)]
  rw [hexDigitOf?, Text.decimalDigit?_of_isBlank h, Text.hexDigit?, hletter]
  rfl

theorem hexadecimalNatural?_one (c : Char) : hexadecimalNatural? [c] = hexDigitOf? c := by
  have hunderscore : hexDigitOf? '_' = none := by decide
  unfold hexadecimalNatural? withoutMark hexadecimalDigits?
  by_cases hc : c = '_'
  · subst hc
    rw [hunderscore]
    rfl
  · rw [if_neg hc]
    cases hexDigitOf? c with
    | none => rfl
    | some d => simp [hexadecimalDigits?, Text.digitsValue]

theorem hexadecimalNatural?_two (high low : Char) :
    hexadecimalNatural? [high, low]
      = (hexDigitOf? low).bind fun l => (hexDigitOf? high).map fun h => h * 16 + l := by
  have hwithout : withoutMark [high, low]
      = if Text.decimalDigit? high = some 0 ∧ (low = 'x' ∨ low = 'X') then [] else [high, low] := rfl
  rw [hexadecimalNatural?, hwithout]
  by_cases hmark : Text.decimalDigit? high = some 0 ∧ (low = 'x' ∨ low = 'X')
  · -- a mark has no digits behind it, and an x is none
    have hlow : hexDigitOf? low = none := by
      rcases hmark.2 with rfl | rfl
      · decide
      · decide
    rw [if_pos hmark, hlow]
    rfl
  · rw [if_neg hmark]
    have hunderscore : hexDigitOf? '_' = none := by decide
    by_cases hhigh : high = '_'
    · subst hhigh
      rw [hunderscore]
      cases hexDigitOf? low <;> rfl
    · cases hh : hexDigitOf? high with
      | none =>
          simp only [hexadecimalDigits?, if_neg hhigh, hh]
          cases hexDigitOf? low <;> rfl
      | some h =>
          by_cases hlow : low = '_'
          · subst hlow
            rw [hunderscore]
            simp [hexadecimalDigits?, hhigh, hh]
          · cases hl : hexDigitOf? low with
            | none => simp [hexadecimalDigits?, hhigh, hlow, hh, hl]
            | some l => simp [hexadecimalDigits?, hhigh, hlow, hh, hl, Text.digitsValue]

/-- Two characters have no blanks around them if neither is one. -/
theorem strip_pair {high low : Char} :
    Text.strip [high, low] = [high, low] ↔ Text.isBlank high = false ∧ Text.isBlank low = false := by
  cases hhigh : Text.isBlank high <;> cases hlow : Text.isBlank low <;>
    simp [Text.strip, Text.stripEnd, Text.stripStart, hhigh, hlow]

theorem stripNumeral_pair {high low : Char} (hhigh : Text.isBlank high = false)
    (hlow : Text.isBlank low = false) : Text.stripNumeral [high, low] = [high, low] := by
  simp [Text.stripNumeral, Text.isNumeralBlank, hhigh, hlow]

/-- The expansion of a turn reads the same degrees. -/
theorem turnDegrees_eq (high low : Char) : turnDegrees high low = (degreesOf? high low).getD 0 := by
  unfold turnDegrees
  by_cases hblank : Text.isBlank high = false ∧ Text.isBlank low = false
  · obtain ⟨hhigh, hlow⟩ := hblank
    rw [if_pos (strip_pair.2 ⟨hhigh, hlow⟩), hexadecimal?, stripNumeral_pair hhigh hlow]
    refine congrArg (Option.getD · 0) ?_
    unfold degreesOf?
    split
    · rename_i ds heq
      obtain ⟨rfl, rfl⟩ : high = '-' ∧ [low] = ds := List.cons.inj heq
      rw [hexadecimalNatural?_one]
      cases hexDigitOf? low <;> rfl
    · rename_i ds heq
      obtain ⟨rfl, rfl⟩ : high = '+' ∧ [low] = ds := List.cons.inj heq
      rw [hexadecimalNatural?_one]
      cases hexDigitOf? low <;> rfl
    · rename_i hminus hplus
      rw [hexadecimalNatural?_two]
      cases hexDigitOf? low with
      | none => rfl
      | some l =>
          have hp : high ≠ '+' := fun h => hplus [low] (by rw [h])
          have hm : high ≠ '-' := fun h => hminus [low] (by rw [h])
          simp only [if_neg hp, if_neg hm]
          cases hexDigitOf? high <;> rfl
  · rw [if_neg fun h => hblank (strip_pair.1 h)]
    unfold degreesOf?
    cases hl : hexDigitOf? low with
    | none => rfl
    | some l =>
        have hlow : Text.isBlank low = false := by
          cases hlow : Text.isBlank low with
          | false => rfl
          | true => simp [hexDigitOf?_of_isBlank hlow] at hl
        have hhigh : Text.isBlank high = true := by
          cases hhigh : Text.isBlank high with
          | false => exact absurd ⟨hhigh, hlow⟩ hblank
          | true => rfl
        have hp : high ≠ '+' := by
          rintro rfl
          exact absurd hhigh (by decide)
        have hm : high ≠ '-' := by
          rintro rfl
          exact absurd hhigh (by decide)
        simp only [if_neg hp, if_neg hm, hexDigitOf?_of_isBlank hhigh]
        rfl

/-! ### Translation -/

/-- The instructions of a character that takes no operands, or lacks them. -/
def aloneTranslation (c : Char) : List Instruction :=
  match c with
  | '.' => [.wait 100]
  | ',' => [.wait 50]
  | ';' => [.halt]
  | c =>
      match Text.asciiDigit? c with
      | some d => [.move .forward (max (10 * d) 1)]
      | none => []

/-- **The instructions that a text stands for.**  A loop ends at the first star at least two places
behind the one that begins it. -/
def translation : List Char → List Instruction
  | [] => []
  | '&' :: address :: power :: cs =>
      actuateOf (digitOf address).toNat (10 * digitOf power) :: translation cs
  | '$' :: high :: low :: cs => .turn (.int (turnDegrees high low)) :: translation cs
  | '~' :: sensor :: cs =>
      .sense "proximity" (wrapByte (digitOf sensor)) ("s" ++ toString (digitOf sensor))
        :: translation cs
  | '*' :: count :: cs =>
      let body := cs.takeWhile (· ≠ '*')
      if body.length < cs.length then
        .loop (max (digitOf count) 1).toNat (translation body)
          :: translation (cs.drop (body.length + 1))
      else translation (count :: cs)
  | c :: cs => aloneTranslation c ++ translation cs
termination_by cs => cs.length
decreasing_by
  all_goals simp only [List.length_cons, List.length_drop]
  all_goals first
    | omega
    | (simp only [body] at *
       have := length_takeWhile_le (· ≠ '*') cs
       omega)

section Equations

variable {c : Char} {body cs : List Char}

theorem translation_nil : translation [] = [] := by rw [translation]

theorem translation_actuate {address power : Char} :
    translation ('&' :: address :: power :: cs) =
      actuateOf (digitOf address).toNat (10 * digitOf power) :: translation cs := by
  rw [translation]

theorem translation_turn {high low : Char} :
    translation ('$' :: high :: low :: cs) =
      .turn (.int (turnDegrees high low)) :: translation cs := by
  rw [translation]

theorem translation_sense {sensor : Char} :
    translation ('~' :: sensor :: cs) = senseOf (digitOf sensor) :: translation cs := by
  rw [translation]
  rfl

theorem translation_loop {count : Char} (h : '*' ∉ body) :
    translation ('*' :: count :: (body ++ '*' :: cs)) =
      .loop (max (digitOf count) 1).toNat (translation body) :: translation cs := by
  rw [translation, takeWhile_ne_append_cons h]
  simp only [if_pos (by simp : body.length < (body ++ '*' :: cs).length), drop_behind_star]

theorem translation_alone (h : IsAlone c cs) :
    translation (c :: cs) = aloneTranslation c ++ translation cs := by
  by_cases hc : c = '*' ∧ cs ≠ []
  · obtain ⟨rfl, hne⟩ := hc
    obtain ⟨count, cs, rfl⟩ := List.exists_cons_of_ne_nil hne
    have hstar : '*' ∉ cs := h.loop rfl
    rw [translation, takeWhile_ne_of_not_mem hstar]
    simp only [Nat.lt_irrefl, if_false]
    rfl
  · obtain ⟨hactuate, hturn, hsense, hloop⟩ := h.not_begins hc
    rw [translation]
    · exact hactuate
    · exact hturn
    · exact hsense
    · exact hloop

end Equations

/-! ### Single shorthands -/

variable {levels : Nat}

/-- Addressed by a digit, an actuator is read back. -/
theorem gives_actuatorText {address : Char} (h : address.isDigit = true) (power : Char) :
    Gives levels (actuatorText address power)
      [actuateOf (digitOf address).toNat (10 * digitOf power)] := by
  have hdecimal : ∀ d : Nat, d < 10 → Text.decimal d = [d.digitChar] := by decide
  have hpower := digitOf_bounds power
  have hfit : isInt32 (10 * digitOf power) = true := isInt32_of_bounds (by omega) (by omega)
  rcases digitOf_cases address with ⟨_, _, d, hd, hvalue⟩ | ⟨hdigit, _⟩ | ⟨hdigit, _⟩
  · rw [actuatorText, hvalue, hdecimal d hd, Int.mul_comm, Int.toNat_natCast]
    exact gives_actuate hd hfit
  · rw [h] at hdigit
    exact absurd hdigit (by simp)
  · rw [h] at hdigit
    exact absurd hdigit (by simp)

theorem gives_turnExpansion (position : Int) (high low : Char) :
    Gives levels (turnExpansion position high low).dense
      [.turn (.int (turnDegrees high low))] := by
  rw [dense_turnExpansion, turnDegrees_eq]
  cases h : degreesOf? high low with
  | none => exact gives_turn (by decide)
  | some degrees =>
      obtain ⟨hmin, hmax⟩ := degreesOf?_bounds h
      exact gives_turn (isInt32_of_bounds (by rw [Option.getD_some]; omega)
        (by rw [Option.getD_some]; omega))

theorem gives_sensor (sensor : Char) :
    Gives levels ('?' :: Text.decimal (digitOf sensor)) [senseOf (digitOf sensor)] := by
  obtain ⟨hmin, hmax⟩ := digitOf_bounds sensor
  exact gives_sense (isInt32_of_bounds (by omega) (by omega))

/-- A character by itself is read as it is meant, a semicolon as a halt and a colon as nothing. -/
theorem gives_single (position : Int) (c : Char) :
    Gives levels (single position c).dense (aloneTranslation c) := by
  unfold single
  split
  case h_5 => exact gives_separator rfl
  case h_6 => exact gives_wait rfl
  case h_7 => exact gives_wait rfl
  case h_8 => exact gives_halt
  case h_9 hpoint hcomma hsemicolon =>
      have hother : aloneTranslation c = match Text.asciiDigit? c with
          | some d => [.move .forward (max (10 * d) 1)]
          | none => [] := by
        unfold aloneTranslation
        split
        · exact absurd rfl hpoint
        · exact absurd rfl hcomma
        · exact absurd rfl hsemicolon
        · rfl
      rw [hother]
      cases hd : Text.asciiDigit? c with
      | none => exact .nil
      | some d =>
          have hlt := Text.asciiDigit?_lt hd
          have hmove := @gives_move levels ((d : Int) * 10) '>' .forward rfl
            (isInt32_of_bounds (by omega) (by omega))
          have hdistance : atLeastOne ((d : Int) * 10) = max (10 * d) 1 := by
            unfold atLeastOne
            omega
          rwa [hdistance] at hmove
  all_goals exact .nil

/-! ### Texts -/

/-- **What a text expands to is read as its translation,** at any depth that leaves room for a loop
if there is one. -/
theorem gives_expand (cs : List Char) {levels : Nat} (h : '*' ∈ cs → 0 < levels)
    (hdigit : ∀ operands ∈ actuators cs, operands.1.isDigit = true) (position : Int) :
    Gives levels (expand position cs).dense (translation cs) := by
  -- one shorthand at a time: what follows it is an expansion too, and so ends its literals
  induction cs using shorthand_induction generalizing levels position with
  | nil =>
      rw [expand_nil, translation_nil]
      exact .nil
  | actuate address power cs ih =>
      rw [actuators_actuate] at hdigit
      obtain ⟨haddress, hlater⟩ := List.forall_mem_cons.1 hdigit
      have hrest := ih (fun hs => h (by simp [hs])) hlater (position + 3)
      rw [expand_actuate, translation_actuate]
      exact (gives_actuatorText haddress power).append hrest (endsLiteral_expand cs _)
  | turn high low cs ih =>
      rw [actuators_turn] at hdigit
      have hrest := ih (fun hs => h (by simp [hs])) hdigit (position + 3)
      rw [expand_turn, translation_turn]
      exact (gives_turnExpansion position high low).append hrest (endsLiteral_expand cs _)
  | sense sensor cs ih =>
      rw [actuators_sense] at hdigit
      have hrest := ih (fun hs => h (by simp [hs])) hdigit (position + 2)
      rw [expand_sense, translation_sense]
      exact (gives_sensor sensor).append hrest (endsLiteral_expand cs _)
  | loop count body cs hbody ihBody ih =>
      obtain ⟨levels, rfl⟩ := Nat.exists_eq_add_one_of_ne_zero (Nat.ne_of_gt (h (by simp)))
      obtain ⟨hmin, hmax⟩ := digitOf_bounds count
      have hcount : isInt32 (loopCount count) = true :=
        isInt32_of_bounds (by unfold loopCount; omega) (by unfold loopCount; omega)
      have htimes : atLeastOne (loopCount count) = (max (digitOf count) 1).toNat := by
        unfold atLeastOne loopCount
        omega
      rw [actuators_loop hbody, List.forall_mem_append] at hdigit
      -- the body has no loop, so it is read with whatever room is left inside this one
      have hinner : Gives levels (expand (position + 2) body).dense (translation body) :=
        ihBody (fun hs => absurd hs hbody) hdigit.1 (position + 2)
      have hrest := ih (fun _ => Nat.succ_pos levels) hdigit.2 (position + 2 + body.length + 1)
      have hloop := hinner.loop hcount (endsLiteral_expand body _) (balanced_expand hbody _)
      rw [htimes] at hloop
      rw [expand_loop hbody, translation_loop hbody]
      exact hloop.append hrest (endsLiteral_expand cs _)
  | alone c cs halone ih =>
      rw [actuators_alone halone] at hdigit
      have hrest := ih (fun hs => h (List.mem_cons_of_mem _ hs)) hdigit (position + 1)
      rw [expand_alone halone, translation_alone halone]
      exact (gives_single position c).append hrest (endsLiteral_expand cs _)

/-- **Compiling ultra-dense code gives its translation,** if every actuator that it sets is addressed
by a digit. -/
theorem instructions_compile_ultra (code name : String)
    (h : ∀ operands ∈ actuators code.toList, operands.1.isDigit = true) :
    (Dialect.ultra.compile code name).instructions = translation code.toList := by
  have hroom : '*' ∈ code.toList → 0 < roomAt 0 := fun _ => by decide
  have hgives : Gives (roomAt 0) (expand 0 code.toList).dense (translation code.toList) :=
    gives_expand code.toList hroom h 0
  show (readAt 0 0 (Text.strip (expand 0 code.toList).dense)).instructions = _
  rw [strip_expand, readAt, hgives.read_eq]

/-- A patrol: a motor is set, and a turn with a sign, a sensor without a digit and a wait are
repeated; a star is the operand of an actuator, and a move by zero goes one unit. -/
theorem instructions_compile_ultra_patrol :
    (∀ operands ∈ actuators "&1z*3$-9~#.*&0*0;".toList, operands.1.isDigit = true)
      ∧ (Dialect.ultra.compile "&1z*3$-9~#.*&0*0;" "ultra").instructions =
        [actuateOf 1 350, .loop 3 [.turn (.int (-9)), .sense "proximity" (-1) "s-1", .wait 100],
          actuateOf 0 (-10), .move .forward 1, .halt] := by
  have hactuators : actuators "&1z*3$-9~#.*&0*0;".toList = [('1', 'z'), ('0', '*')] := by
    simp [actuators]
  have hdigit : ∀ operands ∈ actuators "&1z*3$-9~#.*&0*0;".toList, operands.1.isDigit = true := by
    rw [hactuators]
    decide
  have hdigits : digitOf '1' = 1 ∧ digitOf 'z' = 35 ∧ digitOf '3' = 3 ∧ digitOf '#' = -1
      ∧ digitOf '0' = 0 ∧ digitOf '*' = -1 := by decide
  have hdegrees : turnDegrees '-' '9' = -9 := by
    rw [turnDegrees_eq]
    decide
  have hzero : Text.asciiDigit? '0' = some 0 := by decide
  refine ⟨hdigit, (instructions_compile_ultra _ _ hdigit).trans ?_⟩
  simp [translation, aloneTranslation, hdigits, hdegrees, hzero]
  decide

end Ultra

end RobotShorthand
