/-
**The addresses of actuators.**

An actuator shorthand has one character for the address and one for the power.  Both are digits of base
thirty-six, and both are expanded in decimal, one directly behind the other.  Dense code takes the first
digit that it finds for the address and the rest for the value, so the two agree on where an address
ends as long as it has one digit.  A letter is expanded to two digits: the first one is the address that
is reached, and the second one moves over to the value and stands in front of the power there.  Nothing
is reported.

Main definitions:

* `motorOf`, `valueOf` — **the motor that an address reaches,** and the value that it is set to.

Main results:

* `gives_actuate_digits` — an address with a digit to spare and the digits behind it are one
  instruction;
* `exists_gives_actuatorText` — whatever its operands, a shorthand sets one actuator;
* `gives_actuatorText_cut` — what an actuator shorthand expands to sets that motor to that value,
  wherever it stands;
* `instructions_compile_actuate` — **the shorthand at the beginning of a text is the instruction to do
  so,** in front of what the rest of the text gives;
* `address_kept_iff_isDigit` — **the address is kept exactly if it is a digit.**
-/

import RobotShorthand.Proofs.Dense.Accounting
import RobotShorthand.Proofs.Ultra.Translation

set_option relaxedAutoImplicit false
set_option autoImplicit false

namespace RobotShorthand

namespace Ultra

open RobotShorthand.Dense

-- Powers are those of the natural numbers themselves, whatever structure is known of them elsewhere.
attribute [local instance (high)] instPowNat

/-! ### Where an address ends -/

/-- The motor that an address reaches: its value if that has one digit, and else the first digit. -/
def motorOf (address : Char) : Nat :=
  let n := (digitOf address).toNat
  if n < 10 then n else n / 10

/-- The value that a motor is set to: ten times the power, behind the second digit of the address if it
has one. -/
def valueOf (address power : Char) : Nat :=
  let n := (digitOf address).toNat
  let tens := 10 * (digitOf power).toNat
  if n < 10 then tens else 10 ^ (Nat.toDigits 10 tens).length * (n % 10) + tens

section Values

variable {address power : Char}

/-- A digit is a value below ten, and reaches itself. -/
theorem motorOf_of_isDigit (h : address.isDigit = true) :
    digitOf address = motorOf address ∧ motorOf address < 10 := by
  rcases digitOf_cases address with ⟨_, _, d, hd, hvalue⟩ | ⟨hdigit, _⟩ | ⟨hdigit, _⟩
  · have hmotor : motorOf address = d := by
      rw [motorOf, hvalue, Int.toNat_natCast, if_pos hd]
    rw [hmotor]
    exact ⟨hvalue, hd⟩
  · rw [h] at hdigit
    exact absurd hdigit (by simp)
  · rw [h] at hdigit
    exact absurd hdigit (by simp)

/-- A letter has two digits. -/
theorem exists_of_isDigit_eq_false (h : address.isAlphanum = true) (hdigit : address.isDigit = false) :
    ∃ n : Nat, 10 ≤ n ∧ n < 36 ∧ digitOf address = n ∧ motorOf address = n / 10 := by
  rcases digitOf_cases address with ⟨hd, _⟩ | ⟨_, _, n, hmax, hmin, hvalue⟩ | ⟨_, hletter, _⟩
  · rw [hdigit] at hd
    exact absurd hd (by simp)
  · refine ⟨n, hmin, hmax, hvalue, ?_⟩
    rw [motorOf, hvalue, Int.toNat_natCast, if_neg (Nat.not_lt.2 hmin)]
  · rw [h] at hletter
    exact absurd hletter (by simp)

/-- Behind an address of one digit there is ten times the power. -/
theorem valueOf_of_isDigit (h : address.isDigit = true) (hpower : power.isAlphanum = true) :
    (valueOf address power : Int) = 10 * digitOf power := by
  obtain ⟨hvalue, hlt⟩ := motorOf_of_isDigit h
  obtain ⟨p, _, htens⟩ := exists_digitOf hpower
  simp only [valueOf, hvalue, htens, Int.toNat_natCast, if_pos hlt]
  omega

end Values

/-! ### Reading -/

variable {levels : Nat}

/-- An address with a digit to spare and a few digits behind it are read as one instruction. -/
theorem gives_actuate_digits {head ds : List Char} {actuator : Nat} {negative : Bool} {c : Char}
    (hc : c.isDigit = true)
    (hhead : ∀ cs, actuatorDigit (head ++ cs) = (actuator, minus negative ++ c :: cs))
    (hd : ∀ c ∈ ds, c.isDigit = true) (hlen : ds.length ≤ 8) :
    Gives levels ('!' :: (head ++ ds))
      [actuateOf actuator (signed negative (Nat.ofDigitChars 10 (c :: ds) 0))] := by
  have hdigits : ∀ d ∈ c :: ds, d.isDigit = true := List.forall_mem_cons.2 ⟨hc, hd⟩
  have hlength : (c :: ds).length ≤ 9 := Nat.succ_le_succ hlen
  have hmax : (c :: ds).length ≤ Text.maxDecimalDigits := Nat.le_trans hlength (by decide)
  intro rest hrest position
  have hscan := scan_digits negative (List.cons_ne_nil c ds) hdigits hmax
    (isInt32_of_length_le hdigits hlength negative) hrest
  have hactuator : actuatorDigit (head ++ ds ++ rest)
      = (actuator, minus negative ++ (c :: ds) ++ rest) := by
    rw [List.append_assoc, hhead, List.append_assoc, List.cons_append]
  exact ⟨_, read_actuate_literal hactuator hscan⟩

/-- The power of an actuator has a few digits. -/
theorem length_power_le {n : Nat} (h : n < 36) : (Nat.toDigits 10 (10 * n)).length ≤ 8 :=
  (Nat.length_toDigits_le_iff (by decide) (by decide)).2
    (Nat.lt_of_lt_of_le (by omega : 10 * n < 360) (by decide))

theorem isDigit_digitChar_mod (n : Nat) : (n % 10).digitChar.isDigit = true := by
  simp [Nat.isDigit_digitChar, Nat.mod_lt]

/-- Of the two digits of a letter, dense code takes the first one for the address, and the second one
begins the literal. -/
theorem actuatorDigit_decimal_of_ten_le {n : Nat} (hmin : 10 ≤ n) (hmax : n < 36) (cs : List Char) :
    actuatorDigit (Text.decimal n ++ cs) = (n / 10, minus false ++ (n % 10).digitChar :: cs) := by
  have hdecimal : ∀ d : Nat, d < 36 → 10 ≤ d →
      Text.decimal d = [Nat.digitChar (d / 10), Nat.digitChar (d % 10)] := by decide
  rw [hdecimal n hmax hmin]
  exact actuatorDigit_digitChar (by omega) ((n % 10).digitChar :: cs)

/-- Without a digit an address is expanded to one character too many for an address, and the last
one is a digit of the value, behind a minus sign or none. -/
theorem exists_actuatorDigit {address : Char} (h : address.isDigit = false) :
    ∃ actuator negative c, c.isDigit = true ∧ ∀ cs,
      actuatorDigit (Text.decimal (digitOf address) ++ cs)
        = (actuator, minus negative ++ c :: cs) := by
  rcases digitOf_cases address with ⟨hd, _⟩ | ⟨_, _, d, hmax, hmin, hvalue⟩ | ⟨_, _, hvalue⟩
  · rw [h] at hd
    exact absurd hd (by simp)
  · refine ⟨d / 10, false, (d % 10).digitChar, isDigit_digitChar_mod d, fun cs => ?_⟩
    rw [hvalue]
    exact actuatorDigit_decimal_of_ten_le hmin hmax cs
  · refine ⟨0, true, '1', rfl, fun cs => ?_⟩
    rw [hvalue]
    rfl

/-- **What an actuator shorthand expands to begins with one instruction.**  Behind it there is nothing,
unless the address is no digit and the power neither a letter nor a digit. -/
theorem exists_gives_actuatorText (address power : Char) :
    ∃ text actuator value,
      actuatorText address power
          = text ++ (if address.isDigit || power.isAlphanum then [] else ['-', '1', '0'])
        ∧ Gives levels text [actuateOf actuator value] := by
  by_cases ha : address.isDigit = true
  -- the address is one digit, and the power is a literal by itself
  · refine ⟨_, _, _, ?_, gives_actuatorText ha power⟩
    rw [ha, Bool.true_or, if_pos rfl, List.append_nil]
  · rw [Bool.not_eq_true] at ha
    obtain ⟨actuator, negative, c, hc, hhead⟩ := exists_actuatorDigit ha
    by_cases hp : power.isAlphanum = true
    -- the power has no sign and goes on with the literal that the address begins
    · obtain ⟨d, hd, hvalue⟩ := exists_digitOf hp
      have hten : digitOf power * 10 = (10 * d : Nat) := by
        rw [hvalue]
        omega
      refine ⟨_, _, _, ?_, gives_actuate_digits hc hhead isDigit_of_mem_toDigits
        (length_power_le hd)⟩
      rw [hp, Bool.or_true, if_pos rfl, List.append_nil, actuatorText, hten, decimal_natCast]
      rfl
    -- the minus sign of the power ends the literal
    · rw [Bool.not_eq_true] at hp
      have hminus : Text.decimal (noDigit * 10) = ['-', '1', '0'] := rfl
      refine ⟨_, _, _, ?_, gives_actuate_digits hc hhead (fun _ h => absurd h List.not_mem_nil)
        (Nat.zero_le 8)⟩
      rw [ha, hp, Bool.or_self, if_neg (by simp), List.append_nil, actuatorText,
        digitOf_eq_noDigit hp, hminus]

/-- A minus sign, a one and a zero are three unknown symbols and no instruction. -/
theorem read_minusTen (rest : List Char) (position : Int) :
    read (some levels) position (['-', '1', '0'] ++ rest)
      = ⟨[], [⟨position, .unknownSymbol '-'⟩, ⟨position + 1, .unknownSymbol '1'⟩,
          ⟨position + 1 + 1, .unknownSymbol '0'⟩]⟩
        ++ read (some levels) (position + 1 + 1 + 1) rest := by
  rw [List.cons_append, read_unknown rfl, List.cons_append, read_unknown rfl, List.cons_append,
    read_unknown rfl, ← Reading.append_assoc, ← Reading.append_assoc]
  rfl

/-- The value of a digit in front of a number. -/
theorem ofDigitChars_digitChar_cons {d : Nat} (h : d < 10) (n : Nat) :
    Nat.ofDigitChars 10 (d.digitChar :: Nat.toDigits 10 n) 0
      = 10 ^ (Nat.toDigits 10 n).length * d + n := by
  have hd : d.digitChar.toNat - '0'.toNat = d := Nat.toNat_digitChar_sub_48_of_lt_ten h
  rw [Nat.ofDigitChars_cons, hd, Nat.mul_zero, Nat.zero_add, Nat.ofDigitChars_eq_ofDigitChars_zero,
    Nat.ofDigitChars_ten_toDigits]

/-- **What an actuator shorthand expands to** sets the motor that its address reaches, wherever it
stands. -/
theorem gives_actuatorText_cut {address power : Char} (haddress : address.isAlphanum = true)
    (hpower : power.isAlphanum = true) :
    Gives levels (actuatorText address power) [actuateOf (motorOf address) (valueOf address power)] := by
  obtain ⟨p, hp, htens⟩ := exists_digitOf hpower
  cases hdigit : address.isDigit with
  | true =>
      obtain ⟨hvalue, _⟩ := motorOf_of_isDigit hdigit
      have hgives := @gives_actuatorText levels address hdigit power
      rwa [hvalue, Int.toNat_natCast, ← valueOf_of_isDigit hdigit hpower] at hgives
  | false =>
      obtain ⟨n, hmin, hmax, hvalue, hmotor⟩ := exists_of_isDigit_eq_false haddress hdigit
      have hvalueOf : valueOf address power
          = 10 ^ (Nat.toDigits 10 (10 * p)).length * (n % 10) + 10 * p := by
        simp only [valueOf, hvalue, htens, Int.toNat_natCast, if_neg (Nat.not_lt.2 hmin)]
      have hten : digitOf power * 10 = (10 * p : Nat) := by
        rw [htens]
        omega
      have hgives := @gives_actuate_digits levels _ _ _ _ _ (isDigit_digitChar_mod n)
        (actuatorDigit_decimal_of_ten_le hmin hmax) (@isDigit_of_mem_toDigits (10 * p))
        (length_power_le hp)
      rw [ofDigitChars_digitChar_cons (Nat.mod_lt n (by decide)), ← hvalueOf, ← hmotor] at hgives
      rw [actuatorText, hten, decimal_natCast, hvalue]
      exact hgives

/-! ### Programs -/

/-- What a text expands to does not depend on where it stands. -/
theorem dense_expand (cs : List Char) (position : Int) :
    (expand position cs).dense = (expand 0 cs).dense := by
  have hsingle (c : Char) (position position' : Int) :
      (single position c).dense = (single position' c).dense := by
    unfold single
    split
    case h_9 => cases Text.asciiDigit? c <;> rfl
    all_goals rfl
  induction cs using shorthand_induction generalizing position with
  | nil => rw [expand_nil, expand_nil]
  | actuate address power cs ih =>
      simp only [expand_actuate, Expansion.dense_append, ih (position + 3), ih (0 + 3)]
  | turn high low cs ih =>
      simp only [expand_turn, Expansion.dense_append, dense_turnExpansion, ih (position + 3),
        ih (0 + 3)]
  | sense sensor cs ih =>
      simp only [expand_sense, Expansion.dense_append, ih (position + 2), ih (0 + 2)]
  | loop count body cs hbody ihBody ih =>
      simp only [expand_loop hbody, Expansion.dense_append, Expansion.within, ihBody (position + 2),
        ihBody (0 + 2), ih (position + 2 + body.length + 1), ih (0 + 2 + body.length + 1)]
  | alone c cs halone ih =>
      simp only [expand_alone halone, Expansion.dense_append, hsingle c position 0,
        ih (position + 1), ih (0 + 1)]

/-- The instructions of ultra-dense code are those of its expansion. -/
theorem instructions_compile_eq (cs : List Char) (name : String) :
    (Dialect.ultra.compile (String.ofList cs) name).instructions
      = (read (some (roomAt 0)) 0 (expand 0 cs).dense).instructions := by
  show (readAt 0 0 (Text.strip (expand 0 (String.ofList cs).toList).dense)).instructions = _
  rw [String.toList_ofList, strip_expand, readAt]

/-- **An actuator shorthand at the beginning of a text** sets the motor that its address reaches, and
what follows is what the rest of the text gives. -/
theorem instructions_compile_actuate {address power : Char} (haddress : address.isAlphanum = true)
    (hpower : power.isAlphanum = true) (cs : List Char) (name : String) :
    (Dialect.ultra.compile (String.ofList ('&' :: address :: power :: cs)) name).instructions
      = actuateOf (motorOf address) (valueOf address power)
          :: (Dialect.ultra.compile (String.ofList cs) name).instructions := by
  have hends : EndsLiteral (expand (0 + 3) cs).dense := endsLiteral_expand cs _
  obtain ⟨position, hread⟩ := gives_actuatorText_cut haddress hpower _ hends 0
  rw [instructions_compile_eq, instructions_compile_eq, expand_actuate, Expansion.dense_append]
  show (read _ 0 (actuatorText address power ++ _)).instructions = _
  rw [hread, Reading.instructions_append, instructions_read, dense_expand]
  rfl

/-- An instruction to set a motor tells which motor it is. -/
theorem eq_of_actuateOf_eq {a b : Nat} {v w : Int} (ha : a < 128) (hb : b < 128)
    (h : actuateOf a v = actuateOf b w) : a = b := by
  obtain ⟨_, hbyte, _⟩ := Instruction.actuate.inj h
  have hint : (wrapByte a).toInt = (wrapByte b).toInt := congrArg Int8.toInt hbyte
  rw [toInt_wrapByte, toInt_wrapByte] at hint
  omega

/-- **The motor that a letter reaches is that of a digit,** namely of the first digit of its value. -/
theorem exists_digit_of_isDigit_eq_false {address : Char} (haddress : address.isAlphanum = true)
    (hdigit : address.isDigit = false) :
    ∃ other : Char, other.isDigit = true ∧ digitOf other ≠ digitOf address
      ∧ motorOf other = motorOf address := by
  obtain ⟨n, hmin, hmax, hvalue, hmotor⟩ := exists_of_isDigit_eq_false haddress hdigit
  have hfirst : ∀ d : Nat, d < 10 →
      d.digitChar.isDigit = true ∧ digitOf d.digitChar = d ∧ motorOf d.digitChar = d := by
    decide
  obtain ⟨hother, hvalue', hmotor'⟩ := hfirst (n / 10) (by omega)
  refine ⟨(n / 10).digitChar, hother, ?_, ?_⟩
  · omega
  · rw [hmotor', hmotor]

/-- **The address of an actuator is kept exactly if it is a digit.**  A shorthand at the beginning of a
text, with letters or digits for its operands, sets the motor that its address reaches.  That is the
motor of the address, set to ten times the power, if the address is a digit; and exactly then no digit
of another value reaches the same motor. -/
theorem address_kept_iff_isDigit (address power : Char) (haddress : address.isAlphanum = true)
    (hpower : power.isAlphanum = true) (cs : List Char) (name : String) :
    let given := (Dialect.ultra.compile (String.ofList ('&' :: address :: power :: cs)) name).instructions
    let later := (Dialect.ultra.compile (String.ofList cs) name).instructions
    given = actuateOf (motorOf address) (valueOf address power) :: later
      ∧ (given = actuateOf (digitOf address).toNat (10 * digitOf power) :: later
          ↔ address.isDigit = true)
      ∧ ((∀ other : Char, other.isDigit = true → digitOf other ≠ digitOf address →
            motorOf other ≠ motorOf address)
          ↔ address.isDigit = true) := by
  intro given later
  have hgiven : given = actuateOf (motorOf address) (valueOf address power) :: later :=
    instructions_compile_actuate haddress hpower cs name
  refine ⟨hgiven, ?_, ?_⟩
  · rw [hgiven]
    constructor
    · intro h
      cases hdigit : address.isDigit with
      | true => rfl
      | false =>
          obtain ⟨n, hmin, hmax, hvalue, hmotor⟩ := exists_of_isDigit_eq_false haddress hdigit
          have hsame := eq_of_actuateOf_eq (by omega) (by omega) (List.cons.inj h).1
          omega
    · intro hdigit
      obtain ⟨hvalue, _⟩ := motorOf_of_isDigit hdigit
      rw [valueOf_of_isDigit hdigit hpower, hvalue, Int.toNat_natCast]
  · constructor
    · intro h
      cases hdigit : address.isDigit with
      | true => rfl
      | false =>
          obtain ⟨other, hother, hne, hmotor⟩ := exists_digit_of_isDigit_eq_false haddress hdigit
          exact absurd hmotor (h other hother hne)
    · intro hdigit other hother hne hmotor
      obtain ⟨hvalue, _⟩ := motorOf_of_isDigit hdigit
      obtain ⟨hvalue', _⟩ := motorOf_of_isDigit hother
      rw [hvalue, hvalue', hmotor] at hne
      exact hne rfl

/-- The last letter is the address of motor three, which is set to 570 instead of 70; the loop behind it
is what it is by itself. -/
theorem address_kept_iff_isDigit_last_letter :
    'z'.isAlphanum = true ∧ '7'.isAlphanum = true
      ∧ (Dialect.ultra.compile (String.ofList "&z7*2;*".toList) "ultra").instructions
          = actuateOf 3 570 :: (Dialect.ultra.compile (String.ofList "*2;*".toList) "ultra").instructions
      ∧ (Dialect.ultra.compile (String.ofList "&z7*2;*".toList) "ultra").instructions
          ≠ actuateOf 35 70 :: (Dialect.ultra.compile (String.ofList "*2;*".toList) "ultra").instructions := by
  have hoperands : 'z'.isAlphanum = true ∧ '7'.isAlphanum = true := by decide
  obtain ⟨hgiven, hkept, _⟩ :=
    address_kept_iff_isDigit 'z' '7' hoperands.1 hoperands.2 "*2;*".toList "ultra"
  have hcut : motorOf 'z' = 3 ∧ valueOf 'z' '7' = 570 := by decide
  have hdigits : digitOf 'z' = 35 ∧ digitOf '7' = 7 := by decide
  rw [hcut.1, hcut.2] at hgiven
  rw [hdigits.1, hdigits.2] at hkept
  exact ⟨hoperands.1, hoperands.2, hgiven, fun h => absurd (hkept.1 h) (by decide)⟩

/-- **An address that is a letter is cut.**  Actuator ten at fifty is motor one at fifty, and nothing is
reported: the shorthand of actuator ten and that of actuator one give the same program. -/
theorem letter_address_cut :
    digitOf 'a' = 10 ∧ digitOf '1' = 1 ∧ digitOf '5' = 5
      ∧ (Dialect.ultra.compile "&a5" "ultra").instructions = [actuateOf 1 50]
      ∧ (Dialect.ultra.compile "&15" "ultra").instructions = [actuateOf 1 50]
      ∧ (Dialect.ultra.compile "&a5" "ultra").instructions
          ≠ actuateOf 10 (10 * 5) :: (Dialect.ultra.compile "" "ultra").instructions
      ∧ (Dialect.ultra.report "&a5").diagnostics = [] := by
  have hnone : (Dialect.ultra.compile "" "ultra").instructions = [] := by
    rw [← String.ofList_nil, instructions_compile_eq, expand_nil]
    exact congrArg Reading.instructions read_nil
  have hletter : (Dialect.ultra.compile "&a5" "ultra").instructions = [actuateOf 1 50] :=
    (@instructions_compile_actuate 'a' '5' (by decide) (by decide) [] "ultra").trans
      (congrArg (actuateOf 1 50 :: ·) hnone)
  have hdigit : (Dialect.ultra.compile "&15" "ultra").instructions = [actuateOf 1 50] :=
    (@instructions_compile_actuate '1' '5' (by decide) (by decide) [] "ultra").trans
      (congrArg (actuateOf 1 50 :: ·) hnone)
  refine ⟨by decide, by decide, by decide, hletter, hdigit, fun h => ?_, by decide +kernel⟩
  rw [hletter] at h
  exact absurd (eq_of_actuateOf_eq (by decide) (by decide) (List.cons.inj h).1) (by decide)

end Ultra

end RobotShorthand
