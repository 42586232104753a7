/-
**Digits and blanks.**

Which characters are decimal digits and which are blank, and what is left of a text without the
blanks around it, from what the text is put together from.

Main results:

* `forall_mem_of_all` — what is decided for a list of characters one by one;
* `isDigit_iff_toNat`, `isAlphanum_iff_toNat` — digits, and letters and digits, by their numbers;
* `toLower_eq_digitChar_iff` — digits of bases up to sixteen in either case, by their numbers;
* `decimalDigit?_of_isBlank` — no blank is a digit;
* `stripEnd_append_cons`, `stripEnd_cons_of_blank` — the end of a text from its parts;
* `strip_of_forall` — **a text without any blanks is left alone.**
-/

import RobotShorthand.Text.Blank
import RobotShorthand.Text.DecimalDigit

set_option relaxedAutoImplicit false
set_option autoImplicit false

namespace RobotShorthand

namespace Text

/-- What holds of the characters of a list, decided one by one.  Deciding the quantifier itself may
go through all characters there are. -/
theorem forall_mem_of_all {p : Char → Prop} [DecidablePred p] {cs : List Char}
    (h : cs.all (fun c => decide (p c)) = true) : ∀ c ∈ cs, p c := by
  intro c hc
  exact of_decide_eq_true (List.all_eq_true.1 h c hc)

/-! ### Digits -/

theorem isDigit_iff_toNat {c : Char} : c.isDigit = true ↔ 48 ≤ c.toNat ∧ c.toNat ≤ 57 :=
  Char.isDigit_iff_toNat

theorem toNat_of_isDigit {c : Char} (h : c.isDigit = true) : 48 ≤ c.toNat ∧ c.toNat ≤ 57 :=
  isDigit_iff_toNat.1 h

/-- The letters and digits of ASCII. -/
theorem isAlphanum_iff_toNat {c : Char} :
    c.isAlphanum = true ↔ (48 ≤ c.toNat ∧ c.toNat ≤ 57) ∨ (97 ≤ c.toNat ∧ c.toNat ≤ 122)
      ∨ (65 ≤ c.toNat ∧ c.toNat ≤ 90) := by
  have hupper : c.isUpper = true ↔ 65 ≤ c.toNat ∧ c.toNat ≤ 90 := decide_eq_true_iff
  have hlower : c.isLower = true ↔ 97 ≤ c.toNat ∧ c.toNat ≤ 122 := by
    show (decide ('a'.val ≤ c.val) && decide (c.val ≤ 'z'.val)) = true ↔ _
    rw [Bool.and_eq_true, decide_eq_true_eq, decide_eq_true_eq]
    exact Iff.rfl
  show ((c.isUpper || c.isLower) || c.isDigit) = true ↔ _
  rw [Bool.or_eq_true, Bool.or_eq_true, hupper, hlower, isDigit_iff_toNat]
  omega

/-! ### Lower case -/

/-- A letter in lower case has the number of the one in upper case and thirty-two. -/
theorem toNat_toLower (c : Char) :
    c.toLower.toNat = if 65 ≤ c.toNat ∧ c.toNat ≤ 90 then c.toNat + 32 else c.toNat := by
  have hupper : (c.val ≥ 'A'.val ∧ c.val ≤ 'Z'.val) ↔ (65 ≤ c.toNat ∧ c.toNat ≤ 90) := by
    rw [ge_iff_le, UInt32.le_iff_toNat_le, UInt32.le_iff_toNat_le]
    exact Iff.rfl
  unfold Char.toLower
  by_cases h : 65 ≤ c.toNat ∧ c.toNat ≤ 90
  · rw [dif_pos (hupper.2 h), if_pos h]
    have hsum : (c.val + ('a'.val - 'A'.val)).toNat = (c.toNat + 32) % 4294967296 :=
      UInt32.toNat_add ..
    have hlt : c.toNat + 32 < 4294967296 := by omega
    rw [Nat.mod_eq_of_lt hlt] at hsum
    exact hsum
  · rw [dif_neg (fun hc => h (hupper.1 hc)), if_neg h]

/-- The digits of bases up to sixteen, by their numbers. -/
theorem toNat_digitChar {d : Nat} (h : d < 16) :
    d.digitChar.toNat = if d < 10 then d + 48 else d + 87 := by
  revert d
  decide

/-- **A digit of a base up to sixteen, in either case,** by the number of its character. -/
theorem toLower_eq_digitChar_iff {c : Char} {d : Nat} (h : d < 16) :
    c.toLower = d.digitChar
      ↔ d < 10 ∧ c.toNat = d + 48 ∨ 10 ≤ d ∧ (c.toNat = d + 87 ∨ c.toNat = d + 55) := by
  rw [← Char.toNat_inj, toNat_toLower, toNat_digitChar h]
  split <;> split <;> omega

/-! ### Blanks -/

/-- No blank lies among the printable characters of ASCII. -/
theorem toNat_of_isBlank {c : Char} (h : isBlank c = true) : c.toNat ≤ 32 ∨ 133 ≤ c.toNat := by
  simp only [isBlank, Bool.or_eq_true, Bool.and_eq_true, decide_eq_true_eq, beq_iff_eq] at h
  omega

/-- No blank is a decimal digit, of any script. -/
theorem decimalDigit?_of_isBlank {c : Char} (h : isBlank c = true) :
    decimalDigit? c = none := by
  have hgaps : ∀ first ∈ zeroDigits, 0x20 < first ∧ (first + 10 ≤ 0x85 ∨ 0xA0 < first)
      ∧ (first + 10 ≤ 0x1680 ∨ 0x1680 < first) ∧ (first + 10 ≤ 0x2000 ∨ 0x205F < first)
      ∧ (first + 10 ≤ 0x3000 ∨ 0x3000 < first) := by decide
  simp only [isBlank, Bool.or_eq_true, Bool.and_eq_true, decide_eq_true_eq, beq_iff_eq] at h
  rw [decimalDigit?, Option.map_eq_none_iff, List.find?_eq_none]
  intro first hfirst
  have hgap := hgaps first hfirst
  simp only [Bool.and_eq_true, decide_eq_true_eq]
  omega

theorem isBlank_of_isDigit {c : Char} (h : c.isDigit = true) : isBlank c = false := by
  have hc := toNat_of_isDigit h
  cases hb : isBlank c with
  | false => rfl
  | true =>
      have hn := toNat_of_isBlank hb
      omega

theorem stripStart_cons_of_not_blank {c : Char} (h : isBlank c = false) (cs : List Char) :
    stripStart (c :: cs) = c :: cs := by
  simp [stripStart, h]

/-- What stands in front of the last character that is not blank stays. -/
theorem stripEnd_append_cons {c : Char} (h : isBlank c = false) (as bs : List Char) :
    stripEnd (as ++ c :: bs) = as ++ c :: stripEnd bs := by
  simp only [stripEnd, stripStart, List.reverse_append, List.reverse_cons,
    List.append_assoc, List.dropWhile_append]
  split
  · rename_i hnil
    have : bs.reverse.dropWhile isBlank = [] := by simpa using hnil
    simp [this, h]
  · simp

theorem stripEnd_cons_of_blank {c : Char} (h : isBlank c = true) (cs : List Char) :
    stripEnd (c :: cs) = if stripEnd cs = [] then [] else c :: stripEnd cs := by
  simp only [stripEnd, stripStart, List.reverse_cons, List.dropWhile_append]
  split
  · rename_i hnil
    have : cs.reverse.dropWhile isBlank = [] := by simpa using hnil
    simp [this, h]
  · rename_i hnil
    have : cs.reverse.dropWhile isBlank ≠ [] := by simpa using hnil
    simp [this]

theorem stripEnd_of_forall {cs : List Char} (h : ∀ c ∈ cs, isBlank c = false) :
    stripEnd cs = cs := by
  induction cs with
  | nil => rfl
  | cons c cs ih =>
      obtain ⟨hc, hcs⟩ := List.forall_mem_cons.1 h
      have hstay := stripEnd_append_cons hc [] cs
      rw [List.nil_append, List.nil_append] at hstay
      rw [hstay, ih hcs]

/-- **A text without any blanks is left alone.** -/
theorem strip_of_forall {cs : List Char} (h : ∀ c ∈ cs, isBlank c = false) : strip cs = cs := by
  have hstart : stripStart cs = cs := by
    cases cs with
    | nil => rfl
    | cons c cs => exact stripStart_cons_of_not_blank (h c (List.mem_cons_self ..)) cs
  rw [strip, hstart, stripEnd_of_forall h]

end Text

end RobotShorthand
