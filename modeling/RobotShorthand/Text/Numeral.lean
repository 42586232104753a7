/-
**Numerals.**

The value of a sequence of digits in a base, the digits of ASCII in bases up to thirty-six, and the
reading of a whole text as an integer.  A text is read generously: blanks around it, a sign, digits of
any script, and single underscores between digits are all accepted.  It is refused when it has more
than `maxDecimalDigits` digits, leading zeros counted.

Main definitions:

* `digitsValue` — the value of digits, most significant first;
* `alphanumericDigit?` — the value of an ASCII letter or digit as a digit;
* `integer?` — the integer a text denotes;
* `decimal` — an integer in decimal;
* `hexFixed` — a number in lower-case hexadecimal, padded to a width.

Main results:

* `digitsValue_append` — appending digits multiplies by a power of the base;
* `digitsValue_lt` — **digits below the base denote a number below the power of their count**.
-/

import RobotShorthand.Text.Blank
import RobotShorthand.Text.DecimalDigit

set_option relaxedAutoImplicit false
set_option autoImplicit false

namespace RobotShorthand

namespace Text

-- Powers are those of the natural numbers themselves, whatever structure is known of them elsewhere.
attribute [local instance (high)] instPowNat

/-! ### Digits and their value -/

/-- The value of digits in a base, most significant first. -/
def digitsValue (base : Nat) (ds : List Nat) : Nat :=
  ds.foldl (fun value d => value * base + d) 0

@[simp] theorem digitsValue_nil (base : Nat) : digitsValue base [] = 0 := rfl

theorem digitsValue_concat (base : Nat) (ds : List Nat) (d : Nat) :
    digitsValue base (ds ++ [d]) = digitsValue base ds * base + d := by
  simp [digitsValue, List.foldl_append]

/-- Appending digits shifts the digits before them. -/
theorem digitsValue_append (base : Nat) (ds es : List Nat) :
    digitsValue base (ds ++ es) = digitsValue base ds * base ^ es.length + digitsValue base es := by
  have shift : ∀ (es : List Nat) (v : Nat),
      es.foldl (fun value d => value * base + d) v
        = v * base ^ es.length + es.foldl (fun value d => value * base + d) 0 := by
    intro es
    induction es with
    | nil => intro v; simp
    | cons e es ih =>
        intro v
        rw [List.foldl_cons, List.foldl_cons, ih (v * base + e), ih (0 * base + e), List.length_cons,
          Nat.pow_succ, Nat.zero_mul, Nat.zero_add, Nat.add_mul, Nat.mul_comm (base ^ es.length) base,
          Nat.mul_assoc, Nat.add_assoc]
  rw [digitsValue, List.foldl_append]
  exact shift es _

/-- **Digits below the base denote a number below the power of their count.** -/
theorem digitsValue_lt {base : Nat} : ∀ (ds : List Nat), (∀ d ∈ ds, d < base) →
    digitsValue base ds < base ^ ds.length := by
  intro ds
  induction ds with
  | nil => intro _; simp
  | cons d ds ih =>
      intro h
      have hd : d < base := h d (List.mem_cons_self ..)
      have hds := ih fun e he => h e (List.mem_cons_of_mem _ he)
      have := digitsValue_append base [d] ds
      rw [List.singleton_append] at this
      rw [this, List.length_cons, Nat.pow_succ]
      have h1 : digitsValue base [d] = d := by simp [digitsValue]
      rw [h1]
      calc d * base ^ ds.length + digitsValue base ds
          < d * base ^ ds.length + base ^ ds.length := by omega
        _ = (d + 1) * base ^ ds.length := by rw [Nat.succ_mul]
        _ ≤ base * base ^ ds.length := Nat.mul_le_mul_right _ hd
        _ = base ^ ds.length * base := Nat.mul_comm _ _

/-- The value of an ASCII digit or letter as a digit of a base up to thirty-six; the two cases of a
letter have one value. -/
def alphanumericDigit? (c : Char) : Option Nat :=
  let n := c.toNat
  if 48 ≤ n ∧ n ≤ 57 then some (n - 48)
  else if 97 ≤ n ∧ n ≤ 122 then some (n - 97 + 10)
  else if 65 ≤ n ∧ n ≤ 90 then some (n - 65 + 10)
  else none

/-- The value of an ASCII hexadecimal digit. -/
def hexDigit? (c : Char) : Option Nat := (alphanumericDigit? c).filter (· < 16)

/-! ### Reading an integer -/

/-- The most digits a decimal numeral may have, leading zeros counted. -/
def maxDecimalDigits : Nat := 4300

/-- The blanks allowed around an integer: all but the information separators. -/
def isNumeralBlank (c : Char) : Bool := isBlank c && !(0x1C ≤ c.toNat && c.toNat ≤ 0x1F)

/-- The digits of a text of decimal digits with single underscores between them; `afterDigit` tells
whether a digit has just been read, so that an underscore or the end may follow. -/
def underscoredDigits? (afterDigit : Bool) : List Char → Option (List Nat)
  | [] => if afterDigit then some [] else none
  | c :: cs =>
      if c = '_' then (if afterDigit then underscoredDigits? false cs else none)
      else match decimalDigit? c with
        | some d => (underscoredDigits? true cs).map (d :: ·)
        | none => none

/-- The number that a text of digits denotes. -/
def natural? (cs : List Char) : Option Nat :=
  match underscoredDigits? false cs with
  | some ds => if ds.length ≤ maxDecimalDigits then some (digitsValue 10 ds) else none
  | none => none

/-- A text without the blanks that may stand around an integer. -/
def stripNumeral (cs : List Char) : List Char :=
  ((cs.dropWhile isNumeralBlank).reverse.dropWhile isNumeralBlank).reverse

/-- **The integer that a text denotes,** if it denotes one. -/
def integer? (cs : List Char) : Option Int :=
  match stripNumeral cs with
  | '-' :: ds => (natural? ds).map fun n => -(n : Int)
  | '+' :: ds => (natural? ds).map Int.ofNat
  | ds => (natural? ds).map Int.ofNat

/-! ### Writing in decimal and in hexadecimal -/

/-- The decimal text of an integer. -/
def decimal (n : Int) : List Char := (toString n).toList

/-- The last `width` hexadecimal digits of a number, in lower case. -/
def hexFixed : Nat → Nat → List Char
  | 0, _ => []
  | width + 1, n => hexFixed width (n / 16) ++ [Nat.digitChar (n % 16)]

theorem length_hexFixed : ∀ width n, (hexFixed width n).length = width := by
  intro width
  induction width with
  | zero => intro n; rfl
  | succ width ih => intro n; simp [hexFixed, ih]

end Text

end RobotShorthand
