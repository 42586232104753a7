/-
**Ultra-dense code.**

Ultra-dense code abbreviates dense code still further and is expanded into it from left to right.  An
actuator, a turn and a sensor take their operands as single characters, a digit alone is a move, and
a loop runs from one star to the first star at least two places on, so that loops do not nest.  A
shorthand without its operands, and a character that means nothing, expand to nothing.

Main definitions:

* `digitOf` — an operand: the value of an ASCII letter or digit, and −1 for anything else;
* `degreesOf?` — two characters as hexadecimal degrees;
* `Expansion` — the dense text and the diagnostics, in order;
* `expand` — **the expansion of a text** at a position of its source.

Main results:

* `expand_nil`, `expand_actuate`, … — one equation for each way that a text can begin.
-/

import RobotShorthand.Dense.Diagnostic

set_option relaxedAutoImplicit false
set_option autoImplicit false

namespace RobotShorthand

namespace Ultra

/-! ### Operands -/

/-- The value of an operand that is no digit. -/
def noDigit : Int := -1

/-- The value of an operand: a digit of base thirty-six, or `noDigit`. -/
def digitOf (c : Char) : Int :=
  match Text.alphanumericDigit? c with
  | some d => d
  | none => noDigit

/-- The value of a hexadecimal digit, which may be a decimal digit of any script. -/
def hexDigitOf? (c : Char) : Option Nat := (Text.decimalDigit? c).or (Text.hexDigit? c)

/-- Two characters as hexadecimal degrees: two digits, or a sign and one digit. -/
def degreesOf? (high low : Char) : Option Int :=
  match hexDigitOf? low with
  | none => none
  | some l =>
      if high = '+' then some l
      else if high = '-' then some (-l)
      else (hexDigitOf? high).map fun h => h * 16 + l

/-! ### Expansion -/

/-- A dense text with the diagnostics of its making, in order. -/
structure Expansion where
  dense : List Char
  diagnostics : List Diagnostic

namespace Expansion

/-- The expansion of nothing. -/
def empty : Expansion := ⟨[], []⟩

instance : Inhabited Expansion := ⟨empty⟩

/-- One expansion after another. -/
def append (x y : Expansion) : Expansion :=
  ⟨x.dense ++ y.dense, x.diagnostics ++ y.diagnostics⟩

instance : Append Expansion := ⟨append⟩

@[simp] theorem dense_append (x y : Expansion) : (x ++ y).dense = x.dense ++ y.dense := rfl

@[simp] theorem diagnostics_append (x y : Expansion) :
    (x ++ y).diagnostics = x.diagnostics ++ y.diagnostics := rfl

/-- A dense text without diagnostics. -/
def text (cs : List Char) : Expansion := ⟨cs, []⟩

/-- A single diagnostic. -/
def problem (position : Int) (p : Problem) : Expansion := ⟨[], [⟨position, p⟩]⟩

/-- An expansion between two texts. -/
def within (before after : List Char) (x : Expansion) : Expansion :=
  { x with dense := before ++ x.dense ++ after }

end Expansion

/-- The dense text that sets an actuator. -/
def actuatorText (address power : Char) : List Char :=
  '!' :: Text.decimal (digitOf address) ++ Text.decimal (digitOf power * 10)

/-- The dense text of a turn, and a diagnostic if its degrees cannot be read. -/
def turnExpansion (position : Int) (high low : Char) : Expansion :=
  match degreesOf? high low with
  | some degrees => .text ('@' :: Text.decimal degrees)
  | none => .problem (position + 1) (.malformedDegrees [high, low]) ++ .text ('@' :: Text.decimal 0)

/-- The count that a loop shorthand begins with: at least one. -/
def loopCount (c : Char) : Int := max (digitOf c) 1

theorem length_takeWhile_le (p : Char → Bool) (cs : List Char) :
    (cs.takeWhile p).length ≤ cs.length := by
  induction cs with
  | nil => simp
  | cons c cs ih => by_cases h : p c <;> simp [h]; omega

/-- The expansion of a character that takes no operands, or lacks them. -/
def single (position : Int) (c : Char) : Expansion :=
  match c with
  | '&' => .problem position (.truncated .actuator)
  | '$' => .problem position (.truncated .turn)
  | '~' => .problem position (.truncated .sensor)
  | '*' => .problem position .unclosedRepeat
  | ':' => .text [';']
  | '.' => .text ['.']
  | ',' => .text [',']
  | ';' => .text ['#']
  | c =>
      match Text.asciiDigit? c with
      | some d => .text ('>' :: Text.decimal (d * 10))
      | none => .problem position (.unknownShorthand c)

/-- **The expansion of a text** at a position of its source. -/
def expand (position : Int) : List Char → Expansion
  | [] => .empty
  | '&' :: address :: power :: cs =>
      .text (actuatorText address power) ++ expand (position + 3) cs
  | '$' :: high :: low :: cs => turnExpansion position high low ++ expand (position + 3) cs
  | '~' :: sensor :: cs =>
      .text ('?' :: Text.decimal (digitOf sensor)) ++ expand (position + 2) cs
  | '*' :: count :: cs =>
      let body := cs.takeWhile (· ≠ '*')
      if body.length < cs.length then
        (expand (position + 2) body).within ('[' :: Text.decimal (loopCount count)) [']']
          ++ expand (position + 2 + body.length + 1) (cs.drop (body.length + 1))
      else single position '*' ++ expand (position + 1) (count :: cs)
  | c :: cs => single position c ++ expand (position + 1) cs
termination_by cs => cs.length
decreasing_by
  all_goals simp only [List.length_cons, List.length_drop]
  all_goals first
    | omega
    | (simp only [body] at *
       have := length_takeWhile_le (· ≠ '*') cs
       omega)

/-! ### One equation for each beginning -/

section Equations

variable {position : Int} {cs : List Char}

@[simp] theorem expand_nil : expand position [] = .empty := by rw [expand]

theorem expand_actuate {address power : Char} :
    expand position ('&' :: address :: power :: cs) =
      .text (actuatorText address power) ++ expand (position + 3) cs := by
  rw [expand]

theorem expand_turn {high low : Char} :
    expand position ('$' :: high :: low :: cs) =
      turnExpansion position high low ++ expand (position + 3) cs := by
  rw [expand]

theorem expand_sense {sensor : Char} :
    expand position ('~' :: sensor :: cs) =
      .text ('?' :: Text.decimal (digitOf sensor)) ++ expand (position + 2) cs := by
  rw [expand]

theorem expand_repeat {count : Char} :
    expand position ('*' :: count :: cs) =
      if (cs.takeWhile (· ≠ '*')).length < cs.length then
        (expand (position + 2) (cs.takeWhile (· ≠ '*'))).within
            ('[' :: Text.decimal (loopCount count)) [']']
          ++ expand (position + 2 + (cs.takeWhile (· ≠ '*')).length + 1)
              (cs.drop ((cs.takeWhile (· ≠ '*')).length + 1))
      else single position '*' ++ expand (position + 1) (count :: cs) := by
  rw [expand]

end Equations

end Ultra

end RobotShorthand
