/-
**Numeric literals.**

A literal is an optional minus sign, a decimal digit, and then the longest run of decimal digits, the
letters `a` to `f` in either case, and `x`.  A literal that begins with `0x`, behind the sign if there
is one, is read in base sixteen after every `0x` has been taken out of it; all others are read in base
ten.  What cannot be read so, or is no signed 32-bit number, is malformed; it still covers its text.

Main definitions:

* `Literal`, `Literal.scan`, `Literal.scanAt` — the literal at the front of a text, possibly empty, and
  at a place of it;
* `literalText`, `valueOf?` — the text it covers, and the value of such a text;
* `isInt32` — the signed 32-bit numbers.

Main results:

* `literalText_append_drop` — **a literal is the beginning of the text it is read from**;
* `isInt32_of_valueOf?` — the value of a literal is a signed 32-bit number.
-/

import RobotShorthand.Text.Numeral

set_option relaxedAutoImplicit false
set_option autoImplicit false

namespace RobotShorthand

namespace Dense

/-! ### Characters of literals -/

/-- The decimal digits of ASCII. -/
def isDigit (c : Char) : Bool := (Text.asciiDigit? c).isSome

/-- The characters a literal goes on with. -/
def isLiteralChar (c : Char) : Bool := (Text.hexDigit? c).isSome || c == 'x'

/-- The literal text at the front of a text; empty when none begins there. -/
def literalText : List Char → List Char
  | '-' :: c :: cs => if isDigit c then '-' :: c :: cs.takeWhile isLiteralChar else []
  | c :: cs => if isDigit c then c :: cs.takeWhile isLiteralChar else []
  | [] => []

theorem takeWhile_append_drop (p : Char → Bool) (cs : List Char) :
    cs.takeWhile p ++ cs.drop (cs.takeWhile p).length = cs := by
  induction cs with
  | nil => rfl
  | cons c cs ih =>
      by_cases h : p c = true
      · simp [h, ih]
      · simp [h]

/-- **A literal is the beginning of the text it is read from.** -/
theorem literalText_append_drop (cs : List Char) :
    literalText cs ++ cs.drop (literalText cs).length = cs := by
  fun_cases literalText cs <;> simp_all [takeWhile_append_drop]

theorem length_literalText_le (cs : List Char) : (literalText cs).length ≤ cs.length := by
  have := congrArg List.length (literalText_append_drop cs)
  rw [List.length_append] at this
  omega

/-! ### Values of literals -/

/-- The least signed 32-bit number. -/
def int32Min : Int := -2147483648

/-- The greatest signed 32-bit number. -/
def int32Max : Int := 2147483647

/-- The signed 32-bit numbers. -/
def isInt32 (n : Int) : Bool := int32Min ≤ n && n ≤ int32Max

/-- A text with a sign taken off it, and whether there was one. -/
def unsign : List Char → Bool × List Char
  | '-' :: cs => (true, cs)
  | cs => (false, cs)

/-- A natural number with the sign it was read with. -/
def signed (negative : Bool) (n : Nat) : Int := if negative then -n else n

/-- The value of one or more digits, each read by `digit?`. -/
def digitsOf? (digit? : Char → Option Nat) (base : Nat) (cs : List Char) : Option Nat :=
  if cs.isEmpty then none else (cs.mapM digit?).map (Text.digitsValue base)

/-- A decimal number: a sign and at most `Text.maxDecimalDigits` digits. -/
def decimalValue? (cs : List Char) : Option Int :=
  let (negative, ds) := unsign cs
  if ds.length ≤ Text.maxDecimalDigits then
    (digitsOf? Text.asciiDigit? 10 ds).map (signed negative)
  else none

/-- A hexadecimal number: a sign, the mark `0x` or not, and digits. -/
def hexValue? (cs : List Char) : Option Int :=
  let (negative, ds) := unsign cs
  let digits := match ds with
    | '0' :: 'x' :: rest => rest
    | rest => rest
  (digitsOf? Text.hexDigit? 16 digits).map (signed negative)

/-- A text without its marks `0x`, taken out from left to right. -/
def withoutHexMarks : List Char → List Char
  | '0' :: 'x' :: cs => withoutHexMarks cs
  | c :: cs => c :: withoutHexMarks cs
  | [] => []

/-- Whether a literal is hexadecimal: it begins with `0x`, behind the sign if there is one. -/
def isHexLiteral (cs : List Char) : Bool :=
  match (unsign cs).2 with
  | '0' :: 'x' :: _ => true
  | _ => false

/-- The value of a literal text, if it is well formed. -/
def valueOf? (text : List Char) : Option Int :=
  (if isHexLiteral text then hexValue? (withoutHexMarks text) else decimalValue? text).filter isInt32

theorem isInt32_of_valueOf? {text : List Char} {n : Int} (h : valueOf? text = some n) :
    isInt32 n = true :=
  (Option.filter_eq_some_iff.1 h).2

/-! ### Scanning -/

/-- A literal: the text it covers, and its value unless it is malformed. -/
structure Literal where
  text : List Char
  value? : Option Int

namespace Literal

/-- **The literal at the front of a text.**  Where none begins it covers nothing and has the value
zero. -/
def scan (cs : List Char) : Literal :=
  let text := literalText cs
  ⟨text, if text.isEmpty then some 0 else valueOf? text⟩

/-- The number of characters that a literal covers. -/
def length (l : Literal) : Nat := l.text.length

/-- The value of a literal; zero for a malformed one. -/
def value (l : Literal) : Int := l.value?.getD 0

/-- Whether a literal is well formed. -/
def isWellFormed (l : Literal) : Bool := l.value?.isSome

/-- **The literal at a place of a text:** its value, zero for a malformed one, the place behind it, and
whether it is well formed. -/
def scanAt (code : List Char) (start : Nat) : Int × Nat × Bool :=
  let l := scan (code.drop start)
  (l.value, start + l.length, l.isWellFormed)

/-- The value of a literal is a signed 32-bit number. -/
theorem isInt32_value (cs : List Char) : isInt32 (scan cs).value = true := by
  unfold value scan
  simp only
  split
  · rfl
  · cases h : valueOf? (literalText cs) with
    | none => rfl
    | some n => exact isInt32_of_valueOf? h

end Literal

end Dense

end RobotShorthand
