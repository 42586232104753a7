/-
**Quoted text.**

Messages show a piece of text between quotes.  The quotes are single unless the text has a single
quote and no double one; the quote in use and the backslash are escaped, and so is every character
that is not printable: line feed, carriage return and tab by a letter, the others by their number in
as few of two, four or eight hexadecimal digits as hold it.

Main definitions:

* `escaped` — one character of a quoted text;
* `quote` — a text between quotes;
* `quoted` — the same as a string.
-/

import RobotShorthand.Text.Numeral
import RobotShorthand.Text.Printable

set_option relaxedAutoImplicit false
set_option autoImplicit false

namespace RobotShorthand

namespace Text

/-- A character by its number. -/
def numbered (c : Char) : List Char :=
  if c.toNat < 0x100 then '\\' :: 'x' :: hexFixed 2 c.toNat
  else if c.toNat < 0x10000 then '\\' :: 'u' :: hexFixed 4 c.toNat
  else '\\' :: 'U' :: hexFixed 8 c.toNat

/-- A character inside a text quoted with `mark`. -/
def escaped (mark c : Char) : List Char :=
  if c = mark ∨ c = '\\' then ['\\', c]
  else if c = '\n' then ['\\', 'n']
  else if c = '\r' then ['\\', 'r']
  else if c = '\t' then ['\\', 't']
  else if isPrintable c then [c]
  else numbered c

/-- The quotes for a text: double only if it has a single quote and no double one. -/
def quoteMark (cs : List Char) : Char :=
  if cs.contains '\'' && !cs.contains '"' then '"' else '\''

/-- **A text between quotes.** -/
def quote (cs : List Char) : List Char :=
  let mark := quoteMark cs
  mark :: cs.flatMap (escaped mark) ++ [mark]

/-- A text between quotes, as a string. -/
def quoted (cs : List Char) : String := String.ofList (quote cs)

end Text

end RobotShorthand
