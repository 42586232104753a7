/-
**Lines.**

A text is cut into lines at every line break: line feed, carriage return or the two together, vertical
tab, form feed, the three separators of files, groups and records, next line, and the line and
paragraph separators.  A break at the end opens no further line.

Main definitions:

* `isLineBreak` — the characters that end a line;
* `lines` — the lines of a text, without their ends.
-/

set_option relaxedAutoImplicit false
set_option autoImplicit false

namespace RobotShorthand

namespace Text

/-- The characters that end a line. -/
def isLineBreak (c : Char) : Bool :=
  let n := c.toNat
  (0x0A ≤ n && n ≤ 0x0D) || (0x1C ≤ n && n ≤ 0x1E) || n == 0x85 || n == 0x2028 || n == 0x2029

/-- Cuts a text into lines; `current` holds the unfinished line, last character first, and
`afterReturn` tells that the last character was a carriage return, which a line feed completes. -/
def linesFrom (current : List Char) (afterReturn : Bool) : List Char → List (List Char)
  | [] => if current.isEmpty then [] else [current.reverse]
  | c :: cs =>
      if c = '\n' ∧ afterReturn = true then linesFrom [] false cs
      else if isLineBreak c then current.reverse :: linesFrom [] (c = '\r') cs
      else linesFrom (c :: current) false cs

/-- **The lines of a text.** -/
def lines (text : String) : List String := (linesFrom [] false text.toList).map String.ofList

end Text

end RobotShorthand
