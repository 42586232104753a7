/-
**Blank characters.**

The characters that code may be padded with, and the two cuts that depend on them: removing the
blanks around a text and cutting a text into the words between blanks.  A blank is a character of
Unicode's white space or one of the four information separators; a zero-width space is none.

Main definitions:

* `isBlank` — the blank characters;
* `stripStart`, `stripEnd`, `strip` — a text without the blanks before it, after it, around it;
* `words` — the longest blank-free pieces of a text.

Main results:

* `stripStart_append_leading` — **what is removed in front is exactly the leading blanks**;
* `isBlank_of_isWhitespace` — every character that is white space in ASCII is blank.
-/

set_option relaxedAutoImplicit false
set_option autoImplicit false

namespace RobotShorthand

namespace Text

/-- The blank characters: controls `U+0009` to `U+000D` and `U+001C` to `U+001F`, the space, next
line, no-break space, the ogham mark, the spaces of `U+2000` to `U+200A`, the line and paragraph
separators, and the narrow, mathematical and ideographic spaces. -/
def isBlank (c : Char) : Bool :=
  let n := c.toNat
  (0x09 ≤ n && n ≤ 0x0D) || (0x1C ≤ n && n ≤ 0x20) || n == 0x85 || n == 0xA0 || n == 0x1680
    || (0x2000 ≤ n && n ≤ 0x200A) || n == 0x2028 || n == 0x2029 || n == 0x202F || n == 0x205F
    || n == 0x3000

/-- White space of ASCII is blank. -/
theorem isBlank_of_isWhitespace {c : Char} (h : c.isWhitespace = true) : isBlank c = true := by
  simp only [Char.isWhitespace, Bool.or_eq_true, decide_eq_true_eq] at h
  rcases h with ((rfl | rfl) | rfl) | rfl <;> decide

/-! ### Removing the blanks around a text -/

/-- The text from its first character that is not blank. -/
def stripStart (cs : List Char) : List Char := cs.dropWhile isBlank

/-- The text up to its last character that is not blank. -/
def stripEnd (cs : List Char) : List Char := (stripStart cs.reverse).reverse

/-- The text without the blanks around it. -/
def strip (cs : List Char) : List Char := stripEnd (stripStart cs)

/-- The number of blanks in front of a text. -/
def leadingBlanks (cs : List Char) : Nat := (cs.takeWhile isBlank).length

/-- **Nothing but the leading blanks is removed in front.** -/
theorem stripStart_append_leading (cs : List Char) :
    cs.takeWhile isBlank ++ stripStart cs = cs :=
  List.takeWhile_append_dropWhile ..

@[simp] theorem strip_nil : strip [] = [] := rfl

/-! ### Words -/

/-- Reads words with the characters `current` of an unfinished word, last first. -/
def wordsFrom (current : List Char) : List Char → List (List Char)
  | [] => if current.isEmpty then [] else [current.reverse]
  | c :: cs =>
      if isBlank c then
        if current.isEmpty then wordsFrom [] cs else current.reverse :: wordsFrom [] cs
      else wordsFrom (c :: current) cs

/-- The longest blank-free pieces of a text, in order. -/
def words (cs : List Char) : List (List Char) := wordsFrom [] cs

end Text

end RobotShorthand
