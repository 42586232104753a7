/-
**Title case.**

Names of kinds are shown in title case: a letter that does not follow a letter becomes title case and
every other letter lower case.  The Greek capital sigma becomes its final form when it ends a word.

Main definitions:

* `isFinalSigma` — whether a sigma between two texts ends a word;
* `lowerIn` — the lower case of a character between two texts;
* `titled` — a text in title case.
-/

import RobotShorthand.Text.CaseTable

set_option relaxedAutoImplicit false
set_option autoImplicit false

namespace RobotShorthand

namespace Text

/-- Whether the first character that counts is a letter with case. -/
def meetsCased (cs : List Char) : Bool :=
  match cs.dropWhile isCaseIgnorable with
  | [] => false
  | c :: _ => isCased c

/-- Whether a sigma ends a word: a letter stands before it and none after it.  `before` is the text
before it, last character first. -/
def isFinalSigma (before after : List Char) : Bool := meetsCased before && !meetsCased after

/-- The lower case of a character that stands between two texts. -/
def lowerIn (before : List Char) (c : Char) (after : List Char) : List Char :=
  if c = 'Σ' then (if isFinalSigma before after then ['ς'] else ['σ']) else lowerCase c

/-- Title case of a text that follows `before`, last character first. -/
def titledFrom (before : List Char) : List Char → List Char
  | [] => []
  | c :: cs =>
      let followsCased := match before with
        | [] => false
        | b :: _ => isCased b
      (if followsCased then lowerIn before c cs else titleCase c) ++ titledFrom (c :: before) cs

/-- **A text in title case.** -/
def titled (text : String) : String := String.ofList (titledFrom [] text.toList)

end Text

end RobotShorthand
