/-
**Decimal text of doubles.**

A double is written with the fewest significant digits that read back as the same double; among
numerals of that length the nearest to the exact value is taken.  Numbers from `10 ^ -4` up to but not
including `10 ^ 16` are written positionally, always with a point, the others with an exponent of at
least two digits and a sign.  Reading accepts every spelling of a decimal numeral and rounds it once.

Main definitions:

* `Binary64.ofDecimal` — the double nearest to `digits * 10 ^ exponent`;
* `Binary64.shortest` — the fewest digits that read back, with the place of the decimal point;
* `FloatStyle`, `Binary64.text` — the decisions a notation for doubles makes, and the text by them;
* `Binary64.ofText?` — the double a text denotes.

Main results:

* `ofDecimal_shortestFrom` — digits found by the search read back as the magnitude searched for.
-/

import RobotShorthand.Number.Binary64
import RobotShorthand.Text.Numeral

set_option relaxedAutoImplicit false
set_option autoImplicit false

namespace RobotShorthand

-- Powers are those of the natural numbers themselves, whatever structure is known of them elsewhere.
attribute [local instance (high)] instPowNat

/-! ### Decimal numerals as quotients -/

/-- A magnitude in units as the quotient of two numbers, for `digits * 10 ^ exponent`. -/
def decimalRatio (digits : Nat) (exponent : Int) : Nat × Nat :=
  if 0 ≤ exponent then (digits * 10 ^ exponent.toNat * unitsPerOne, 1)
  else (digits * unitsPerOne, 10 ^ (-exponent).toNat)

/-- The magnitude nearest to `digits * 10 ^ exponent`. -/
def decimalMagnitude (digits : Nat) (exponent : Int) : Nat :=
  let (n, d) := decimalRatio digits exponent
  nearestMagnitude n d

namespace Binary64

/-- The double nearest to `digits * 10 ^ exponent`, where `digits` has `count` digits.  Numerals far
above or below all doubles are not computed. -/
def ofDecimal (negative : Bool) (digits count : Nat) (exponent : Int) : Binary64 :=
  if digits = 0 then zero negative
  else if exponent > 400 then infinite negative
  else if exponent + count < -400 then zero negative
  else
    let (n, d) := decimalRatio digits exponent
    round negative n d

end Binary64

/-! ### The shortest numeral -/

/-- A decimal grid: the place of a magnitude between two neighbours `below * 10 ^ exponent` and
`(below + 1) * 10 ^ exponent`, as `rest / step` of the way. -/
structure GridPlace where
  below : Nat
  exponent : Int
  rest : Nat
  step : Nat

/-- The place of a magnitude on the grid of multiples of `10 ^ exponent`. -/
def gridPlace (units : Nat) (exponent : Int) : GridPlace :=
  let n := if 0 ≤ exponent then units else units * 10 ^ (-exponent).toNat
  let d := if 0 ≤ exponent then unitsPerOne * 10 ^ exponent.toNat else unitsPerOne
  ⟨n / d, exponent, n % d, d⟩

/-- The neighbour on the grid that reads back as the magnitude: of two the nearer, and of two equally
near the even one. -/
def GridPlace.readsBack? (place : GridPlace) (units : Nat) : Option Nat :=
  let low := decimalMagnitude place.below place.exponent = units
  let high := decimalMagnitude (place.below + 1) place.exponent = units
  if low ∧ high then
    if 2 * place.rest < place.step ∨ (2 * place.rest = place.step ∧ place.below % 2 = 0) then
      some place.below
    else some (place.below + 1)
  else if low then some place.below
  else if high then some (place.below + 1)
  else none

/-- The decimal place of the leading digit of the smallest positive double. -/
def lowestLeadingPlace : Nat := 324

/-- The exponent of the leading decimal digit of a positive magnitude. -/
def leadingExponent (units : Nat) : Int :=
  ((units * 10 ^ lowestLeadingPlace / unitsPerOne).repr.length : Int) - 1 - lowestLeadingPlace

/-- Tries ever finer grids, from the one on which the leading digit of the magnitude stands `digits`
places before the last, and gives the numeral and its exponent. -/
def shortestFrom (units : Nat) (leading : Int) : Nat → Nat → Nat × Int
  | 0, digits => ((gridPlace units (leading - digits)).below, leading - digits)
  | more + 1, digits =>
      match (gridPlace units (leading - digits)).readsBack? units with
      | some numeral => (numeral, leading - digits)
      | none => shortestFrom units leading more (digits + 1)

/-- Digits found on one of the grids tried read back as the magnitude. -/
theorem ofDecimal_shortestFrom {place : GridPlace} {units numeral : Nat}
    (h : place.readsBack? units = some numeral) :
    decimalMagnitude numeral place.exponent = units := by
  unfold GridPlace.readsBack? at h
  simp only at h
  split at h
  · rename_i both
    split at h <;> obtain rfl := Option.some.inj h
    · exact both.1
    · exact both.2
  · split at h
    · rename_i low; obtain rfl := Option.some.inj h; exact low
    · split at h
      · rename_i high; obtain rfl := Option.some.inj h; exact high
      · exact absurd h (by simp)

/-- The significant digits of a numeral, without the zeros at its end, and the number of places that
the decimal point stands right of their beginning. -/
structure Significant where
  digits : List Char
  point : Int

/-- **The shortest digits of a positive magnitude.**  Seventeen digits always read back. -/
def shortest (units : Nat) : Significant :=
  let (numeral, exponent) := shortestFrom units (leadingExponent units) 17 0
  let all := numeral.repr.toList
  ⟨(all.reverse.dropWhile (· = '0')).reverse, all.length + exponent⟩

/-! ### Writing -/

/-- What a notation for doubles decides: the words for the values that have no digits, and the decimal
exponents between which numbers are written without an exponent. -/
structure FloatStyle where
  notANumber : String
  infinity : String
  leastPositional : Int
  leastScientific : Int

/-- Listings and traces write `nan` and `inf`. -/
def FloatStyle.listing : FloatStyle := ⟨"nan", "inf", -4, 16⟩

/-- Documents write `NaN` and `Infinity`. -/
def FloatStyle.document : FloatStyle := ⟨"NaN", "Infinity", -4, 16⟩

/-- An exponent with its sign and at least two digits. -/
def exponentText (e : Int) : List Char :=
  let digits := e.natAbs.repr.toList
  (if e < 0 then '-' else '+') :: (if digits.length < 2 then '0' :: digits else digits)

namespace Significant

/-- Digits with a point between them, and zeros where there are no digits. -/
def positional (s : Significant) : List Char :=
  if s.point ≤ 0 then
    '0' :: '.' :: List.replicate (-s.point).toNat '0' ++ s.digits
  else
    let n := s.point.toNat
    if s.digits.length ≤ n then
      s.digits ++ List.replicate (n - s.digits.length) '0' ++ ['.', '0']
    else s.digits.take n ++ '.' :: s.digits.drop n

/-- Digits with a point behind the first, unless it is the only one, and an exponent. -/
def scientific (s : Significant) : List Char :=
  let mantissa := match s.digits with
    | [] => []
    | [d] => [d]
    | d :: ds => d :: '.' :: ds
  mantissa ++ 'e' :: exponentText (s.point - 1)

/-- The digits in the notation of a style. -/
def text (style : FloatStyle) (s : Significant) : List Char :=
  if style.leastPositional ≤ s.point - 1 ∧ s.point - 1 < style.leastScientific then s.positional
  else s.scientific

end Significant

namespace Binary64

/-- **The text of a double.** -/
def text (style : FloatStyle) : Binary64 → String
  | nan => style.notANumber
  | infinite s => if s then "-" ++ style.infinity else style.infinity
  | finite s u _ =>
      let body := if u = 0 then ['0', '.', '0'] else (shortest u).text style
      String.ofList (if s then '-' :: body else body)

/-! ### Reading -/

/-- Reads digits with single underscores between them as far as they go: the digits, and the rest.
`afterDigit` tells that a digit has just been read. -/
def takeDigits (afterDigit : Bool) : List Char → List Nat × List Char
  | [] => ([], [])
  | c :: cs =>
      match Text.decimalDigit? c with
      | some d => let (ds, rest) := takeDigits true cs; (d :: ds, rest)
      | none =>
          match c, cs with
          | '_', next :: _ =>
              if afterDigit ∧ (Text.decimalDigit? next).isSome then takeDigits false cs
              else ([], c :: cs)
          | _, _ => ([], c :: cs)

/-- The exponent at the end of a numeral. -/
def exponent? : List Char → Option Int
  | [] => some 0
  | e :: cs =>
      if e = 'e' ∨ e = 'E' then
        let (negative, ds) := match cs with
          | '-' :: ds => (true, ds)
          | '+' :: ds => (false, ds)
          | ds => (false, ds)
        match takeDigits false ds with
        | (d :: ds, []) =>
            let n : Int := Text.digitsValue 10 (d :: ds)
            some (if negative then -n else n)
        | _ => none
      else none

/-- An unsigned numeral or the word for a value without digits. -/
def unsigned? (negative : Bool) (cs : List Char) : Option Binary64 :=
  let word := String.ofList (cs.map Char.toLower)
  if word = "inf" ∨ word = "infinity" then some (infinite negative)
  else if word = "nan" then some nan
  else
    let (whole, afterWhole) := takeDigits false cs
    let (fraction, rest) := match afterWhole with
      | '.' :: cs => takeDigits false cs
      | cs => ([], cs)
    if whole.isEmpty ∧ fraction.isEmpty then none
    else
      let digits := whole ++ fraction
      (exponent? rest).map fun e =>
        ofDecimal negative (Text.digitsValue 10 digits) digits.length (e - fraction.length)

/-- **The double that a text denotes,** if it denotes one. -/
def ofText? (text : String) : Option Binary64 :=
  match Text.stripNumeral text.toList with
  | '-' :: cs => unsigned? true cs
  | '+' :: cs => unsigned? false cs
  | cs => unsigned? false cs

end Binary64

end RobotShorthand
