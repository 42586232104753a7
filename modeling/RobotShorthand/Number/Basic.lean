/-
**Numbers.**

A number is an integer of any size or a double, and the two stay apart: `5` and `5.0` are shown
differently.  Arithmetic on two integers is exact; an integer that meets a double is converted first,
which fails when it is beyond all doubles.  Comparison is exact for every pair.

Main definitions:

* `Number` — integers and doubles;
* `Number.text` — the text of a number;
* `Number.toFloat?`, `Number.truncate` — conversions;
* `Number.add?`, `Number.sub?`, `Number.mul?` — arithmetic;
* `Number.modulo` — the remainder with the sign of the divisor;
* `Number.lt`, `Number.le` — order.
-/

import RobotShorthand.Number.Decimal

set_option relaxedAutoImplicit false
set_option autoImplicit false

namespace RobotShorthand

/-- Integers and doubles. -/
inductive Number
  | int (n : Int)
  | float (x : Binary64)
  deriving DecidableEq, Inhabited

namespace Number

instance : Coe Int Number := ⟨int⟩

instance (n : Nat) : OfNat Number n := ⟨int n⟩

/-- The text of a number in a style for doubles. -/
def styledText (style : FloatStyle) : Number → String
  | int n => toString n
  | float x => x.text style

/-- The text of a number in listings and traces. -/
def text (n : Number) : String := n.styledText .listing

/-! ### Conversions -/

/-- The double nearest to a number; none for an integer beyond all doubles. -/
def toFloat? : Number → Option Binary64
  | int n => Binary64.ofInt? n
  | float x => some x

/-- The integer part of a number, towards zero. -/
def truncate : Number → Except Binary64.NoIntegerPart Int
  | int n => .ok n
  | float x => x.truncate

/-! ### Arithmetic -/

/-- An operation on two integers or, after conversion, on two doubles. -/
def combine? (onInts : Int → Int → Int) (onFloats : Binary64 → Binary64 → Binary64) :
    Number → Number → Option Number
  | int m, int n => some (int (onInts m n))
  | x, y => do
      let a ← x.toFloat?
      let b ← y.toFloat?
      return float (onFloats a b)

/-- A sum. -/
def add? : Number → Number → Option Number := combine? (· + ·) Binary64.add

/-- A difference. -/
def sub? : Number → Number → Option Number := combine? (· - ·) Binary64.sub

/-- A product. -/
def mul? : Number → Number → Option Number := combine? (· * ·) Binary64.mul

/-- The remainder of a double by a positive double, with the divisor's sign.  It may round up to the
divisor itself. -/
def floatModulo (x divisor : Binary64) : Binary64 :=
  match x.fmod divisor with
  | .finite s u h =>
      if u = 0 then .zero false
      else if s then (Binary64.finite s u h).add divisor else .finite s u h
  | other => other

/-- The remainder of a number by a positive integer, with the divisor's sign. -/
def modulo (divisor : Nat) : Number → Number
  | int n => int (n % divisor)
  | float x => float (floatModulo x (.ofNat divisor))

/-! ### Order -/

/-- The place of a number on the extended line, in units of `2 ^ -1074`; not-a-number has none. -/
def extended? : Number → Option Extended
  | int n => some (.units (n * unitsPerOne))
  | float x => x.extended?

/-- Exact strict order; nothing is below or above not-a-number. -/
def lt (x y : Number) : Bool :=
  match x.extended?, y.extended? with
  | some a, some b => a.lt b
  | _, _ => false

/-- Exact order; false when one side is not-a-number. -/
def le (x y : Number) : Bool :=
  match x.extended?, y.extended? with
  | some a, some b => a.le b
  | _, _ => false

end Number

end RobotShorthand
