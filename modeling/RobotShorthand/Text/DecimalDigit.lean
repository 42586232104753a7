/-
**Decimal digits of every script.**

Unicode gives many scripts their own ten digits, always as ten neighbouring characters from zero to
nine.  A numeral written with any of them has the same value as one written with ASCII digits.

Main definitions:

* `zeroDigits` — the characters with the value zero;
* `decimalDigit?` — the value of a decimal digit of any script;
* `asciiDigit?` — the value of one of the ten ASCII digits.

Main results:

* `decimalDigit?_of_asciiDigit?` — an ASCII digit has its usual value.
-/

set_option relaxedAutoImplicit false
set_option autoImplicit false

namespace RobotShorthand

namespace Text

/-- The zero of each run of ten decimal digits, in increasing order. -/
def zeroDigits : List Nat := [
   0x0030, 0x0660, 0x06F0, 0x07C0, 0x0966, 0x09E6, 0x0A66, 0x0AE6,
   0x0B66, 0x0BE6, 0x0C66, 0x0CE6, 0x0D66, 0x0DE6, 0x0E50, 0x0ED0,
   0x0F20, 0x1040, 0x1090, 0x17E0, 0x1810, 0x1946, 0x19D0, 0x1A80,
   0x1A90, 0x1B50, 0x1BB0, 0x1C40, 0x1C50, 0xA620, 0xA8D0, 0xA900,
   0xA9D0, 0xA9F0, 0xAA50, 0xABF0, 0xFF10, 0x104A0, 0x10D30, 0x11066,
   0x110F0, 0x11136, 0x111D0, 0x112F0, 0x11450, 0x114D0, 0x11650, 0x116C0,
   0x11730, 0x118E0, 0x11950, 0x11C50, 0x11D50, 0x11DA0, 0x16A60, 0x16AC0,
   0x16B50, 0x1D7CE, 0x1D7D8, 0x1D7E2, 0x1D7EC, 0x1D7F6, 0x1E140, 0x1E2F0,
   0x1E950, 0x1FBF0]

/-- The value of a decimal digit of any script. -/
def decimalDigit? (c : Char) : Option Nat :=
  (zeroDigits.find? fun first => first ≤ c.toNat && c.toNat < first + 10).map (c.toNat - ·)

/-- The value of one of the ASCII digits `0` to `9`. -/
def asciiDigit? (c : Char) : Option Nat :=
  if 48 ≤ c.toNat ∧ c.toNat ≤ 57 then some (c.toNat - 48) else none

/-- An ASCII digit is a decimal digit with its usual value. -/
theorem decimalDigit?_of_asciiDigit? {c : Char} {d : Nat} (h : asciiDigit? c = some d) :
    decimalDigit? c = some d := by
  unfold asciiDigit? at h
  split at h
  · rename_i hc
    have h1 : (48 ≤ c.toNat && c.toNat < 48 + 10) = true := by
      simp only [Bool.and_eq_true, decide_eq_true_eq]; omega
    simp only [decimalDigit?, zeroDigits, List.find?_cons, h1, Option.map_some]
    exact h
  · exact absurd h (by simp)

theorem decimalDigit?_lt {c : Char} {d : Nat} (h : decimalDigit? c = some d) : d < 10 := by
  obtain ⟨first, hfirst, rfl⟩ := Option.map_eq_some_iff.1 h
  have hrange := List.find?_some hfirst
  simp only [Bool.and_eq_true, decide_eq_true_eq] at hrange
  omega

theorem asciiDigit?_lt {c : Char} {d : Nat} (h : asciiDigit? c = some d) : d < 10 := by
  unfold asciiDigit? at h
  split at h
  · obtain rfl := Option.some.inj h; omega
  · exact absurd h (by simp)

end Text

end RobotShorthand
