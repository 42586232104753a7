/-
**Numerals in dense code.**

A literal goes on as long as there are characters for it to take, so what a numeral means depends on
the text behind it.  This module says when it does not: a numeral is read back as it was written in
front of any text that does not begin with a character of literals.  The texts for which this
matters are decimal ones, written by `RobotShorthand.Text.decimal` or by hand with zeros in front.

Main definitions:

* `EndsLiteral` — a text that no literal in front of it runs into;
* `minus` — the sign of a numeral, or nothing.

Main results:

* `digitsOf?_asciiDigit?_eq_some_iff` — exactly the texts of decimal digits have a value as such;
* `isInt32_of_length_le` — a few digits make a number of 32 bits;
* `literalText_minus_append` — a literal is a sign or none, a digit, and what it goes on with;
* `scan_digits` — **digits with a sign or none are a literal, up to a text that ends it;**
* `scan_decimal` — **an integer of 32 bits in decimal is read back;**
* `thresholdOf?_decimal` — a threshold in decimal is read back.
-/

import RobotShorthand.Dense.Conditional
import RobotShorthand.Proofs.Text.Characters

set_option relaxedAutoImplicit false
set_option autoImplicit false

namespace RobotShorthand

namespace Dense

/-- The signed 32-bit numbers lie between the least and the greatest of them. -/
theorem isInt32_iff {n : Int} : isInt32 n = true ↔ int32Min ≤ n ∧ n ≤ int32Max := by
  simp [isInt32]

/-! ### Digits -/

/-- The value of an ASCII digit. -/
theorem asciiDigit?_of_isDigit {c : Char} (h : c.isDigit = true) :
    Text.asciiDigit? c = some (c.toNat - '0'.toNat) := if_pos (Text.toNat_of_isDigit h)

theorem isDigit_of_isDigit {c : Char} (h : c.isDigit = true) : isDigit c = true := by
  simp [isDigit, asciiDigit?_of_isDigit h]

/-- A digit goes on with a literal. -/
theorem isLiteralChar_of_isDigit {c : Char} (h : c.isDigit = true) : isLiteralChar c = true := by
  have hc := Text.toNat_of_isDigit h
  have hlt : c.toNat - 48 < 16 := by omega
  simp [isLiteralChar, Text.hexDigit?, Text.alphanumericDigit?, hc, hlt]

/-- A blank does not go on with a literal. -/
theorem isLiteralChar_of_isBlank {c : Char} (h : Text.isBlank c = true) :
    isLiteralChar c = false := by
  have hn := Text.toNat_of_isBlank h
  have hx : c ≠ 'x' := by
    rintro rfl
    exact absurd h (by decide)
  have hdigit : Text.alphanumericDigit? c = none := by
    unfold Text.alphanumericDigit?
    simp only
    rw [if_neg (by omega), if_neg (by omega), if_neg (by omega)]
  simp [isLiteralChar, Text.hexDigit?, hdigit, hx]

theorem mapM_asciiDigit? {ds : List Char} (hd : ∀ c ∈ ds, c.isDigit = true) :
    ds.mapM Text.asciiDigit? = some (ds.map fun c => c.toNat - '0'.toNat) := by
  induction ds with
  | nil => rfl
  | cons d ds ih =>
      rw [List.mapM_cons, asciiDigit?_of_isDigit (hd d (List.mem_cons_self ..)),
        ih fun c hc => hd c (List.mem_cons_of_mem _ hc)]
      rfl

theorem digitsValue_map (ds : List Char) :
    Text.digitsValue 10 (ds.map fun c => c.toNat - '0'.toNat) = Nat.ofDigitChars 10 ds 0 := by
  simp only [Text.digitsValue, List.foldl_map, Nat.ofDigitChars_eq_foldl, Nat.mul_comm]

/-- The value of decimal digits. -/
theorem digitsOf?_digits {ds : List Char} (hne : ds ≠ []) (hd : ∀ c ∈ ds, c.isDigit = true) :
    digitsOf? Text.asciiDigit? 10 ds = some (Nat.ofDigitChars 10 ds 0) := by
  rw [digitsOf?, if_neg (by simpa using hne), mapM_asciiDigit? hd, Option.map_some,
    digitsValue_map]

/-- Only digits of ASCII have a value. -/
theorem isDigit_of_asciiDigit? {c : Char} {d : Nat} (h : Text.asciiDigit? c = some d) :
    c.isDigit = true := by
  have hc : 48 ≤ c.toNat ∧ c.toNat ≤ 57 := by
    simp only [Text.asciiDigit?] at h
    split at h
    · assumption
    · exact absurd h (by simp)
  exact Text.isDigit_iff_toNat.2 hc

theorem isDigit_of_mapM_asciiDigit? {cs : List Char} {ds : List Nat}
    (h : cs.mapM Text.asciiDigit? = some ds) : ∀ c ∈ cs, c.isDigit = true := by
  induction cs generalizing ds with
  | nil => exact fun c hc => absurd hc List.not_mem_nil
  | cons c cs ih =>
      simp only [List.mapM_cons, Option.bind_eq_bind, Option.bind_eq_some_iff] at h
      obtain ⟨d, hd, ds, hds, _⟩ := h
      exact List.forall_mem_cons.2 ⟨isDigit_of_asciiDigit? hd, ih hds⟩

/-- **Exactly the texts of decimal digits have a value as such.** -/
theorem digitsOf?_asciiDigit?_eq_some_iff {cs : List Char} {n : Nat} :
    digitsOf? Text.asciiDigit? 10 cs = some n
      ↔ cs ≠ [] ∧ (∀ c ∈ cs, c.isDigit = true) ∧ Nat.ofDigitChars 10 cs 0 = n := by
  constructor
  · intro h
    have hne : cs ≠ [] := by
      rintro rfl
      exact absurd h (by simp [digitsOf?])
    have hd : ∀ c ∈ cs, c.isDigit = true := by
      rw [digitsOf?, if_neg (by simpa using hne)] at h
      obtain ⟨ds, hds, _⟩ := Option.map_eq_some_iff.1 h
      exact isDigit_of_mapM_asciiDigit? hds
    rw [digitsOf?_digits hne hd] at h
    exact ⟨hne, hd, Option.some.inj h⟩
  · rintro ⟨hne, hd, rfl⟩
    exact digitsOf?_digits hne hd

/-- Up to nine digits make a number of 32 bits, with either sign. -/
theorem isInt32_of_length_le {ds : List Char} (hd : ∀ c ∈ ds, c.isDigit = true)
    (hlen : ds.length ≤ 9) (negative : Bool) :
    isInt32 (signed negative (Nat.ofDigitChars 10 ds 0)) = true := by
  have hdigit : ∀ d ∈ ds.map fun c => c.toNat - '0'.toNat, d < 10 := by
    intro d hmem
    obtain ⟨c, hc, rfl⟩ := List.mem_map.1 hmem
    have hbound := Text.toNat_of_isDigit (hd c hc)
    have hzero : '0'.toNat = 48 := rfl
    omega
  have hlt := Text.digitsValue_lt _ hdigit
  rw [digitsValue_map, List.length_map] at hlt
  have hmax := Nat.lt_of_lt_of_le hlt (Nat.pow_le_pow_right (by decide) hlen)
  rw [isInt32_iff]
  cases negative <;> simp only [signed, int32Min, int32Max] <;> omega

/-! ### Signs -/

/-- The sign of a numeral, or nothing. -/
def minus (negative : Bool) : List Char := if negative then ['-'] else []

theorem eq_minus_of_mem {c : Char} {negative : Bool} (h : c ∈ minus negative) : c = '-' := by
  cases negative <;> simp_all [minus]

theorem ne_minus_of_isDigit {c : Char} (h : c.isDigit = true) : c ≠ '-' := by
  rintro rfl
  exact absurd h (by decide)

/-- A text is its sign and what stands behind it. -/
theorem eq_minus_append_unsign (cs : List Char) : cs = minus (unsign cs).1 ++ (unsign cs).2 := by
  fun_cases unsign cs <;> rfl

/-- A sign comes off, and no more than one. -/
theorem unsign_minus_append_of_ne (negative : Bool) {cs : List Char} (h : ∀ rest, cs ≠ '-' :: rest) :
    unsign (minus negative ++ cs) = (negative, cs) := by
  cases negative with
  | true => rfl
  | false =>
      show unsign cs = (false, cs)
      rw [unsign]
      exact h

theorem unsign_minus_append (negative : Bool) {ds : List Char}
    (hd : ∀ c ∈ ds, c.isDigit = true) : unsign (minus negative ++ ds) = (negative, ds) := by
  refine unsign_minus_append_of_ne negative ?_
  rintro rest rfl
  exact ne_minus_of_isDigit (hd '-' (List.mem_cons_self ..)) rfl

/-! ### The value of a numeral -/

/-- Digits make no hexadecimal literal. -/
theorem isHexLiteral_minus_append (negative : Bool) {ds : List Char}
    (hd : ∀ c ∈ ds, c.isDigit = true) : isHexLiteral (minus negative ++ ds) = false := by
  have hx : 'x' ∉ ds := fun h => absurd (hd 'x' h) (by decide)
  rw [isHexLiteral, unsign_minus_append negative hd]
  split
  · simp_all
  · rfl

/-- **The value of digits with a sign or none,** as long as they are not too many and it fits. -/
theorem valueOf?_digits (negative : Bool) {ds : List Char} (hne : ds ≠ [])
    (hd : ∀ c ∈ ds, c.isDigit = true) (hlen : ds.length ≤ Text.maxDecimalDigits)
    (hfit : isInt32 (signed negative (Nat.ofDigitChars 10 ds 0)) = true) :
    valueOf? (minus negative ++ ds) = some (signed negative (Nat.ofDigitChars 10 ds 0)) := by
  have hvalue : decimalValue? (minus negative ++ ds)
      = some (signed negative (Nat.ofDigitChars 10 ds 0)) := by
    rw [decimalValue?, unsign_minus_append negative hd]
    simp only [if_pos hlen, digitsOf?_digits hne hd, Option.map_some]
  rw [valueOf?, isHexLiteral_minus_append negative hd, if_neg (by simp), hvalue]
  simp [Option.filter, hfit]

/-! ### Literals in front of a text -/

/-- A text that no literal in front of it runs into. -/
def EndsLiteral (cs : List Char) : Prop := ∀ c ∈ cs.head?, isLiteralChar c = false

theorem endsLiteral_nil : EndsLiteral [] := by simp [EndsLiteral]

theorem endsLiteral_cons {c : Char} {cs : List Char} (h : isLiteralChar c = false) :
    EndsLiteral (c :: cs) := by simpa [EndsLiteral] using h

theorem EndsLiteral.append {cs ds : List Char} (hc : EndsLiteral cs) (hd : EndsLiteral ds) :
    EndsLiteral (cs ++ ds) := by
  cases cs with
  | nil => exact hd
  | cons c cs => exact hc

theorem takeWhile_of_endsLiteral {cs : List Char} (h : EndsLiteral cs) :
    cs.takeWhile isLiteralChar = [] := by
  cases cs with
  | nil => rfl
  | cons c cs => simp [h c rfl]

/-- **A literal is a sign or none, a digit, and all characters with which it goes on.** -/
theorem literalText_minus_append (negative : Bool) {digit : Char} (hdigit : digit.isDigit = true)
    (cs : List Char) : literalText (minus negative ++ digit :: cs)
      = minus negative ++ digit :: cs.takeWhile isLiteralChar := by
  cases negative with
  | true => simp [minus, literalText, isDigit_of_isDigit hdigit]
  | false =>
      show literalText (digit :: cs) = digit :: cs.takeWhile isLiteralChar
      rw [literalText, if_pos (isDigit_of_isDigit hdigit)]
      exact fun _ _ hminus => absurd hminus (ne_minus_of_isDigit hdigit)

/-- The literal in front of a text that ends it. -/
theorem literalText_digits (negative : Bool) {ds rest : List Char} (hne : ds ≠ [])
    (hd : ∀ c ∈ ds, c.isDigit = true) (hrest : EndsLiteral rest) :
    literalText (minus negative ++ ds ++ rest) = minus negative ++ ds := by
  obtain ⟨d, ds, rfl⟩ := List.exists_cons_of_ne_nil hne
  obtain ⟨hd0, hds⟩ := List.forall_mem_cons.1 hd
  rw [List.append_assoc, List.cons_append, literalText_minus_append negative hd0,
    List.takeWhile_append_of_pos fun c hc => isLiteralChar_of_isDigit (hds c hc),
    takeWhile_of_endsLiteral hrest, List.append_nil]

/-- **Digits with a sign or none are a literal,** up to a text that ends it. -/
theorem scan_digits (negative : Bool) {ds rest : List Char} (hne : ds ≠ [])
    (hd : ∀ c ∈ ds, c.isDigit = true) (hlen : ds.length ≤ Text.maxDecimalDigits)
    (hfit : isInt32 (signed negative (Nat.ofDigitChars 10 ds 0)) = true)
    (hrest : EndsLiteral rest) :
    Literal.scan (minus negative ++ ds ++ rest)
      = ⟨minus negative ++ ds, some (signed negative (Nat.ofDigitChars 10 ds 0))⟩ := by
  rw [Literal.scan, literalText_digits negative hne hd hrest,
    valueOf?_digits negative hne hd hlen hfit]
  simp [hne]

/-! ### Integers in decimal -/

/-- An integer in decimal is its sign and the digits of its magnitude. -/
theorem decimal_eq (n : Int) :
    Text.decimal n = minus (n < 0) ++ Nat.toDigits 10 n.natAbs := by
  cases n with
  | ofNat m => simp [Text.decimal, minus, toString, Int.repr, Nat.toList_repr]
  | negSucc m => simp [Text.decimal, minus, toString, Int.repr, Nat.toList_repr]

theorem isDigit_of_mem_toDigits {n : Nat} : ∀ c ∈ Nat.toDigits 10 n, c.isDigit = true :=
  fun _ hc => Nat.isDigit_of_mem_toDigits (by decide) (by decide) hc

theorem decimal_natCast (n : Nat) : Text.decimal n = Nat.toDigits 10 n := by
  rw [decimal_eq, Int.natAbs_natCast]
  simp [minus]

/-- An integer in decimal has nothing but digits and a minus sign. -/
theorem mem_decimal {n : Int} {c : Char} (h : c ∈ Text.decimal n) :
    c = '-' ∨ c.isDigit = true := by
  rw [decimal_eq, List.mem_append] at h
  rcases h with h | h
  · exact .inl (eq_minus_of_mem h)
  · exact .inr (isDigit_of_mem_toDigits c h)

theorem signed_natAbs (n : Int) : signed (n < 0) n.natAbs = n := by
  unfold signed
  by_cases h : n < 0
  · rw [decide_eq_true h, if_pos rfl]
    omega
  · rw [decide_eq_false h, if_neg (by simp)]
    omega

/-- An integer of 32 bits has few digits. -/
theorem length_toDigits_le {n : Int} (h : isInt32 n = true) :
    (Nat.toDigits 10 n.natAbs).length ≤ Text.maxDecimalDigits := by
  have hn : n.natAbs < 10 ^ 10 := by
    obtain ⟨hmin, hmax⟩ := isInt32_iff.1 h
    simp only [int32Min, int32Max] at hmin hmax
    omega
  exact Nat.le_trans ((Nat.length_toDigits_le_iff (by decide) (by decide)).2 hn) (by decide)

/-- **An integer of 32 bits in decimal is read back,** up to a text that ends the literal. -/
theorem scan_decimal {n : Int} (h : isInt32 n = true) {rest : List Char}
    (hrest : EndsLiteral rest) :
    Literal.scan (Text.decimal n ++ rest) = ⟨Text.decimal n, some n⟩ := by
  have hvalue : signed (n < 0) (Nat.ofDigitChars 10 (Nat.toDigits 10 n.natAbs) 0) = n := by
    rw [Nat.ofDigitChars_ten_toDigits, signed_natAbs]
  have hscan := scan_digits (n < 0) Nat.toDigits_ne_nil isDigit_of_mem_toDigits
    (length_toDigits_le h) (by rwa [hvalue]) hrest
  rwa [hvalue, ← decimal_eq] at hscan

/-! ### Thresholds in decimal -/

theorem unsignThreshold_minus_append (negative : Bool) {ds : List Char}
    (hd : ∀ c ∈ ds, c.isDigit = true) :
    unsignThreshold (minus negative ++ ds) = (negative, ds) := by
  cases negative with
  | true => rfl
  | false =>
      cases ds with
      | nil => rfl
      | cons d ds =>
          have hd0 : d.isDigit = true := hd d (List.mem_cons_self ..)
          have hp : d ≠ '+' := by
            rintro rfl
            exact absurd hd0 (by decide)
          simp [minus, unsignThreshold, ne_minus_of_isDigit hd0, hp]

/-- **A threshold in decimal is read back.** -/
theorem thresholdOf?_decimal {n : Int} (h : isInt32 n = true) :
    thresholdOf? (Text.decimal n) = some n := by
  rw [decimal_eq, thresholdOf?, unsignThreshold_minus_append _ isDigit_of_mem_toDigits]
  simp only [if_pos (length_toDigits_le h),
    digitsOf?_digits Nat.toDigits_ne_nil isDigit_of_mem_toDigits, Nat.ofDigitChars_ten_toDigits,
    Option.map_some, signed_natAbs]
  simp [Option.filter, h]

end Dense

end RobotShorthand
