/-
**How numbers are spelled in dense code.**

`RobotShorthand.Dense.Literal` says how a literal is read: characters are taken as long as it goes
on, a sign comes off, marks are taken out, digits are looked up one by one.  This module says what a
literal is, and which number it stands for, without reading it.  Digits are compared with those of
the library, letters in either case, and their value is that of the digits in their base.  A text
without its marks is what is left of the pieces between them.

Marks are taken out once, from left to right.  What stands on both sides of one may come together as
a new mark, and that is read as the mark of a hexadecimal number when it stands in front of the
digits.

Main definitions:

* `Spells` — **digits of a base that spell a number;**
* `IsMarked`, `IsUnmarked` — the mark at the front of a text, and a text with its marks taken out;
* `Denotes` — **the number that a literal stands for,** of any size;
* `BeginsLiteral`, `IsLiteralOf` — where literals begin, and the one in front of a text;
* `Scanned` — **what is read at a place of a text.**

Main results:

* `digitsOf?_eq_some_iff` — reading digits one by one gives the number that they spell;
* `isUnmarked_iff` — taking out marks from left to right puts the pieces between them together;
* `valueOf?_eq_some_iff` — a literal has the value that it stands for, if that is of 32 bits;
* `scanAt_eq_iff_scanned` — **a place of a text is read as described and in no other way.**
-/

import Mathlib.Data.Nat.Digits.Defs
import RobotShorthand.Proofs.Dense.Numeral

set_option relaxedAutoImplicit false
set_option autoImplicit false

namespace RobotShorthand

namespace Dense

/-! ### Digits -/

/-- Decimal digits are read as the library writes them. -/
theorem asciiDigit?_eq_some_iff {c : Char} {d : Nat} :
    Text.asciiDigit? c = some d ↔ d < 10 ∧ c.toLower = d.digitChar := by
  have hdigit (h : d < 10) := @Text.toLower_eq_digitChar_iff c d (by omega)
  unfold Text.asciiDigit?
  split
  · rw [Option.some.injEq]
    constructor
    · rintro rfl
      exact ⟨by omega, (hdigit (by omega)).2 (by omega)⟩
    · rintro ⟨hd, hc⟩
      have := (hdigit hd).1 hc
      omega
  · constructor
    · exact fun h => absurd h (by simp)
    · rintro ⟨hd, hc⟩
      have := (hdigit hd).1 hc
      omega

/-- Hexadecimal digits are too, in either case. -/
theorem hexDigit?_eq_some_iff {c : Char} {d : Nat} :
    Text.hexDigit? c = some d ↔ d < 16 ∧ c.toLower = d.digitChar := by
  unfold Text.hexDigit? Text.alphanumericDigit?
  simp only [Option.filter_eq_some_iff, decide_eq_true_eq]
  rw [and_comm]
  refine and_congr_right fun hd => ?_
  rw [Text.toLower_eq_digitChar_iff hd]
  split
  · rw [Option.some.injEq]
    omega
  · split
    · rw [Option.some.injEq]
      omega
    · split
      · rw [Option.some.injEq]
        omega
      · simp only [reduceCtorEq, false_iff]
        omega

/-- **Digits of a base that spell a number,** the most significant one first and letters in either
case. -/
def Spells (base : Nat) (cs : List Char) (n : Nat) : Prop :=
  ∃ ds : List Nat, ds ≠ [] ∧ (∀ d ∈ ds, d < base) ∧ cs.map Char.toLower = ds.map Nat.digitChar
    ∧ n = Nat.ofDigits base ds.reverse

theorem digitsValue_eq_ofDigits (base : Nat) (ds : List Nat) :
    Text.digitsValue base ds = Nat.ofDigits base ds.reverse := by
  rw [Text.digitsValue, Nat.ofDigits_eq_foldr, List.foldr_reverse]
  congr 1
  funext v d
  simp [Nat.mul_comm, Nat.add_comm]

section Reading

variable {digit? : Char → Option Nat} {base : Nat}
  (hdigit : ∀ c d, digit? c = some d ↔ d < base ∧ c.toLower = d.digitChar)

include hdigit

theorem mapM_digit?_eq_some_iff {cs : List Char} {ds : List Nat} :
    cs.mapM digit? = some ds
      ↔ (∀ d ∈ ds, d < base) ∧ cs.map Char.toLower = ds.map Nat.digitChar := by
  induction cs generalizing ds with
  | nil => cases ds <;> simp
  | cons c cs ih =>
      cases ds with
      | nil => simp [Option.bind_eq_some_iff]
      | cons d ds =>
          simp only [List.mapM_cons, Option.bind_eq_bind, Option.bind_eq_some_iff, ih, hdigit,
            Option.pure_def, Option.some.injEq, List.cons.injEq, List.map_cons,
            List.forall_mem_cons]
          constructor
          · rintro ⟨_, ⟨hd, hc⟩, _, ⟨hds, hcs⟩, rfl, rfl⟩
            exact ⟨⟨hd, hds⟩, hc, hcs⟩
          · rintro ⟨⟨hd, hds⟩, hc, hcs⟩
            exact ⟨d, ⟨hd, hc⟩, ds, ⟨hds, hcs⟩, rfl, rfl⟩

/-- **Reading digits one by one** gives the number that they spell. -/
theorem digitsOf?_eq_some_iff {cs : List Char} {n : Nat} :
    digitsOf? digit? base cs = some n ↔ Spells base cs n := by
  cases cs with
  | nil =>
      simp [digitsOf?, Spells, eq_comm]
  | cons c cs =>
      rw [digitsOf?, if_neg (by simp), Option.map_eq_some_iff]
      simp only [mapM_digit?_eq_some_iff hdigit, digitsValue_eq_ofDigits]
      constructor
      · rintro ⟨ds, ⟨hds, hcs⟩, rfl⟩
        exact ⟨ds, by rintro rfl; simp at hcs, hds, hcs, rfl⟩
      · rintro ⟨ds, _, hds, hcs, rfl⟩
        exact ⟨ds, ⟨hds, hcs⟩, rfl⟩

end Reading

/-! ### Marks -/

/-- The mark of hexadecimal literals. -/
def hexMark : List Char := ['0', 'x']

/-- A text that the mark begins, perhaps behind a sign. -/
def IsMarked (text : List Char) : Prop := ∃ negative rest, text = minus negative ++ hexMark ++ rest

/-- **A text with its marks taken out:** the pieces between them, which have none, are put
together. -/
def IsUnmarked (text rest : List Char) : Prop :=
  ∃ pieces : List (List Char), (∀ p ∈ pieces, ¬ hexMark <:+: p)
    ∧ text = hexMark.intercalate pieces ∧ rest = pieces.flatten

/-- A literal is read as hexadecimal exactly if the mark begins it. -/
theorem isHexLiteral_iff {text : List Char} : isHexLiteral text = true ↔ IsMarked text := by
  constructor
  · intro h
    have hparts := eq_minus_append_unsign text
    unfold isHexLiteral at h
    split at h
    · rename_i rest hrest
      rw [hrest] at hparts
      exact ⟨_, rest, by rw [hparts, List.append_assoc]; rfl⟩
    · exact absurd h (by simp)
  · rintro ⟨negative, rest, rfl⟩
    rw [List.append_assoc, isHexLiteral, unsign_minus_append_of_ne negative (by simp [hexMark])]
    rfl

/-- A first character belongs to a mark or to none. -/
theorem withoutHexMarks_cons {c : Char} {cs : List Char} (h : ¬ hexMark <+: c :: cs) :
    withoutHexMarks (c :: cs) = c :: withoutHexMarks cs := by
  rw [withoutHexMarks]
  rintro rest rfl rfl
  exact h ⟨rest, rfl⟩

/-- No mark begins in a piece without marks, not even one that ends in what follows. -/
theorem no_mark_at_front {c : Char} {piece rest : List Char} (h : ¬ hexMark <:+: c :: piece) :
    ¬ hexMark <+: c :: (piece ++ hexMark ++ rest) := by
  rintro ⟨behind, hbehind⟩
  obtain ⟨rfl, hx⟩ := List.cons.inj hbehind
  cases piece with
  | nil => exact absurd (List.cons.inj hx).1 (by decide)
  | cons d piece =>
      obtain ⟨rfl, _⟩ := List.cons.inj hx
      exact h ⟨[], piece, rfl⟩

/-- A piece without marks stays in front of a mark. -/
theorem withoutHexMarks_append_mark {piece : List Char} (h : ¬ hexMark <:+: piece)
    (rest : List Char) :
    withoutHexMarks (piece ++ hexMark ++ rest) = piece ++ withoutHexMarks rest := by
  induction piece with
  | nil => rfl
  | cons c piece ih =>
      rw [List.cons_append, List.cons_append, withoutHexMarks_cons (no_mark_at_front h),
        ih (fun hi => h (List.infix_cons hi)), List.cons_append]

theorem withoutHexMarks_of_no_mark {piece : List Char} (h : ¬ hexMark <:+: piece) :
    withoutHexMarks piece = piece := by
  induction piece with
  | nil => rfl
  | cons c piece ih =>
      rw [withoutHexMarks_cons (fun hp => h hp.isInfix), ih (fun hi => h (List.infix_cons hi))]

/-- Every text is made of pieces without marks, and marks between them. -/
theorem exists_pieces (text : List Char) : ∃ piece pieces,
    (∀ p ∈ piece :: pieces, ¬ hexMark <:+: p) ∧ text = hexMark.intercalate (piece :: pieces)
      ∧ withoutHexMarks text = (piece :: pieces).flatten := by
  fun_induction withoutHexMarks text with
  | case1 cs ih =>
      obtain ⟨piece, pieces, hpieces, hcs, hrest⟩ := ih
      have hempty : ¬ hexMark <:+: [] := by simp [hexMark]
      refine ⟨[], piece :: pieces, List.forall_mem_cons.2 ⟨hempty, hpieces⟩, ?_, hrest⟩
      rw [List.intercalate_cons_cons, ← hcs]
      rfl
  | case2 c cs hmark ih =>
      obtain ⟨piece, pieces, hpieces, hcs, hrest⟩ := ih
      obtain ⟨hpiece, hlater⟩ := List.forall_mem_cons.1 hpieces
      have hcons (c : Char) (piece : List Char) :
          hexMark.intercalate ((c :: piece) :: pieces)
            = c :: hexMark.intercalate (piece :: pieces) := by
        cases pieces with
        | nil => rw [List.intercalate_singleton, List.intercalate_singleton]
        | cons q pieces => rw [List.intercalate_cons_cons, List.intercalate_cons_cons]; rfl
      refine ⟨c :: piece, pieces, List.forall_mem_cons.2 ⟨?_, hlater⟩, ?_, ?_⟩
      · rw [List.infix_cons_iff, not_or]
        refine ⟨?_, hpiece⟩
        -- a mark at the front would be one of the text
        rintro ⟨behind, hbehind⟩
        obtain ⟨rfl, rfl⟩ := List.cons.inj hbehind
        exact hmark _ rfl (hcs.trans (hcons 'x' behind))
      · rw [hcons, hcs]
      · rw [hrest]
        rfl
  | case3 => exact ⟨[], [], by simp [hexMark], by simp, rfl⟩

/-- **Taking out the marks from left to right** puts the pieces together. -/
theorem isUnmarked_iff {text rest : List Char} :
    IsUnmarked text rest ↔ withoutHexMarks text = rest := by
  constructor
  · rintro ⟨pieces, hpieces, rfl, rfl⟩
    induction pieces with
    | nil => rfl
    | cons p pieces ih =>
        obtain ⟨hp, hrest⟩ := List.forall_mem_cons.1 hpieces
        cases pieces with
        | nil =>
            rw [List.intercalate_singleton, withoutHexMarks_of_no_mark hp, List.flatten_singleton]
        | cons q pieces =>
            rw [List.intercalate_cons_cons, withoutHexMarks_append_mark hp, ih hrest]
            rfl
  · rintro rfl
    obtain ⟨piece, pieces, hpieces, htext, hrest⟩ := exists_pieces text
    exact ⟨_, hpieces, htext, hrest⟩

/-! ### The numbers of literals -/

/-- At most `Text.maxDecimalDigits` decimal digits, and a sign or none. -/
def SpellsDecimal (text : List Char) (n : Int) : Prop :=
  ∃ negative digits m, text = minus negative ++ digits ∧ digits.length ≤ Text.maxDecimalDigits
    ∧ Spells 10 digits m ∧ n = signed negative m

/-- Hexadecimal digits, with the mark in front or not, and a sign or none. -/
def SpellsHexadecimal (text : List Char) (n : Int) : Prop :=
  ∃ negative mark digits m, text = minus negative ++ (mark ++ digits) ∧ (mark = [] ∨ mark = hexMark)
    ∧ Spells 16 digits m ∧ n = signed negative m

/-- **The number that a literal stands for,** of any size. -/
inductive Denotes : List Char → Int → Prop
  | hexadecimal {text digits : List Char} {n : Int} :
      IsMarked text → IsUnmarked text digits → SpellsHexadecimal digits n → Denotes text n
  | decimal {text : List Char} {n : Int} : ¬ IsMarked text → SpellsDecimal text n → Denotes text n

/-- Digits have neither signs nor marks among them. -/
theorem Spells.ne_of_mem {base n : Nat} {cs : List Char} (h : Spells base cs n) (hbase : base ≤ 16)
    {c : Char} (hc : c ∈ cs) : c ≠ '-' ∧ c ≠ 'x' := by
  obtain ⟨ds, _, hds, hcs, _⟩ := h
  have hlower : c.toLower ∈ ds.map Nat.digitChar := hcs ▸ List.mem_map_of_mem hc
  obtain ⟨d, hd, hdigit⟩ := List.mem_map.1 hlower
  have hlt : d < 16 := Nat.lt_of_lt_of_le (hds d hd) hbase
  have hplace := (Text.toLower_eq_digitChar_iff hlt).1 hdigit.symm
  constructor
  · rintro rfl
    have hminus : '-'.toNat = 45 := rfl
    omega
  · rintro rfl
    have hx : 'x'.toNat = 120 := rfl
    omega

theorem decimalValue?_eq_some_iff {text : List Char} {n : Int} :
    decimalValue? text = some n ↔ SpellsDecimal text n := by
  have hdigits {cs : List Char} {m : Nat} :=
    @digitsOf?_eq_some_iff _ _ @asciiDigit?_eq_some_iff cs m
  constructor
  · intro h
    have htext := eq_minus_append_unsign text
    rcases hsign : unsign text with ⟨negative, digits⟩
    rw [decimalValue?, hsign] at h
    rw [hsign] at htext
    simp only [Option.ite_none_right_eq_some, Option.map_eq_some_iff] at h
    obtain ⟨hlength, m, hm, rfl⟩ := h
    exact ⟨negative, digits, m, htext, hlength, hdigits.1 hm, rfl⟩
  · rintro ⟨negative, digits, m, rfl, hlength, hspells, rfl⟩
    have hsign : ∀ rest, digits ≠ '-' :: rest := by
      rintro rest rfl
      exact (hspells.ne_of_mem (by decide) (List.mem_cons_self ..)).1 rfl
    rw [decimalValue?, unsign_minus_append_of_ne negative hsign]
    simp only [if_pos hlength, hdigits.2 hspells, Option.map_some]

theorem hexValue?_eq_some_iff {text : List Char} {n : Int} :
    hexValue? text = some n ↔ SpellsHexadecimal text n := by
  have hdigits {cs : List Char} {m : Nat} :=
    @digitsOf?_eq_some_iff _ _ @hexDigit?_eq_some_iff cs m
  constructor
  · intro h
    have htext := eq_minus_append_unsign text
    rcases hsign : unsign text with ⟨negative, cs⟩
    rw [hexValue?, hsign] at h
    rw [hsign] at htext
    obtain ⟨m, hm, rfl⟩ := Option.map_eq_some_iff.1 h
    -- what is read is what stands behind the mark, or all of it
    split at hm
    · rename_i digits
      exact ⟨negative, hexMark, digits, m, htext, .inr rfl, hdigits.1 hm, rfl⟩
    · exact ⟨negative, [], cs, m, htext, .inl rfl, hdigits.1 hm, rfl⟩
  · rintro ⟨negative, mark, digits, m, rfl, hmark, hspells, rfl⟩
    have hdigit {c : Char} (hc : c ∈ digits) := hspells.ne_of_mem (by decide) hc
    have hsign : ∀ rest, mark ++ digits ≠ '-' :: rest := by
      rintro rest hrest
      rcases hmark with rfl | rfl
      · obtain rfl : digits = '-' :: rest := hrest
        exact (hdigit (List.mem_cons_self ..)).1 rfl
      · exact absurd (List.cons.inj hrest).1 (by decide)
    rw [hexValue?, unsign_minus_append_of_ne negative hsign]
    rcases hmark with rfl | rfl
    · have hbare : ∀ rest, digits ≠ '0' :: 'x' :: rest := by
        rintro rest rfl
        exact (hdigit (by simp)).2 rfl
      simp only [List.nil_append, hdigits.2 hspells, Option.map_some]
    · show (digitsOf? Text.hexDigit? 16 digits).map (signed negative) = _
      rw [hdigits.2 hspells, Option.map_some]

/-- **A literal has the value that it stands for,** if that is of 32 bits, and no other. -/
theorem valueOf?_eq_some_iff {text : List Char} {n : Int} :
    valueOf? text = some n ↔ Denotes text n ∧ isInt32 n = true := by
  rw [valueOf?, Option.filter_eq_some_iff]
  refine and_congr_left fun _ => ?_
  by_cases hmark : IsMarked text
  · rw [if_pos (isHexLiteral_iff.2 hmark), hexValue?_eq_some_iff]
    constructor
    · exact .hexadecimal hmark (isUnmarked_iff.2 rfl)
    · rintro (⟨_, hrest, hspells⟩ | ⟨hnot, _⟩)
      · rwa [isUnmarked_iff.1 hrest]
      · exact absurd hmark hnot
  · rw [if_neg (fun h => hmark (isHexLiteral_iff.1 h)), decimalValue?_eq_some_iff]
    constructor
    · exact .decimal hmark
    · rintro (⟨hmarked, _, _⟩ | ⟨_, hspells⟩)
      · exact absurd hmarked hmark
      · exact hspells

/-! ### Where literals begin and end -/

/-- The characters that a literal goes on with. -/
def literalCharacters : List Char := "0123456789abcdefABCDEFx".toList

theorem isLiteralChar_iff {c : Char} : isLiteralChar c = true ↔ c ∈ literalCharacters := by
  have hlisted : ∀ n < 103, (48 ≤ n ∧ n ≤ 57 ∨ 65 ≤ n ∧ n ≤ 70 ∨ 97 ≤ n) →
      Char.ofNat n ∈ literalCharacters := by decide
  have hall : ∀ c ∈ literalCharacters, isLiteralChar c = true := Text.forall_mem_of_all (by decide)
  constructor
  · intro h
    rw [isLiteralChar, Bool.or_eq_true, beq_iff_eq] at h
    rcases h with hdigit | rfl
    · obtain ⟨d, hd⟩ := Option.isSome_iff_exists.1 hdigit
      obtain ⟨hlt, hlower⟩ := hexDigit?_eq_some_iff.1 hd
      have hplace := (Text.toLower_eq_digitChar_iff hlt).1 hlower
      rw [← Char.ofNat_toNat c]
      exact hlisted c.toNat (by omega) (by omega)
    · decide
  · exact hall c

/-- A text in front of which a literal begins: a sign or none, and a decimal digit. -/
def BeginsLiteral (cs : List Char) : Prop :=
  ∃ negative digit rest, cs = minus negative ++ digit :: rest ∧ digit.isDigit = true

/-- **The literal in front of a text:** it begins with a sign or none and a decimal digit, and it
ends in front of the first character with which no literal goes on. -/
def IsLiteralOf (text cs : List Char) : Prop :=
  ∃ negative digit run rest, text = minus negative ++ digit :: run ∧ digit.isDigit = true
    ∧ (∀ c ∈ run, c ∈ literalCharacters) ∧ cs = text ++ rest
    ∧ ∀ c ∈ rest.head?, c ∉ literalCharacters

theorem isDigit_iff {c : Char} : isDigit c = true ↔ c.isDigit = true := by
  constructor
  · intro h
    obtain ⟨d, hd⟩ := Option.isSome_iff_exists.1 h
    exact isDigit_of_asciiDigit? hd
  · exact isDigit_of_isDigit

theorem literalText_eq_nil {cs : List Char} (h : ¬ BeginsLiteral cs) : literalText cs = [] := by
  fun_cases literalText cs with
  | case1 c cs hc => exact absurd ⟨true, c, cs, rfl, isDigit_iff.1 hc⟩ h
  | case2 => rfl
  | case3 c cs _ hc => exact absurd ⟨false, c, cs, rfl, isDigit_iff.1 hc⟩ h
  | case4 => rfl
  | case5 => rfl

/-- What stands behind all that a literal goes on with does not go on with it. -/
theorem IsLiteralOf.literalText_eq {text cs : List Char} (h : IsLiteralOf text cs) :
    literalText cs = text := by
  obtain ⟨negative, digit, run, rest, rfl, hdigit, hrun, rfl, hrest⟩ := h
  have hends : EndsLiteral rest := by
    intro c hc
    exact Bool.eq_false_iff.2 fun hliteral => hrest c hc (isLiteralChar_iff.1 hliteral)
  rw [List.append_assoc, List.cons_append, literalText_minus_append negative hdigit,
    List.takeWhile_append_of_pos fun c hc => isLiteralChar_iff.2 (hrun c hc),
    takeWhile_of_endsLiteral hends, List.append_nil]

theorem isLiteralOf_literalText {cs : List Char} (h : BeginsLiteral cs) :
    IsLiteralOf (literalText cs) cs := by
  obtain ⟨negative, digit, rest, rfl, hdigit⟩ := h
  rw [literalText_minus_append negative hdigit]
  refine ⟨negative, digit, rest.takeWhile isLiteralChar, rest.dropWhile isLiteralChar, rfl, hdigit,
    ?_, ?_, ?_⟩
  · intro c hc
    exact isLiteralChar_iff.1 (List.all_eq_true.1 List.all_takeWhile c hc)
  · rw [List.append_assoc, List.cons_append, List.takeWhile_append_dropWhile]
  · intro c hc hliteral
    have hfirst := List.head?_dropWhile_not isLiteralChar rest
    rw [Option.mem_def.1 hc] at hfirst
    exact Bool.eq_false_iff.1 hfirst (isLiteralChar_iff.2 hliteral)

/-- **What is read at a place of a text:** a value, the place where reading goes on, and whether the
literal is well formed. -/
inductive Scanned (code : List Char) (start : Nat) : Int × Nat × Bool → Prop
  /-- no literal begins there -/
  | nothing : ¬ BeginsLiteral (code.drop start) → Scanned code start (0, start, true)
  /-- a literal stands for a number of 32 bits -/
  | number {text : List Char} {n : Int} : IsLiteralOf text (code.drop start) → Denotes text n →
      int32Min ≤ n → n ≤ int32Max → Scanned code start (n, start + text.length, true)
  /-- a literal stands for no such number -/
  | malformed {text : List Char} : IsLiteralOf text (code.drop start) →
      (∀ n, Denotes text n → ¬ (int32Min ≤ n ∧ n ≤ int32Max)) →
      Scanned code start (0, start + text.length, false)

/-- Where no literal begins, nothing is read and nothing is passed. -/
theorem scanAt_of_nothing {code : List Char} {start : Nat}
    (h : ¬ BeginsLiteral (code.drop start)) : Literal.scanAt code start = (0, start, true) := by
  simp [Literal.scanAt, Literal.scan, literalText_eq_nil h, Literal.value, Literal.length,
    Literal.isWellFormed]

/-- A literal is passed whole, and its value is read if it has one. -/
theorem scanAt_of_literal {code text : List Char} {start : Nat}
    (h : IsLiteralOf text (code.drop start)) :
    Literal.scanAt code start
      = ((valueOf? text).getD 0, start + text.length, (valueOf? text).isSome) := by
  have htext := h.literalText_eq
  obtain ⟨negative, digit, run, _, rfl, _⟩ := h
  simp [Literal.scanAt, Literal.scan, htext, Literal.value, Literal.length,
    Literal.isWellFormed]

theorem scanned_scanAt (code : List Char) (start : Nat) :
    Scanned code start (Literal.scanAt code start) := by
  by_cases h : BeginsLiteral (code.drop start)
  · have hliteral := isLiteralOf_literalText h
    rw [scanAt_of_literal hliteral]
    cases hvalue : valueOf? (literalText (code.drop start)) with
    | none =>
        refine .malformed hliteral fun n hn hbounds => ?_
        have hsome := valueOf?_eq_some_iff.2 ⟨hn, isInt32_iff.2 hbounds⟩
        rw [hvalue] at hsome
        exact absurd hsome (by simp)
    | some n =>
        obtain ⟨hn, hbounds⟩ := valueOf?_eq_some_iff.1 hvalue
        obtain ⟨hmin, hmax⟩ := isInt32_iff.1 hbounds
        exact .number hliteral hn hmin hmax
  · rw [scanAt_of_nothing h]
    exact .nothing h

theorem Scanned.scanAt_eq {code : List Char} {start : Nat} {r : Int × Nat × Bool}
    (h : Scanned code start r) : Literal.scanAt code start = r := by
  cases h with
  | nothing hnothing => exact scanAt_of_nothing hnothing
  | number hliteral hn hmin hmax =>
      rw [scanAt_of_literal hliteral, valueOf?_eq_some_iff.2 ⟨hn, isInt32_iff.2 ⟨hmin, hmax⟩⟩]
      rfl
  | @malformed text hliteral hn =>
      have hnone : valueOf? text = none := by
        rw [Option.eq_none_iff_forall_ne_some]
        intro n hvalue
        obtain ⟨hdenotes, hbounds⟩ := valueOf?_eq_some_iff.1 hvalue
        exact hn n hdenotes (isInt32_iff.1 hbounds)
      rw [scanAt_of_literal hliteral, hnone]
      rfl

/-- **A place of a text is read as described, and in no other way;** and an integer of 32 bits in
decimal is read back, up to a character with which no literal goes on. -/
theorem scanAt_eq_iff_scanned (code : List Char) (start : Nat) :
    (∀ r, Literal.scanAt code start = r ↔ Scanned code start r)
      ∧ ∀ n rest, int32Min ≤ n → n ≤ int32Max → (∀ c ∈ rest.head?, c ∉ literalCharacters) →
          Literal.scanAt (Text.decimal n ++ rest) 0 = (n, (Text.decimal n).length, true) := by
  refine ⟨fun r => ⟨?_, Scanned.scanAt_eq⟩, ?_⟩
  · rintro rfl
    exact scanned_scanAt code start
  · intro n rest hmin hmax hrest
    have hends : EndsLiteral rest := by
      intro c hc
      exact Bool.eq_false_iff.2 fun hliteral => hrest c hc (isLiteralChar_iff.1 hliteral)
    rw [Literal.scanAt, List.drop_zero, scan_decimal (isInt32_iff.2 ⟨hmin, hmax⟩) hends,
      Nat.zero_add]
    rfl

/-- Taking out marks makes a new one, which is read as such; and the least integer of 32 bits is
read back in front of a symbol. -/
theorem scanAt_eq_iff_scanned_joined :
    Literal.scanAt "@0x00xx1>".toList 1 = (1, 8, true)
      ∧ Scanned "@0x00xx1>".toList 1 (1, 8, true)
      ∧ (∀ c ∈ ['>'].head?, c ∉ literalCharacters)
      ∧ Literal.scanAt (Text.decimal int32Min ++ ['>']) 0
        = (int32Min, (Text.decimal int32Min).length, true) := by
  have hread : Literal.scanAt "@0x00xx1>".toList 1 = (1, 8, true) := by decide
  have hends : ∀ c ∈ ['>'].head?, c ∉ literalCharacters := by
    rintro c ⟨⟩
    decide
  refine ⟨hread, ((scanAt_eq_iff_scanned "@0x00xx1>".toList 1).1 _).1 hread, hends, ?_⟩
  have hle : int32Min ≤ int32Max := by
    unfold int32Min int32Max
    omega
  exact (scanAt_eq_iff_scanned [] 0).2 int32Min ['>'] (Int.le_refl _) hle hends

end Dense

end RobotShorthand
