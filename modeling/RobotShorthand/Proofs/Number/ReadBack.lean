/-
**Doubles read back.**

The text of a double is a numeral with a point, an exponent or both, or a word for a value without
digits.  This module takes such a numeral apart as reading does, and with the digits known to denote
the magnitude (`RobotShorthand.Proofs.Number.Shortest`) finds that reading undoes writing.  So no two
doubles have the same text; and because the text of a double always has a character besides digits and
a sign, none has the text of an integer.

Main definitions:

* `Numeral` — a numeral in its parts, and the text of these;
* `Numeral.Spells` — numerals that spell out certain digits.

Main results:

* `takeDigits_digits`, `exponent?_exponentText` — digits and exponents are read back;
* `unsigned?_text` — a numeral is read as its digits at its place;
* `Significant.exists_numeral` — digits are laid out as a numeral of the same value;
* `Binary64.ofText?_text` — **the text of a double is read as the double;**
* `Binary64.text_injective` — **no two doubles have the same text;**
* `Binary64.exists_mem_text` — **a double is not written like an integer.**
-/

import RobotShorthand.Proofs.Dense.Numeral
import RobotShorthand.Proofs.Number.Shortest

set_option relaxedAutoImplicit false
set_option autoImplicit false

namespace RobotShorthand

open RobotShorthand.Dense

-- Powers are those of the natural numbers themselves, whatever structure is known of them elsewhere.
attribute [local instance (high)] instPowNat

/-! ### Digits and exponents -/

/-- A text that digits in front of it do not run into. -/
def EndsDigits (cs : List Char) : Prop :=
  ∀ c ∈ cs.head?, Text.decimalDigit? c = none ∧ c ≠ '_'

theorem endsDigits_nil : EndsDigits [] := by simp [EndsDigits]

theorem endsDigits_cons {c : Char} {cs : List Char} (hd : Text.decimalDigit? c = none)
    (hu : c ≠ '_') : EndsDigits (c :: cs) := by simp [EndsDigits, hd, hu]

/-- **Digits are read as far as they go.** -/
theorem takeDigits_digits {ds rest : List Char} (hd : ∀ c ∈ ds, c.isDigit = true)
    (hrest : EndsDigits rest) (afterDigit : Bool) :
    Binary64.takeDigits afterDigit (ds ++ rest)
      = (ds.map fun c => c.toNat - '0'.toNat, rest) := by
  induction ds generalizing afterDigit with
  | nil =>
      cases rest with
      | nil => rfl
      | cons c rest =>
          obtain ⟨hnone, hu⟩ := hrest c rfl
          show Binary64.takeDigits afterDigit (c :: rest) = ([], c :: rest)
          unfold Binary64.takeDigits
          rw [hnone]
          simp only
          split
          · exact absurd rfl hu
          · rfl
  | cons d ds ih =>
      obtain ⟨hd0, hds⟩ := List.forall_mem_cons.1 hd
      have hvalue : Text.decimalDigit? d = some (d.toNat - '0'.toNat) :=
        Text.decimalDigit?_of_asciiDigit? (asciiDigit?_of_isDigit hd0)
      rw [List.cons_append]
      unfold Binary64.takeDigits
      rw [hvalue]
      simp only [ih hds true, List.map_cons]

/-- An exponent is written as its sign and digits of its magnitude. -/
theorem exists_exponentText (e : Int) :
    ∃ ds, exponentText e = (if e < 0 then '-' else '+') :: ds ∧ ds ≠ []
      ∧ (∀ c ∈ ds, c.isDigit = true) ∧ Nat.ofDigitChars 10 ds 0 = e.natAbs := by
  have hdigits : ∀ c ∈ e.natAbs.repr.toList, c.isDigit = true := by
    rw [Nat.toList_repr]
    exact isDigit_of_mem_toDigits
  have hvalue : Nat.ofDigitChars 10 e.natAbs.repr.toList 0 = e.natAbs := by
    rw [Nat.toList_repr, Nat.ofDigitChars_ten_toDigits]
  unfold exponentText
  by_cases hshort : e.natAbs.repr.toList.length < 2
  · refine ⟨'0' :: e.natAbs.repr.toList, by simp only [if_pos hshort], by simp, ?_, ?_⟩
    · exact List.forall_mem_cons.2 ⟨rfl, hdigits⟩
    · rw [Nat.ofDigitChars_cons]
      exact hvalue
  · refine ⟨e.natAbs.repr.toList, by simp only [if_neg hshort], ?_, hdigits, hvalue⟩
    rw [Nat.toList_repr]
    exact Nat.toDigits_ne_nil

/-- **An exponent is read back.** -/
theorem exponent?_exponentText (e : Int) : Binary64.exponent? ('e' :: exponentText e) = some e := by
  obtain ⟨ds, htext, hne, hd, hvalue⟩ := exists_exponentText e
  have htake := takeDigits_digits hd endsDigits_nil false
  rw [List.append_nil] at htake
  have hnatural : Text.digitsValue 10 (ds.map fun c => c.toNat - '0'.toNat) = e.natAbs := by
    rw [digitsValue_map, hvalue]
  obtain ⟨d, ds, rfl⟩ := List.exists_cons_of_ne_nil hne
  rw [List.map_cons] at htake hnatural
  rw [htext]
  by_cases hnegative : e < 0
  · have hneg : -(e.natAbs : Int) = e := by omega
    simp only [Binary64.exponent?, if_pos hnegative, htake, hnatural]
    exact congrArg some hneg
  · have hpos : (e.natAbs : Int) = e := by omega
    simp only [Binary64.exponent?, if_neg hnegative, htake, hnatural]
    exact congrArg some hpos

/-! ### Numerals -/

/-- A numeral in its parts: digits, digits behind a point if there is one, and an exponent if there is
one. -/
structure Numeral where
  whole : List Char
  fraction? : Option (List Char)
  exponent? : Option Int

namespace Numeral

/-- The digits of a numeral. -/
def digits (n : Numeral) : List Char := n.whole ++ n.fraction?.getD []

/-- The decimal place of the last digit. -/
def place (n : Numeral) : Int := n.exponent?.getD 0 - (n.fraction?.getD []).length

/-- The text of a numeral. -/
def text (n : Numeral) : List Char :=
  n.whole ++ (n.fraction?.elim [] ('.' :: ·) ++ n.exponent?.elim [] ('e' :: exponentText ·))

/-- A numeral with digits, and nothing else, where they belong. -/
structure IsProper (n : Numeral) : Prop where
  whole_ne_nil : n.whole ≠ []
  isDigit_whole : ∀ c ∈ n.whole, c.isDigit = true
  isDigit_fraction : ∀ c ∈ n.fraction?.getD [], c.isDigit = true

theorem IsProper.isDigit {n : Numeral} (h : n.IsProper) : ∀ c ∈ n.digits, c.isDigit = true :=
  List.forall_mem_append.2 ⟨h.isDigit_whole, h.isDigit_fraction⟩

/-- The text of a numeral begins with a digit. -/
theorem IsProper.exists_text {n : Numeral} (h : n.IsProper) :
    ∃ d rest, n.text = d :: rest ∧ d.isDigit = true := by
  obtain ⟨d, ds, hwhole⟩ := List.exists_cons_of_ne_nil h.whole_ne_nil
  refine ⟨d, ds ++ (n.fraction?.elim [] ('.' :: ·) ++ n.exponent?.elim [] ('e' :: exponentText ·)),
    ?_, h.isDigit_whole d (hwhole ▸ List.mem_cons_self ..)⟩
  rw [text, hwhole, List.cons_append]

/-- A numeral with a point or an exponent. -/
def IsMarked (n : Numeral) : Prop := n.fraction? ≠ none ∨ n.exponent? ≠ none

/-- The mark of such a numeral. -/
theorem IsMarked.exists_mem {n : Numeral} (h : n.IsMarked) :
    ∃ c ∈ n.text, c ≠ '-' ∧ c.isDigit = false := by
  rcases h with h | h
  · obtain ⟨ds, hds⟩ := Option.ne_none_iff_exists'.1 h
    exact ⟨'.', by simp [text, hds], by decide, rfl⟩
  · obtain ⟨e, he⟩ := Option.ne_none_iff_exists'.1 h
    exact ⟨'e', by simp [text, he], by decide, rfl⟩

/-- The characters of a numeral besides digits. -/
def signs : List Char := ['.', 'e', '-', '+']

theorem IsProper.mem_text {n : Numeral} (h : n.IsProper) {c : Char} (hc : c ∈ n.text) :
    c.isDigit = true ∨ c ∈ signs := by
  rcases List.mem_append.1 hc with hc | hc
  · exact .inl (h.isDigit_whole c hc)
  · rcases List.mem_append.1 hc with hc | hc
    · cases hf : n.fraction? with
      | none =>
          rw [hf] at hc
          exact absurd hc List.not_mem_nil
      | some ds =>
          rw [hf] at hc
          rcases List.mem_cons.1 hc with rfl | hc
          · exact .inr (by decide)
          · exact .inl (h.isDigit_fraction c (by rwa [hf]))
    · cases he : n.exponent? with
      | none =>
          rw [he] at hc
          exact absurd hc List.not_mem_nil
      | some e =>
          rw [he] at hc
          obtain ⟨ds, htext, _, hd, _⟩ := exists_exponentText e
          rcases List.mem_cons.1 hc with rfl | hc
          · exact .inr (by decide)
          · rw [htext] at hc
            rcases List.mem_cons.1 hc with rfl | hc
            · exact .inr (by split <;> decide)
            · exact .inl (hd c hc)

end Numeral

/-! ### Reading a numeral -/

/-- A digit is the same in lower case. -/
theorem toLower_of_isDigit {c : Char} (h : c.isDigit = true) : c.toLower = c := by
  have hc := Text.toNat_of_isDigit h
  have hupper : ¬ ('A'.val ≤ c.val ∧ c.val ≤ 'Z'.val) := by
    rintro ⟨hmin, _⟩
    have : 65 ≤ c.toNat := hmin
    omega
  exact dif_neg hupper

/-- No word for a value without digits begins with a digit. -/
theorem lower_ne_word {d w : Char} (hd : d.isDigit = true) (hw : w.isDigit = false)
    (cs ws : List Char) : String.ofList ((d :: cs).map Char.toLower) ≠ String.ofList (w :: ws) := by
  intro h
  rw [String.ofList_inj, List.map_cons, toLower_of_isDigit hd] at h
  obtain ⟨rfl, _⟩ := List.cons.inj h
  rw [hd] at hw
  exact absurd hw (by simp)

/-- What follows the digits of a numeral ends them. -/
theorem endsDigits_exponent (e? : Option Int) :
    EndsDigits (e?.elim [] ('e' :: exponentText ·)) := by
  cases e? with
  | none => exact endsDigits_nil
  | some e => exact endsDigits_cons (by decide) (by decide)

theorem exponent?_elim (e? : Option Int) :
    Binary64.exponent? (e?.elim [] ('e' :: exponentText ·)) = some (e?.getD 0) := by
  cases e? with
  | none => rfl
  | some e => exact exponent?_exponentText e

/-- **A numeral is read as its digits at its place.** -/
theorem unsigned?_text {n : Numeral} (h : n.IsProper) (negative : Bool) :
    Binary64.unsigned? negative n.text
      = some (.ofDecimal negative (Nat.ofDigitChars 10 n.digits 0) n.digits.length n.place) := by
  obtain ⟨d, rest, htext, hd⟩ := h.exists_text
  have hword (w : Char) (ws : List Char) (hw : w.isDigit = false) :
      String.ofList (n.text.map Char.toLower) ≠ String.ofList (w :: ws) := by
    rw [htext]
    exact lower_ne_word hd hw rest ws
  unfold Binary64.unsigned?
  simp only
  rw [if_neg (not_or.2 ⟨hword 'i' _ rfl, hword 'i' _ rfl⟩), if_neg (hword 'n' _ rfl)]
  obtain ⟨whole, fraction?, e?⟩ := n
  cases fraction? with
  | none =>
      have htake := takeDigits_digits h.isDigit_whole (endsDigits_exponent e?) false
      have hexponent := exponent?_elim e?
      have htext : Numeral.text ⟨whole, none, e?⟩ = whole ++ e?.elim [] ('e' :: exponentText ·) := rfl
      have hne : whole ≠ [] := h.whole_ne_nil
      have hvalue : Text.digitsValue 10 (whole.map fun c => c.toNat - 48)
          = Nat.ofDigitChars 10 whole 0 := digitsValue_map whole
      rw [htext, htake]
      cases e? with
      | none => simp [Numeral.digits, Numeral.place, hne, hvalue, Binary64.exponent?]
      | some e =>
          rw [Option.elim_some] at hexponent ⊢
          simp [Numeral.digits, Numeral.place, hne, hvalue, hexponent]
  | some ds =>
      have hnonempty : (whole.map fun c => c.toNat - '0'.toNat).isEmpty = false := by
        simpa using h.whole_ne_nil
      have hpoint : EndsDigits ('.' :: (ds ++ e?.elim [] ('e' :: exponentText ·))) :=
        endsDigits_cons (by decide) (by decide)
      have htake := takeDigits_digits h.isDigit_whole hpoint false
      have hfraction := takeDigits_digits h.isDigit_fraction (endsDigits_exponent e?) false
      have htext : Numeral.text ⟨whole, some ds, e?⟩
          = whole ++ '.' :: (ds ++ e?.elim [] ('e' :: exponentText ·)) := rfl
      rw [htext, htake]
      rw [Option.getD_some] at hfraction
      simp only [hfraction, exponent?_elim, hnonempty, ← List.map_append, digitsValue_map]
      simp [Numeral.digits, Numeral.place]

/-! ### Writing digits as a numeral -/

/-- A numeral that spells digits out: it has their value, except for zeros that it adds at the end, and
its place is one that is computed. -/
structure Numeral.Spells (n : Numeral) (s : Significant) : Prop where
  isProper : n.IsProper
  isMarked : n.IsMarked
  exists_zeros : ∃ zeros : Nat,
    Nat.ofDigitChars 10 n.digits 0 = Nat.ofDigitChars 10 s.digits 0 * 10 ^ zeros
      ∧ n.place + zeros = s.point - s.digits.length
  place_le : n.place ≤ max s.point 0
  le_place : min s.point 1 ≤ n.place + n.digits.length

namespace Significant

variable {s : Significant}

/-- Digits behind a point and zeros. -/
theorem spells_small (hd : ∀ c ∈ s.digits, c.isDigit = true) (h : s.point ≤ 0) :
    Numeral.Spells ⟨['0'], some (List.replicate (-s.point).toNat '0' ++ s.digits), none⟩ s := by
  refine ⟨⟨by simp, ?_, ?_⟩, .inl (by simp), ⟨0, ?_, ?_⟩, ?_, ?_⟩
  · intro c hc
    rw [List.mem_singleton.1 hc]
    rfl
  · refine List.forall_mem_append.2 ⟨fun c hc => ?_, hd⟩
    rw [List.eq_of_mem_replicate hc]
    rfl
  · simp [Numeral.digits, Nat.ofDigitChars_cons, Nat.ofDigitChars_append,
      Nat.ofDigitChars_replicate_zero]
  · simp only [Numeral.place, Option.getD_some, Option.getD_none, List.length_append,
      List.length_replicate]
    omega
  · simp only [Numeral.place, Option.getD_some, Option.getD_none, List.length_append,
      List.length_replicate]
    omega
  · simp only [Numeral.place, Numeral.digits, Option.getD_some, Option.getD_none,
      List.length_append, List.length_replicate]
    omega

/-- Digits in front of zeros and a point. -/
theorem spells_large (hd : ∀ c ∈ s.digits, c.isDigit = true) (hne : s.digits ≠ [])
    (h : (s.digits.length : Int) ≤ s.point) :
    Numeral.Spells ⟨s.digits ++ List.replicate (s.point.toNat - s.digits.length) '0', some ['0'], none⟩
      s := by
  have hlength : 0 < s.digits.length := List.length_pos_iff.2 hne
  refine ⟨⟨by simp [hne], ?_, ?_⟩, .inl (by simp), ⟨s.point.toNat - s.digits.length + 1, ?_, ?_⟩, ?_, ?_⟩
  · refine List.forall_mem_append.2 ⟨hd, fun c hc => ?_⟩
    rw [List.eq_of_mem_replicate hc]
    rfl
  · intro c hc
    rw [List.mem_singleton.1 hc]
    rfl
  · simp [Numeral.digits, Nat.ofDigitChars_cons, Nat.ofDigitChars_append,
      Nat.ofDigitChars_replicate_zero, Nat.pow_succ]
    ac_rfl
  · simp only [Numeral.place, Option.getD_some, Option.getD_none, List.length_singleton]
    omega
  · simp only [Numeral.place, Option.getD_some, Option.getD_none, List.length_singleton]
    omega
  · simp only [Numeral.place, Numeral.digits, Option.getD_some, Option.getD_none,
      List.length_append, List.length_replicate, List.length_singleton]
    omega

/-- Digits with a point between them. -/
theorem spells_between (hd : ∀ c ∈ s.digits, c.isDigit = true) (h : 0 < s.point)
    (hlt : s.point < s.digits.length) :
    Numeral.Spells ⟨s.digits.take s.point.toNat, some (s.digits.drop s.point.toNat), none⟩ s := by
  refine ⟨⟨?_, ?_, ?_⟩, .inl (by simp), ⟨0, ?_, ?_⟩, ?_, ?_⟩
  · intro hnil
    have hlength := congrArg List.length hnil
    rw [List.length_take, List.length_nil] at hlength
    omega
  · exact fun c hc => hd c (List.mem_of_mem_take hc)
  · exact fun c hc => hd c (List.mem_of_mem_drop hc)
  · simp [Numeral.digits]
  · simp only [Numeral.place, Option.getD_some, Option.getD_none, List.length_drop]
    omega
  · simp only [Numeral.place, Option.getD_some, Option.getD_none, List.length_drop]
    omega
  · simp only [Numeral.place, Numeral.digits, Option.getD_some, Option.getD_none,
      List.length_append, List.length_take, List.length_drop]
    omega

/-- A digit, a point and the others, and an exponent. -/
theorem spells_scientific {d : Char} {ds : List Char} {point : Int} {fraction? : Option (List Char)}
    (hd : ∀ c ∈ d :: ds, c.isDigit = true) (hfraction : fraction?.getD [] = ds) :
    Numeral.Spells ⟨[d], fraction?, some (point - 1)⟩ ⟨d :: ds, point⟩ := by
  refine ⟨⟨by simp, ?_, ?_⟩, .inr (by simp), ⟨0, ?_, ?_⟩, ?_, ?_⟩
  · intro c hc
    exact hd c (List.mem_cons.2 (.inl (List.mem_singleton.1 hc)))
  · intro c hc
    exact hd c (List.mem_cons_of_mem _ (hfraction ▸ hc))
  · simp [Numeral.digits, hfraction]
  · simp [Numeral.place, hfraction]
    omega
  · simp [Numeral.place, hfraction]
    omega
  · simp [Numeral.place, Numeral.digits, hfraction]
    omega

/-- **Digits are laid out as a numeral that spells them out.** -/
theorem exists_numeral (hd : ∀ c ∈ s.digits, c.isDigit = true) (hne : s.digits ≠ [])
    (style : FloatStyle) : ∃ n : Numeral, s.text style = n.text ∧ n.Spells s := by
  unfold text
  split
  · unfold positional
    split
    · rename_i hpoint
      exact ⟨_, by simp [Numeral.text], spells_small hd hpoint⟩
    · rename_i hpoint
      simp only
      split
      · rename_i hlength
        exact ⟨_, by simp [Numeral.text], spells_large hd hne (by omega)⟩
      · rename_i hlength
        exact ⟨_, by simp [Numeral.text], spells_between hd (by omega) (by omega)⟩
  · obtain ⟨digits, point⟩ := s
    obtain ⟨d, ds, rfl⟩ := List.exists_cons_of_ne_nil hne
    cases ds with
    | nil => exact ⟨_, by simp [scientific, Numeral.text], @spells_scientific d [] point none hd rfl⟩
    | cons e ds =>
        exact ⟨_, by simp [scientific, Numeral.text],
          @spells_scientific d (e :: ds) point (some (e :: ds)) hd rfl⟩

end Significant

/-! ### Reading back -/

namespace Binary64

/-- A numeral that is read as a magnitude gives the double with this magnitude. -/
theorem ofDecimal_of_reads {digits count units : Nat} {exponent : Int}
    (hreads : decimalMagnitude digits exponent = units) (hpos : 0 < units)
    (hunits : IsMagnitude units) (hmax : exponent ≤ 400) (hmin : -400 ≤ exponent + count)
    (negative : Bool) :
    ofDecimal negative digits count exponent = finite negative units hunits := by
  have hdigits : digits ≠ 0 := by
    rintro rfl
    rw [decimalMagnitude_zero] at hreads
    exact Nat.ne_of_lt hpos hreads
  have hfar : ¬ exponent > 400 := by omega
  have hsmall : ¬ exponent + count < -400 := by omega
  unfold ofDecimal
  rw [if_neg hdigits, if_neg hfar, if_neg hsmall]
  unfold decimalMagnitude at hreads
  cases hratio : decimalRatio digits exponent with
  | mk n d =>
      rw [hratio] at hreads
      simp only at hreads ⊢
      subst hreads
      exact dif_pos hunits.1

/-- The text of a magnitude: a numeral that is read as a double with this magnitude. -/
theorem exists_magnitudeText {units : Nat} (hunits : IsMagnitude units) (style : FloatStyle) :
    ∃ n : Numeral, (if units = 0 then ['0', '.', '0'] else (shortest units).text style) = n.text
      ∧ n.IsProper ∧ n.IsMarked
      ∧ ∀ negative, unsigned? negative n.text = some (finite negative units hunits) := by
  by_cases hzero : units = 0
  · subst hzero
    have hproper : Numeral.IsProper ⟨['0'], some ['0'], none⟩ :=
      ⟨by simp, Text.forall_mem_of_all rfl, Text.forall_mem_of_all rfl⟩
    have hvalue : Nat.ofDigitChars 10 (Numeral.digits ⟨['0'], some ['0'], none⟩) 0 = 0 := by decide
    refine ⟨⟨['0'], some ['0'], none⟩, if_pos rfl, hproper, .inl (by simp),
      fun negative => ?_⟩
    rw [unsigned?_text hproper, hvalue, ofDecimal, if_pos rfl]
    rfl
  · have hpos := Nat.pos_of_ne_zero hzero
    have hdenotes := denotes_shortest hpos hunits
    have hne : (shortest units).digits ≠ [] := by
      intro hnil
      have hreads := hdenotes.reads
      rw [hnil, Nat.ofDigitChars_nil, decimalMagnitude_zero] at hreads
      exact hzero hreads.symm
    obtain ⟨n, htext, hspells⟩ := Significant.exists_numeral hdenotes.isDigit hne style
    refine ⟨n, by rw [if_neg hzero, htext], hspells.isProper, hspells.isMarked, fun negative => ?_⟩
    have hmax : n.place ≤ 400 :=
      Int.le_trans hspells.place_le (Int.max_le.2 ⟨Int.le_trans hdenotes.point_le (by decide), by decide⟩)
    have hmin : -400 ≤ n.place + n.digits.length :=
      Int.le_trans (Int.le_min.2 ⟨Int.le_trans (by decide) hdenotes.point_ge, by decide⟩) hspells.le_place
    obtain ⟨zeros, hvalue, hplace⟩ := hspells.exists_zeros
    have hreads : decimalMagnitude (Nat.ofDigitChars 10 n.digits 0) n.place = units := by
      rw [hvalue, decimalMagnitude_mul_pow, hplace]
      exact hdenotes.reads
    rw [unsigned?_text hspells.isProper, ofDecimal_of_reads hreads hpos hunits hmax hmin]

/-- A text without blanks is left alone. -/
theorem stripNumeral_of_forall {cs : List Char} (h : ∀ c ∈ cs, Text.isNumeralBlank c = false) :
    Text.stripNumeral cs = cs := by
  have hstay {ds : List Char} (hds : ∀ c ∈ ds, Text.isNumeralBlank c = false) :
      ds.dropWhile Text.isNumeralBlank = ds := by
    cases ds with
    | nil => rfl
    | cons d ds =>
        rw [List.dropWhile_cons_of_neg]
        simp [hds d (List.mem_cons_self ..)]
  unfold Text.stripNumeral
  rw [hstay h, hstay (fun c hc => h c (List.mem_reverse.1 hc)), List.reverse_reverse]

/-- The characters of numerals are not blank. -/
theorem isNumeralBlank_of_mem {n : Numeral} (h : n.IsProper) {c : Char} (hc : c ∈ n.text) :
    Text.isNumeralBlank c = false := by
  have hsigns : ∀ c ∈ Numeral.signs, Text.isNumeralBlank c = false :=
    Text.forall_mem_of_all (by decide)
  rcases h.mem_text hc with hd | hs
  · simp [Text.isNumeralBlank, Text.isBlank_of_isDigit hd]
  · exact hsigns c hs

/-- A numeral with a sign or none is read by itself. -/
theorem ofText?_numeral {n : Numeral} (h : n.IsProper) (negative : Bool) :
    ofText? (String.ofList (if negative then '-' :: n.text else n.text))
      = unsigned? negative n.text := by
  obtain ⟨d, rest, htext, hd⟩ := h.exists_text
  have hminus : Text.isNumeralBlank '-' = false := by decide
  have hblank := fun c hc => @isNumeralBlank_of_mem n h c hc
  unfold ofText?
  cases negative with
  | true =>
      simp only [if_true, String.toList_ofList,
        stripNumeral_of_forall (List.forall_mem_cons.2 ⟨hminus, hblank⟩)]
  | false =>
      simp only [Bool.false_eq_true, if_false, String.toList_ofList, stripNumeral_of_forall hblank]
      rw [htext]
      split
      · rename_i heq
        obtain ⟨rfl, _⟩ := List.cons.inj heq
        exact absurd hd (by decide)
      · rename_i heq
        obtain ⟨rfl, _⟩ := List.cons.inj heq
        exact absurd hd (by decide)
      · rfl

/-- **The text of a double is read as the double.** -/
theorem ofText?_text {style : FloatStyle} (hstyle : style = .listing ∨ style = .document)
    (x : Binary64) : ofText? (x.text style) = some x := by
  cases x with
  | nan => rcases hstyle with rfl | rfl <;> rfl
  | infinite negative => rcases hstyle with rfl | rfl <;> cases negative <;> rfl
  | finite negative units hunits =>
      obtain ⟨n, htext, hproper, _, hread⟩ := exists_magnitudeText hunits style
      simp only [text]
      rw [htext, ofText?_numeral hproper, hread]

/-- **No two doubles have the same text.** -/
theorem text_injective {style : FloatStyle} (hstyle : style = .listing ∨ style = .document)
    {x y : Binary64} (h : x.text style = y.text style) : x = y := by
  have hx := ofText?_text hstyle x
  rw [h, ofText?_text hstyle y] at hx
  exact (Option.some.inj hx).symm

/-- **A double is not written like an integer:** with nothing but digits and a sign. -/
theorem exists_mem_text {style : FloatStyle} (hstyle : style = .listing ∨ style = .document)
    (x : Binary64) : ∃ c ∈ (x.text style).toList, c ≠ '-' ∧ c.isDigit = false := by
  cases x with
  | nan =>
      rcases hstyle with rfl | rfl
      · exact ⟨'n', by decide, by decide, rfl⟩
      · exact ⟨'N', by decide, by decide, rfl⟩
  | infinite negative =>
      rcases hstyle with rfl | rfl
      · exact ⟨'n', by cases negative <;> decide, by decide, rfl⟩
      · exact ⟨'n', by cases negative <;> decide, by decide, rfl⟩
  | finite negative units hunits =>
      obtain ⟨n, htext, _, hmarked, _⟩ := exists_magnitudeText hunits style
      obtain ⟨c, hc, hne, hd⟩ := hmarked.exists_mem
      refine ⟨c, ?_, hne, hd⟩
      simp only [text]
      rw [htext, String.toList_ofList]
      cases negative with
      | true => exact List.mem_cons_of_mem _ hc
      | false => exact hc

/-- The characters of the text of a double. -/
theorem mem_text {style : FloatStyle} (hstyle : style = .listing ∨ style = .document)
    (x : Binary64) :
    ∀ c ∈ (x.text style).toList, c.isAlphanum = true ∨ c ∈ Numeral.signs := by
  cases x with
  | nan =>
      rcases hstyle with rfl | rfl
      · exact Text.forall_mem_of_all (by decide)
      · exact Text.forall_mem_of_all (by decide)
  | infinite negative =>
      rcases hstyle with rfl | rfl
      · cases negative <;> exact Text.forall_mem_of_all (by decide)
      · cases negative <;> exact Text.forall_mem_of_all (by decide)
  | finite negative units hunits =>
      obtain ⟨n, htext, hproper, _, _⟩ := exists_magnitudeText hunits style
      have hmem : ∀ c ∈ n.text, c.isAlphanum = true ∨ c ∈ Numeral.signs := by
        intro c hc
        rcases hproper.mem_text hc with hd | hs
        · exact .inl (by simp [Char.isAlphanum, hd])
        · exact .inr hs
      simp only [text]
      rw [htext, String.toList_ofList]
      cases negative with
      | true => exact List.forall_mem_cons.2 ⟨.inr (by decide), hmem⟩
      | false => exact hmem

end Binary64

end RobotShorthand
