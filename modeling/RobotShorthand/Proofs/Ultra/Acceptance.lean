/-
**Which ultra-dense code is accepted.**

Strict compiling refuses ultra-dense code for the errors of expanding it and for those of reading what
it expands to, and there are none of the second sort.  So what is accepted is a matter of the text
alone: it is a sequence of shorthands that have their operands, loops that are closed, and characters
that are none of the four symbols.  Operands may be any characters, those symbols included; only the
two characters of a turn have to be readable as degrees.

Turns are documented to take two hexadecimal digits.  Degrees are read by a general reader of
integers, though, which takes a sign in front of one digit as well, and the decimal digits of every
script.  Code with such a turn is accepted, and it is all that is accepted beyond the documentation.

Main definitions:

* `Conforms` — **sequences of complete shorthands,** for a condition on the two characters of a turn;
* `IsHexPair` — two hexadecimal digits in ASCII;
* `IsDegrees` — two characters that are read as degrees;
* `IsStretched` — two characters of which one is a sign or a digit of another script;
* `Expansion.IsErrorFree` — expansions without errors.

Main results:

* `conforms_cons_iff` — how a conforming text begins, and so that it is taken apart in one way only;
* `Conforms.imp`, `Conforms.and` — conditions on turns, weakened and joined;
* `isErrorFree_expand_iff` — **an expansion has no errors exactly if its text conforms;**
* `accepts_ultra_iff` — **what is accepted,** and that it is what is documented up to stretched turns;
* `signed_turn_accepted` — a turn with a sign is accepted.
-/

import RobotShorthand.Proofs.Ultra.Warnings

set_option relaxedAutoImplicit false
set_option autoImplicit false

namespace RobotShorthand

namespace Ultra

open RobotShorthand.Dense

/-! ### Sequences of complete shorthands -/

/-- The characters that begin a shorthand with operands. -/
def symbols : List Char := ['&', '$', '~', '*']

/-- **Sequences of complete shorthands,** with a condition on the two characters of a turn.  A loop has
a count and goes up to the first star behind it, so its body has none. -/
inductive Conforms (isTurn : Char → Char → Prop) : List Char → Prop
  | nil : Conforms isTurn []
  | actuate (address power : Char) {cs : List Char} :
      Conforms isTurn cs → Conforms isTurn ('&' :: address :: power :: cs)
  | turn {high low : Char} {cs : List Char} :
      isTurn high low → Conforms isTurn cs → Conforms isTurn ('$' :: high :: low :: cs)
  | sense (sensor : Char) {cs : List Char} :
      Conforms isTurn cs → Conforms isTurn ('~' :: sensor :: cs)
  | loop (count : Char) {body cs : List Char} :
      '*' ∉ body → Conforms isTurn body → Conforms isTurn cs →
        Conforms isTurn ('*' :: count :: (body ++ '*' :: cs))
  | other {c : Char} {cs : List Char} :
      c ∉ symbols → Conforms isTurn cs → Conforms isTurn (c :: cs)

section Conforms

variable {P Q : Char → Char → Prop} {c : Char} {body cs : List Char}

/-- **How a conforming text begins.** -/
theorem conforms_cons_iff :
    Conforms P (c :: cs) ↔
      (c = '&' ∧ ∃ address power ds, cs = address :: power :: ds ∧ Conforms P ds)
      ∨ (c = '$' ∧ ∃ high low ds, cs = high :: low :: ds ∧ P high low ∧ Conforms P ds)
      ∨ (c = '~' ∧ ∃ sensor ds, cs = sensor :: ds ∧ Conforms P ds)
      ∨ (c = '*' ∧ ∃ count body ds, cs = count :: (body ++ '*' :: ds) ∧ '*' ∉ body
          ∧ Conforms P body ∧ Conforms P ds)
      ∨ (c ∉ symbols ∧ Conforms P cs) := by
  constructor
  · intro h
    cases h with
    | actuate address power h => exact .inl ⟨rfl, address, power, _, rfl, h⟩
    | turn hturn h => exact .inr (.inl ⟨rfl, _, _, _, rfl, hturn, h⟩)
    | sense sensor h => exact .inr (.inr (.inl ⟨rfl, sensor, _, rfl, h⟩))
    | loop count hbody h h' =>
        exact .inr (.inr (.inr (.inl ⟨rfl, count, _, _, rfl, hbody, h, h'⟩)))
    | other hc h => exact .inr (.inr (.inr (.inr ⟨hc, h⟩)))
  · rintro (⟨rfl, address, power, ds, rfl, h⟩ | ⟨rfl, high, low, ds, rfl, hturn, h⟩
      | ⟨rfl, sensor, ds, rfl, h⟩ | ⟨rfl, count, body, ds, rfl, hbody, h, h'⟩ | ⟨hc, h⟩)
    · exact .actuate address power h
    · exact .turn hturn h
    · exact .sense sensor h
    · exact .loop count hbody h h'
    · exact .other hc h

@[simp] theorem conforms_actuate {address power : Char} :
    Conforms P ('&' :: address :: power :: cs) ↔ Conforms P cs := by
  simp [conforms_cons_iff (c := '&'), symbols, and_assoc]

@[simp] theorem conforms_turn {high low : Char} :
    Conforms P ('$' :: high :: low :: cs) ↔ P high low ∧ Conforms P cs := by
  simp [conforms_cons_iff (c := '$'), symbols, and_assoc]

@[simp] theorem conforms_sense {sensor : Char} :
    Conforms P ('~' :: sensor :: cs) ↔ Conforms P cs := by
  simp [conforms_cons_iff (c := '~'), symbols, and_assoc]

theorem eq_of_append_star {body' cs' : List Char} (h : '*' ∉ body) (h' : '*' ∉ body')
    (heq : body ++ '*' :: cs = body' ++ '*' :: cs') : body = body' ∧ cs = cs' := by
  have hbody : body = body' := by
    rw [← takeWhile_ne_append_cons h cs, heq, takeWhile_ne_append_cons h' cs']
  subst hbody
  exact ⟨rfl, (List.cons.inj (List.append_cancel_left heq)).2⟩

theorem conforms_loop {count : Char} (h : '*' ∉ body) :
    Conforms P ('*' :: count :: (body ++ '*' :: cs)) ↔ Conforms P body ∧ Conforms P cs := by
  constructor
  · intro hcs
    rcases conforms_cons_iff.1 hcs with ⟨hc, _⟩ | ⟨hc, _⟩ | ⟨hc, _⟩
      | ⟨_, count', body', ds, heq, hbody', hinner, hds⟩ | ⟨hc, _⟩
    · exact absurd hc (by decide)
    · exact absurd hc (by decide)
    · exact absurd hc (by decide)
    · obtain ⟨rfl, rfl⟩ := eq_of_append_star h hbody' (List.cons.inj heq).2
      exact ⟨hinner, hds⟩
    · exact absurd (by decide) hc
  · rintro ⟨hinner, hcs⟩
    exact .loop count h hinner hcs

theorem conforms_other (hc : c ∉ symbols) : Conforms P (c :: cs) ↔ Conforms P cs := by
  refine ⟨fun hcs => ?_, .other hc⟩
  simp only [symbols, List.mem_cons, List.not_mem_nil, or_false, not_or] at hc
  simpa [conforms_cons_iff, hc, symbols] using hcs

/-- A symbol that lacks its operands, or the star that closes its loop, begins nothing. -/
theorem not_conforms_alone (h : IsAlone c cs) (hc : c ∈ symbols) : ¬ Conforms P (c :: cs) := by
  intro hcs
  rcases conforms_cons_iff.1 hcs with ⟨rfl, address, power, ds, rfl, _⟩
    | ⟨rfl, high, low, ds, rfl, _⟩ | ⟨rfl, sensor, ds, rfl, _⟩
    | ⟨rfl, count, body, ds, rfl, _⟩ | ⟨hother, _⟩
  · exact absurd (h.pair (.inl rfl)) (by simp)
  · exact absurd (h.pair (.inr rfl)) (by simp)
  · exact absurd (h.one rfl) (by simp)
  · exact absurd (h.loop rfl) (by simp)
  · exact hother hc

theorem Conforms.imp (h : ∀ high low, P high low → Q high low) (hcs : Conforms P cs) :
    Conforms Q cs := by
  induction hcs with
  | nil => exact .nil
  | actuate address power _ ih => exact .actuate address power ih
  | turn hturn _ ih => exact .turn (h _ _ hturn) ih
  | sense sensor _ ih => exact .sense sensor ih
  | loop count hbody _ _ ihBody ih => exact .loop count hbody ihBody ih
  | other hc _ ih => exact .other hc ih

/-- Two conditions are met by the turns of one and the same sequence of shorthands. -/
theorem Conforms.and (hP : Conforms P cs) (hQ : Conforms Q cs) :
    Conforms (fun high low => P high low ∧ Q high low) cs := by
  induction hP with
  | nil => exact .nil
  | actuate address power _ ih => exact .actuate address power (ih (conforms_actuate.1 hQ))
  | turn hturn _ ih =>
      obtain ⟨hturn', hcs⟩ := conforms_turn.1 hQ
      exact .turn ⟨hturn, hturn'⟩ (ih hcs)
  | sense sensor _ ih => exact .sense sensor (ih (conforms_sense.1 hQ))
  | loop count hbody _ _ ihBody ih =>
      obtain ⟨hinner, hcs⟩ := (conforms_loop hbody).1 hQ
      exact .loop count hbody (ihBody hinner) (ih hcs)
  | other hc _ ih => exact .other hc (ih ((conforms_other hc).1 hQ))

end Conforms

/-! ### The two characters of a turn -/

/-- A hexadecimal digit in ASCII. -/
def IsHexDigit (c : Char) : Prop :=
  (48 ≤ c.toNat ∧ c.toNat ≤ 57) ∨ (97 ≤ c.toNat ∧ c.toNat ≤ 102) ∨ (65 ≤ c.toNat ∧ c.toNat ≤ 70)

/-- A decimal digit of another script. -/
def IsForeignDigit (c : Char) : Prop := (Text.decimalDigit? c).isSome = true ∧ ¬ IsHexDigit c

instance (c : Char) : Decidable (IsHexDigit c) := inferInstanceAs (Decidable (_ ∨ _ ∨ _))

/-- Two hexadecimal digits in ASCII. -/
def IsHexPair (high low : Char) : Prop := IsHexDigit high ∧ IsHexDigit low

/-- **Two characters that are read as degrees:** two digits, or a sign and one digit, where digits are
hexadecimal or decimal in any script. -/
def IsDegrees (high low : Char) : Prop :=
  (high = '+' ∨ high = '-' ∨ IsHexDigit high ∨ IsForeignDigit high)
    ∧ (IsHexDigit low ∨ IsForeignDigit low)

/-- Two characters of which the first is a sign or one is a digit of another script. -/
def IsStretched (high low : Char) : Prop :=
  high = '+' ∨ high = '-' ∨ IsForeignDigit high ∨ IsForeignDigit low

theorem isSome_hexDigit?_iff {c : Char} : (Text.hexDigit? c).isSome = true ↔ IsHexDigit c := by
  unfold Text.hexDigit? Text.alphanumericDigit? IsHexDigit
  dsimp only
  split
  · simp [Option.isSome_filter]
    omega
  · split
    · simp [Option.isSome_filter]
      omega
    · split
      · simp [Option.isSome_filter]
        omega
      · simp
        omega

theorem isSome_hexDigitOf?_iff {c : Char} :
    (hexDigitOf? c).isSome = true ↔ IsHexDigit c ∨ IsForeignDigit c := by
  rw [hexDigitOf?, Option.isSome_or, Bool.or_eq_true, isSome_hexDigit?_iff, IsForeignDigit]
  by_cases hc : IsHexDigit c
  · simp [hc]
  · simp [hc]

theorem isSome_degreesOf?_iff {high low : Char} :
    (degreesOf? high low).isSome = true ↔ IsDegrees high low := by
  rw [IsDegrees, ← isSome_hexDigitOf?_iff, ← isSome_hexDigitOf?_iff, degreesOf?]
  cases hexDigitOf? low with
  | none => simp
  | some l =>
      by_cases hplus : high = '+'
      · simp [hplus]
      · by_cases hminus : high = '-'
        · simp [hminus]
        · simp only [hplus, hminus, if_false, false_or, Option.isSome_some, and_true]
          cases hexDigitOf? high <;> rfl

/-- Two hexadecimal digits are degrees that are not stretched. -/
theorem isHexPair_iff {high low : Char} :
    IsHexPair high low ↔ IsDegrees high low ∧ ¬ IsStretched high low := by
  have hplus : ¬ IsHexDigit '+' := by decide
  have hminus : ¬ IsHexDigit '-' := by decide
  constructor
  · rintro ⟨hhigh, hlow⟩
    refine ⟨⟨.inr (.inr (.inl hhigh)), .inl hlow⟩, ?_⟩
    rintro (rfl | rfl | hforeign | hforeign)
    · exact hplus hhigh
    · exact hminus hhigh
    · exact hforeign.2 hhigh
    · exact hforeign.2 hlow
  · rintro ⟨⟨hhigh, hlow⟩, hstretched⟩
    simp only [IsStretched, not_or] at hstretched
    obtain ⟨hp, hm, hfhigh, hflow⟩ := hstretched
    simp only [hp, hm, hfhigh, false_or, or_false] at hhigh
    exact ⟨hhigh, hlow.resolve_right hflow⟩

/-! ### Expansions without errors -/

namespace Expansion

/-- An expansion whose diagnostics are warnings only. -/
def IsErrorFree (x : Expansion) : Prop := ∀ d ∈ x.diagnostics, d.isError = false

@[simp] theorem isErrorFree_append {x y : Expansion} :
    (x ++ y).IsErrorFree ↔ x.IsErrorFree ∧ y.IsErrorFree := by
  simp only [IsErrorFree, diagnostics_append, List.forall_mem_append]

@[simp] theorem isErrorFree_empty : empty.IsErrorFree := by simp [IsErrorFree, empty]

@[simp] theorem isErrorFree_text (cs : List Char) : (text cs).IsErrorFree := by
  simp [IsErrorFree, text]

@[simp] theorem isErrorFree_problem {position : Int} {p : Problem} :
    (problem position p).IsErrorFree ↔ p.severity = .warning := by
  cases h : p.severity <;> simp [IsErrorFree, problem, Diagnostic.isError, h]

@[simp] theorem isErrorFree_within {before after : List Char} {x : Expansion} :
    (x.within before after).IsErrorFree ↔ x.IsErrorFree := Iff.rfl

end Expansion

theorem isErrorFree_turnExpansion {position : Int} {high low : Char} :
    (turnExpansion position high low).IsErrorFree ↔ IsDegrees high low := by
  rw [← isSome_degreesOf?_iff, turnExpansion]
  cases degreesOf? high low with
  | none => simp [Problem.severity]
  | some degrees => simp

/-- A character by itself is an error exactly if it is a symbol, which then lacks its operands. -/
theorem isErrorFree_single {position : Int} {c : Char} :
    (single position c).IsErrorFree ↔ c ∉ symbols := by
  unfold single symbols
  split
  case h_9 _ hactuate hturn hsense hloop _ _ _ _ =>
      refine iff_of_true ?_ (by simpa using ⟨hactuate, hturn, hsense, hloop⟩)
      split
      · exact Expansion.isErrorFree_text _
      · exact Expansion.isErrorFree_problem.2 rfl
  all_goals simp [Problem.severity]

/-- **An expansion has no errors exactly if its text conforms.** -/
theorem isErrorFree_expand_iff (cs : List Char) (position : Int) :
    (expand position cs).IsErrorFree ↔ Conforms IsDegrees cs := by
  -- one shorthand at a time; a symbol by itself is an error and begins no shorthand
  induction cs using shorthand_induction generalizing position with
  | nil => simp [Conforms.nil]
  | actuate address power cs ih => simp [expand_actuate, ih]
  | turn high low cs ih => simp [expand_turn, isErrorFree_turnExpansion, ih]
  | sense sensor cs ih => simp [expand_sense, ih]
  | loop count body cs hbody ihBody ih =>
      rw [expand_loop hbody, conforms_loop hbody, Expansion.isErrorFree_append,
        Expansion.isErrorFree_within, ihBody, ih]
  | alone c cs halone ih =>
      rw [expand_alone halone, Expansion.isErrorFree_append, isErrorFree_single, ih]
      by_cases hc : c ∈ symbols
      · exact iff_of_false (fun h => h.1 hc) (not_conforms_alone halone hc)
      · rw [conforms_other hc]
        exact and_iff_right hc

/-! ### Acceptance -/

/-- Nothing that is reported for what a text expands to is an error. -/
theorem isAccepted_report_iff (code : String) :
    (Dialect.ultra.report code).isAccepted = true ↔ (expand 0 code.toList).IsErrorFree := by
  have hdense : ∀ d ∈ Dialect.denseDiagnostics (expand 0 code.toList).dense, d.isError = false := by
    intro d hd
    obtain ⟨c, hc⟩ := isUnknownSymbol_of_mem hd
    simp [Diagnostic.isError, hc, Problem.severity]
  rw [Report.isAccepted_iff]
  show (∀ d ∈ (expand 0 code.toList).diagnostics
      ++ Dialect.denseDiagnostics (expand 0 code.toList).dense, d.isError = false) ↔ _
  rw [List.forall_mem_append]
  exact and_iff_left hdense

/-- **Ultra-dense code is accepted exactly if it is a sequence of complete shorthands whose turns are
readable as degrees.**  The sequences whose turns have two hexadecimal digits are those among them
without a stretched turn. -/
theorem accepts_ultra_iff (code : String) (name? : Option String) :
    ((∃ p, Dialect.ultra.compileStrict code name? = .ok p) ↔ Conforms IsDegrees code.toList)
      ∧ (Conforms IsHexPair code.toList
          ↔ (∃ p, Dialect.ultra.compileStrict code name? = .ok p)
            ∧ Conforms (fun high low => ¬ IsStretched high low) code.toList) := by
  have haccepts : (∃ p, Dialect.ultra.compileStrict code name? = .ok p)
      ↔ Conforms IsDegrees code.toList := by
    simp only [Dialect.compileStrict_eq_ok_iff, exists_and_left, exists_eq, and_true]
    rw [isAccepted_report_iff, isErrorFree_expand_iff]
  refine ⟨haccepts, ?_⟩
  rw [haccepts]
  constructor
  · intro h
    exact ⟨h.imp fun _ _ hpair => (isHexPair_iff.1 hpair).1,
      h.imp fun _ _ hpair => (isHexPair_iff.1 hpair).2⟩
  · rintro ⟨hdegrees, hplain⟩
    exact (hdegrees.and hplain).imp fun _ _ hpair => isHexPair_iff.2 hpair

/-- **A turn with a sign is accepted.**  A plus sign is no hexadecimal digit, yet the two characters
are read as five degrees. -/
theorem signed_turn_accepted :
    Dialect.ultra.compileStrict "$+5" none = .ok ⟨"ultra", [.turn 5]⟩
      ∧ ¬ Conforms IsHexPair "$+5".toList := by
  refine ⟨?_, fun h => ?_⟩
  · with_unfolding_all rfl
  · exact absurd (conforms_turn.1 h).1.1 (by decide)

end Ultra

end RobotShorthand
