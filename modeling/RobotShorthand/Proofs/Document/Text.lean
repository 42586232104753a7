/-
**The compact text of a document says everything about it.**

A text between quotes ends at its first quote that is not escaped, and a number or a word ends where a
comma or a bracket stands, so what follows a document can always be told from the document itself.  A
document is therefore determined by its text, and so is everything in it: the numbers with their kinds,
the characters of texts, the order of elements and of members.

Main definitions:

* `Value.unescape` — the reading of one character of a text between quotes;
* `Value.IsScalar` — null, truth values and numbers, which are written without a mark at their ends;
* `Value.readScalar` — the reading of such a value;
* `Value.EndsScalar` — what may follow such a value.

Main results:

* `unescape_escapeChar` — **escapes are read back**, one unit or two;
* `readScalar_scalarText` — scalars are read back;
* `compact_append_inj` — **a document is told from what follows it**;
* `canonicalText_inj` — **canonical texts are equal exactly if the canonical forms are.**
-/

import RobotShorthand.Document.Value
import RobotShorthand.Proofs.Dense.Numeral
import RobotShorthand.Proofs.Number.ReadBack

set_option relaxedAutoImplicit false
set_option autoImplicit false

namespace RobotShorthand

-- Powers are those of the natural numbers themselves, whatever structure is known of them elsewhere.
attribute [local instance (high)] instPowNat

namespace Value

/-! ### Escapes -/

/-- The value of a hexadecimal digit. -/
def hexValue (c : Char) : Nat := (Text.hexDigit? c).getD 0

theorem hexValue_digitChar : ∀ d < 16, hexValue (Nat.digitChar d) = d := by decide

/-- Hexadecimal digits of a fixed number give a remainder of the number they are taken from. -/
theorem digitsValue_hexFixed (width n : Nat) :
    Text.digitsValue 16 ((Text.hexFixed width n).map hexValue) = n % 16 ^ width := by
  induction width generalizing n with
  | zero => simp [Text.hexFixed, Nat.mod_one]
  | succ width ih =>
      have hlast := hexValue_digitChar (n % 16) (Nat.mod_lt _ (by decide))
      rw [Text.hexFixed, List.map_append, List.map_singleton, Text.digitsValue_concat, ih, hlast,
        Nat.pow_succ, Nat.mul_comm (16 ^ width) 16, Nat.mod_mul]
      omega

/-- The number of an escaped unit, and what follows it.  The text begins behind the letter. -/
def readUnit (cs : List Char) : Nat × List Char :=
  (Text.digitsValue 16 ((cs.take 4).map hexValue), cs.drop 4)

theorem readUnit_hexFixed {n : Nat} (h : n < 0x10000) (rest : List Char) :
    readUnit (Text.hexFixed 4 n ++ rest) = (n, rest) := by
  have hlength := Text.length_hexFixed 4 n
  have htake : (Text.hexFixed 4 n ++ rest).take 4 = Text.hexFixed 4 n := List.take_left' hlength
  have hdrop : (Text.hexFixed 4 n ++ rest).drop 4 = rest := List.drop_left' hlength
  rw [readUnit, htake, hdrop, digitsValue_hexFixed, Nat.mod_eq_of_lt h]

/-- The number of a character that is escaped as one unit or as two, and what follows it. -/
def readUnits (cs : List Char) : Nat × List Char :=
  let (first, rest) := readUnit cs
  if 0xD800 ≤ first ∧ first < 0xDC00 then
    let (second, rest) := readUnit (rest.drop 2)
    (0x10000 + (first - 0xD800) * 0x400 + (second - 0xDC00), rest)
  else (first, rest)

/-- The number of the character that a letter behind a backslash stands for. -/
def letterNumber (c : Char) : Nat :=
  if c = 'n' then 0x0A
  else if c = 'r' then 0x0D
  else if c = 't' then 0x09
  else if c = 'b' then 0x08
  else if c = 'f' then 0x0C
  else c.toNat

/-- The number of the first character of a text between quotes, and what follows it. -/
def unescape : List Char → Nat × List Char
  | '\\' :: 'u' :: rest => readUnits rest
  | '\\' :: c :: rest => (letterNumber c, rest)
  | c :: rest => (c.toNat, rest)
  | [] => (0, [])

/-- A character is no half of a pair of units. -/
theorem toNat_lt_or_ge (c : Char) : c.toNat < 0xD800 ∨ 0xE000 ≤ c.toNat := by
  rcases c.valid with h | h
  · exact .inl h
  · exact .inr h.1

theorem toNat_lt (c : Char) : c.toNat < 0x110000 := by
  rcases c.valid with h | h
  · exact Nat.lt_trans h (by decide)
  · exact h.2

theorem readUnits_single {n : Nat} (h : n < 0xD800 ∨ 0xE000 ≤ n) (hn : n < 0x10000)
    (rest : List Char) : readUnits (Text.hexFixed 4 n ++ rest) = (n, rest) := by
  have hpair : ¬ (0xD800 ≤ n ∧ n < 0xDC00) := by omega
  simp only [readUnits, readUnit_hexFixed hn, if_neg hpair]

theorem readUnits_pair {first second : Nat} (hfirst : 0xD800 ≤ first ∧ first < 0xDC00)
    (hsecond : second < 0x10000) (rest : List Char) :
    readUnits (Text.hexFixed 4 first ++ (unitEscape second ++ rest))
      = (0x10000 + (first - 0xD800) * 0x400 + (second - 0xDC00), rest) := by
  have hn : first < 0x10000 := by omega
  have hdrop : (unitEscape second ++ rest).drop 2 = Text.hexFixed 4 second ++ rest := rfl
  simp only [readUnits, readUnit_hexFixed hn, if_pos hfirst, hdrop, readUnit_hexFixed hsecond]

/-- A character that is not escaped by a letter is read back from its units. -/
theorem unescape_units (c : Char) (rest : List Char) :
    unescape ((if c.toNat < 0x10000 then unitEscape c.toNat
      else unitEscape (0xD800 + (c.toNat - 0x10000) / 0x400)
        ++ unitEscape (0xDC00 + (c.toNat - 0x10000) % 0x400)) ++ rest) = (c.toNat, rest) := by
  have hunescape (n : Nat) (cs : List Char) :
      unescape (unitEscape n ++ cs) = readUnits (Text.hexFixed 4 n ++ cs) := rfl
  split
  · rename_i hsmall
    rw [hunescape, readUnits_single (toNat_lt_or_ge c) hsmall]
  · have hlarge := toNat_lt c
    rw [List.append_assoc, hunescape, readUnits_pair (by omega) (by omega)]
    refine Prod.ext ?_ rfl
    simp only
    omega

/-- **An escaped character is read back.** -/
theorem unescape_escapeChar (c : Char) (rest : List Char) :
    unescape (escapeChar c ++ rest) = (c.toNat, rest) := by
  unfold escapeChar
  split
  · subst c; rfl
  split
  · subst c; rfl
  split
  · subst c; rfl
  split
  · subst c; rfl
  split
  · subst c; rfl
  split
  · subst c; rfl
  split
  · subst c; rfl
  split
  · rename_i hbackslash _ _ _ _ _ _
    rw [List.singleton_append, unescape]
    · exact fun _ h => absurd h hbackslash
    · exact fun _ _ h => absurd h hbackslash
  · exact unescape_units c rest

/-- A character between quotes begins with no quote. -/
theorem exists_escapeChar (c : Char) : ∃ first rest, escapeChar c = first :: rest ∧ first ≠ '"' := by
  unfold escapeChar unitEscape
  split
  · exact ⟨_, _, rfl, by decide⟩
  · rename_i hquote
    repeat' split
    all_goals first
      | exact ⟨_, _, rfl, hquote⟩
      | exact ⟨_, _, rfl, by decide⟩

/-- The characters of a text do not begin with the quote that ends them. -/
theorem flatMap_escapeChar_append_ne (c : Char) (cs r r' : List Char) :
    (c :: cs).flatMap escapeChar ++ r ≠ '"' :: r' := by
  obtain ⟨first, rest, hc, hne⟩ := exists_escapeChar c
  rw [List.flatMap_cons, hc]
  exact fun h => hne (List.cons.inj h).1

/-- The characters of a text are told from what follows the quote that ends them. -/
theorem flatMap_escapeChar_append_inj {cs ds r r' : List Char}
    (h : cs.flatMap escapeChar ++ '"' :: r = ds.flatMap escapeChar ++ '"' :: r') :
    cs = ds ∧ r = r' := by
  induction cs generalizing ds with
  | nil =>
      cases ds with
      | nil => exact ⟨rfl, (List.cons.inj h).2⟩
      | cons d ds => exact absurd h.symm (flatMap_escapeChar_append_ne d ds _ _)
  | cons c cs ih =>
      cases ds with
      | nil => exact absurd h (flatMap_escapeChar_append_ne c cs _ _)
      | cons d ds =>
          have hread := congrArg unescape h
          rw [List.flatMap_cons, List.flatMap_cons, List.append_assoc, List.append_assoc,
            unescape_escapeChar, unescape_escapeChar] at hread
          obtain ⟨hcd, hrest⟩ := Prod.mk.inj hread
          obtain ⟨rfl, hr⟩ := ih hrest
          exact ⟨by rw [Char.toNat_inj.1 hcd], hr⟩

/-- **A text between quotes is told from what follows it.** -/
theorem stringText_append_inj {s t : String} {r r' : List Char}
    (h : stringText s ++ r = stringText t ++ r') : s = t ∧ r = r' := by
  simp only [stringText, List.cons_append, List.append_assoc, List.nil_append] at h
  obtain ⟨hchars, hrest⟩ := flatMap_escapeChar_append_inj (List.cons.inj h).2
  exact ⟨String.toList_injective hchars, hrest⟩

/-! ### Scalars -/

/-- Null, truth values and numbers. -/
def IsScalar : Value → Prop
  | null => True
  | bool _ => True
  | int _ => True
  | float _ => True
  | string _ => False
  | list _ => False
  | object _ => False

/-- The characters of scalars. -/
def isScalarChar (c : Char) : Bool := c.isAlphanum || Numeral.signs.contains c

theorem isScalarChar_iff {c : Char} :
    isScalarChar c = true ↔ c.isAlphanum = true ∨ c ∈ Numeral.signs := by
  simp [isScalarChar]

/-- What may follow a scalar: nothing, or a character that none has. -/
def EndsScalar (cs : List Char) : Prop := ∀ c ∈ cs.head?, isScalarChar c = false

theorem endsScalar_nil : EndsScalar [] := by simp [EndsScalar]

theorem endsScalar_cons {c : Char} {cs : List Char} (h : isScalarChar c = false) :
    EndsScalar (c :: cs) := by simpa [EndsScalar] using h

theorem takeWhile_of_endsScalar {cs : List Char} (h : EndsScalar cs) :
    cs.takeWhile isScalarChar = [] := by
  cases cs with
  | nil => rfl
  | cons c cs => exact List.takeWhile_cons_of_neg (by simpa [EndsScalar] using h)

/-- A scalar is written in its characters. -/
theorem isScalarChar_of_mem {v : Value} (h : v.IsScalar) :
    ∀ c ∈ v.scalarText, isScalarChar c = true := by
  cases v with
  | null => exact Text.forall_mem_of_all (by decide)
  | bool b => cases b <;> exact Text.forall_mem_of_all (by decide)
  | int n =>
      intro c hc
      refine isScalarChar_iff.2 ?_
      rcases Dense.mem_decimal hc with rfl | hd
      · exact .inr (by decide)
      · exact .inl (by simp [Char.isAlphanum, hd])
  | float x => exact fun c hc => isScalarChar_iff.2 (Binary64.mem_text (.inr rfl) x c hc)
  | string s => exact h.elim
  | list vs => exact h.elim
  | object ms => exact h.elim

/-- An integer from its decimal text. -/
def readInteger : List Char → Int
  | '-' :: ds => -(Nat.ofDigitChars 10 ds 0)
  | ds => Nat.ofDigitChars 10 ds 0

theorem readInteger_decimal (n : Int) : readInteger (Text.decimal n) = n := by
  cases n with
  | ofNat m =>
      rw [Int.ofNat_eq_natCast, Dense.decimal_natCast]
      have hread : readInteger (Nat.toDigits 10 m) = Nat.ofDigitChars 10 (Nat.toDigits 10 m) 0 := by
        unfold readInteger
        split
        · rename_i ds heq
          have hminus : '-' ∈ Nat.toDigits 10 m := by simp [heq]
          exact absurd (Dense.isDigit_of_mem_toDigits _ hminus) (by decide)
        · rfl
      rw [hread, Nat.ofDigitChars_ten_toDigits]
  | negSucc m =>
      have hdecimal : Text.decimal (Int.negSucc m) = '-' :: Nat.toDigits 10 (m + 1) := by
        rw [Dense.decimal_eq]
        simp [Dense.minus]
      rw [hdecimal, readInteger, Nat.ofDigitChars_ten_toDigits]
      rfl

/-- A scalar from its text. -/
def readScalar (cs : List Char) : Value :=
  if cs = "null".toList then null
  else if cs = "true".toList then bool true
  else if cs = "false".toList then bool false
  else if cs.all (fun c => c = '-' || c.isDigit) then int (readInteger cs)
  else float ((Binary64.ofText? (String.ofList cs)).getD .nan)

theorem readScalar_decimal (n : Int) : readScalar (Text.decimal n) = int n := by
  have hdecimal : ∀ c ∈ Text.decimal n, c = '-' ∨ c.isDigit = true :=
    fun c hc => Dense.mem_decimal hc
  have hword (word : String) (hw : ∃ c ∈ word.toList, ¬ (c = '-' ∨ c.isDigit = true)) :
      Text.decimal n ≠ word.toList := by
    obtain ⟨c, hc, hne⟩ := hw
    intro heq
    exact hne (hdecimal c (heq ▸ hc))
  rw [readScalar, if_neg (hword "null" ⟨'l', by decide, by decide⟩),
    if_neg (hword "true" ⟨'t', by decide, by decide⟩),
    if_neg (hword "false" ⟨'l', by decide, by decide⟩), if_pos (by simpa using hdecimal),
    readInteger_decimal]

theorem readScalar_double (x : Binary64) : readScalar (x.text .document).toList = float x := by
  have hread : Binary64.ofText? (String.ofList (x.text .document).toList) = some x := by
    rw [String.ofList_toList]
    exact Binary64.ofText?_text (.inr rfl) x
  -- a word is no text of a double, because it is not read as one
  have hword {cs : List Char} (hcs : Binary64.ofText? (String.ofList cs) = none) :
      (x.text .document).toList ≠ cs := by
    rintro rfl
    rw [hread] at hcs
    exact absurd hcs (by simp)
  have hinteger : ¬ (x.text .document).toList.all (fun c => c = '-' || c.isDigit) = true := by
    obtain ⟨c, hc, hminus, hdigit⟩ := Binary64.exists_mem_text (.inr rfl) x
    intro hall
    simpa [hminus, hdigit] using List.all_eq_true.1 hall c hc
  rw [readScalar, if_neg (hword rfl), if_neg (hword rfl), if_neg (hword rfl), if_neg hinteger,
    hread, Option.getD_some]

/-- **Scalars are read back,** integers and doubles apart. -/
theorem readScalar_scalarText {v : Value} (h : v.IsScalar) : readScalar v.scalarText = v := by
  cases v with
  | null => rfl
  | bool b => cases b <;> rfl
  | int n => exact readScalar_decimal n
  | float x => exact readScalar_double x
  | string s => exact h.elim
  | list vs => exact h.elim
  | object ms => exact h.elim

/-! ### Documents -/

/-- The compact text of a scalar. -/
theorem compact_of_isScalar {v : Value} (h : v.IsScalar) : v.compact = v.scalarText := by
  cases v with
  | list vs => exact h.elim
  | object ms => exact h.elim
  | _ => simp [compact]

theorem compact_string (s : String) : (string s).compact = stringText s := by
  simp [compact, scalarText]

/-- A scalar is written in at least one character. -/
theorem scalarText_ne_nil {v : Value} (h : v.IsScalar) : v.scalarText ≠ [] := by
  intro hnil
  cases v with
  | null => exact absurd hnil (by decide)
  | bool b => cases b <;> exact absurd hnil (by decide)
  | int n =>
      have hdecimal : Text.decimal n = [] := hnil
      rw [Dense.decimal_eq] at hdecimal
      exact Nat.toDigits_ne_nil (List.append_eq_nil_iff.1 hdecimal).2
  | float x =>
      obtain ⟨c, hc, _⟩ := Binary64.exists_mem_text (.inr rfl) x
      have htext : (x.text .document).toList = [] := hnil
      simp [htext] at hc
  | string s => exact h.elim
  | list vs => exact h.elim
  | object ms => exact h.elim

/-- The text of a scalar begins with one of its characters. -/
theorem exists_compact_of_isScalar {v : Value} (h : v.IsScalar) :
    ∃ c cs, v.compact = c :: cs ∧ isScalarChar c = true := by
  obtain ⟨c, cs, hcons⟩ := List.exists_cons_of_ne_nil (scalarText_ne_nil h)
  refine ⟨c, cs, by rw [compact_of_isScalar h, hcons], isScalarChar_of_mem h c ?_⟩
  rw [hcons]
  exact List.mem_cons_self ..

/-- The mark that the text of a document begins with: a bracket, a quote, or none. -/
def mark? : Value → Option Char
  | list _ => some '['
  | object _ => some '{'
  | string _ => some '"'
  | _ => none

theorem isScalar_iff_mark? {v : Value} : v.IsScalar ↔ v.mark? = none := by
  cases v <;> simp [IsScalar, mark?]

/-- The first character of a text tells the mark. -/
theorem exists_compact (v : Value) :
    ∃ c cs, v.compact = c :: cs ∧ v.mark? = if isScalarChar c then none else some c := by
  by_cases hv : v.IsScalar
  · obtain ⟨c, cs, hcons, hc⟩ := exists_compact_of_isScalar hv
    exact ⟨c, cs, hcons, by rw [if_pos hc, isScalar_iff_mark?.1 hv]⟩
  · cases v with
    | list vs => exact ⟨'[', _, by rw [compact]; rfl, rfl⟩
    | object ms => exact ⟨'{', _, by rw [compact]; rfl, rfl⟩
    | string s => exact ⟨'"', _, by rw [compact_string]; rfl, rfl⟩
    | _ => exact absurd trivial hv

/-- Equal beginnings have equal marks. -/
theorem mark?_eq_of_append {v w : Value} {r r' : List Char}
    (h : v.compact ++ r = w.compact ++ r') : v.mark? = w.mark? := by
  obtain ⟨c, cs, hv, hc⟩ := exists_compact v
  obtain ⟨d, ds, hw, hd⟩ := exists_compact w
  rw [hv, hw] at h
  obtain ⟨rfl, _⟩ := List.cons.inj h
  rw [hc, hd]

/-- A scalar is told from what follows it. -/
theorem scalar_append_inj {v w : Value} (hv : v.IsScalar) {r r' : List Char} (hr : EndsScalar r)
    (hr' : EndsScalar r') (h : v.compact ++ r = w.compact ++ r') : v = w ∧ r = r' := by
  have hw : w.IsScalar := isScalar_iff_mark?.2 (mark?_eq_of_append h ▸ isScalar_iff_mark?.1 hv)
  rw [compact_of_isScalar hv, compact_of_isScalar hw] at h
  have htake := congrArg (List.takeWhile isScalarChar) h
  rw [List.takeWhile_append_of_pos (isScalarChar_of_mem hv),
    List.takeWhile_append_of_pos (isScalarChar_of_mem hw), takeWhile_of_endsScalar hr,
    takeWhile_of_endsScalar hr', List.append_nil, List.append_nil] at htake
  rw [htake] at h
  have hread := congrArg readScalar htake
  rw [readScalar_scalarText hv, readScalar_scalarText hw] at hread
  exact ⟨hread, List.append_cancel_left h⟩

/-- No document begins with the bracket that ends a list. -/
theorem compact_append_ne (v : Value) (r cs : List Char) : v.compact ++ r ≠ ']' :: cs := by
  obtain ⟨d, ds, hv, hd⟩ := exists_compact v
  intro h
  rw [hv] at h
  obtain ⟨rfl, _⟩ := List.cons.inj h
  rw [if_neg (by decide)] at hd
  cases v <;> exact absurd hd (by simp [mark?])

/-! ### Elements and members -/

/-- Elements do not begin with the bracket that ends them. -/
theorem compactList_cons_append_ne (isFirst : Bool) (v : Value) (vs : List Value)
    (r r' : List Char) : compactList isFirst (v :: vs) ++ r ≠ ']' :: r' := by
  cases isFirst with
  | true =>
      simp only [compactList, if_true, List.nil_append, List.append_assoc]
      exact compact_append_ne v _ r'
  | false => simp [compactList]

/-- Members do not begin with the bracket that ends them. -/
theorem compactMembers_cons_append_ne (isFirst : Bool) (m : String × Value)
    (ms : List (String × Value)) (r r' : List Char) :
    compactMembers isFirst (m :: ms) ++ r ≠ '}' :: r' := by
  cases isFirst with
  | true => simp [compactMembers, stringText]
  | false => simp [compactMembers]

/-- What follows an element ends it. -/
theorem endsScalar_compactList (vs : List Value) (r : List Char) :
    EndsScalar (compactList false vs ++ ']' :: r) := by
  cases vs with
  | nil => exact endsScalar_cons (by decide)
  | cons v vs =>
      simp only [compactList, Bool.false_eq_true, if_false, List.append_assoc]
      exact endsScalar_cons (by decide)

/-- What follows a member ends it. -/
theorem endsScalar_compactMembers (ms : List (String × Value)) (r : List Char) :
    EndsScalar (compactMembers false ms ++ '}' :: r) := by
  cases ms with
  | nil => exact endsScalar_cons (by decide)
  | cons m ms =>
      simp only [compactMembers, Bool.false_eq_true, if_false, List.append_assoc]
      exact endsScalar_cons (by decide)

-- The cases are those of the text itself: a document that begins with a mark goes on with a text or with
-- its parts, and what follows a part ends it, so that the parts are told apart one by one.
mutual

/-- **A document is told from what follows it.** -/
theorem compact_append_inj (v w : Value) {r r' : List Char} (hr : EndsScalar r)
    (hr' : EndsScalar r') (h : v.compact ++ r = w.compact ++ r') : v = w ∧ r = r' := by
  by_cases hv : v.IsScalar
  · exact scalar_append_inj hv hr hr' h
  have hmark := mark?_eq_of_append h
  match v with
  | list vs =>
      cases w with
      | list ws =>
          simp only [compact, List.cons_append, List.append_assoc] at h
          obtain ⟨rfl, hrest⟩ := compactList_append_inj true vs ws (List.cons.inj h).2
          exact ⟨rfl, hrest⟩
      | _ => exact absurd hmark (by simp [mark?])
  | object ms =>
      cases w with
      | object ns =>
          simp only [compact, List.cons_append, List.append_assoc] at h
          obtain ⟨rfl, hrest⟩ := compactMembers_append_inj true ms ns (List.cons.inj h).2
          exact ⟨rfl, hrest⟩
      | _ => exact absurd hmark (by simp [mark?])
  | string s =>
      cases w with
      | string t =>
          rw [compact_string, compact_string] at h
          obtain ⟨rfl, hrest⟩ := stringText_append_inj h
          exact ⟨rfl, hrest⟩
      | _ => exact absurd hmark (by simp [mark?])
  | null | bool _ | int _ | float _ => exact absurd trivial hv

/-- Elements are told from what follows them. -/
theorem compactList_append_inj (isFirst : Bool) (vs ws : List Value) {r r' : List Char}
    (h : compactList isFirst vs ++ ']' :: r = compactList isFirst ws ++ ']' :: r') :
    vs = ws ∧ r = r' := by
  match vs with
  | [] =>
      cases ws with
      | nil => exact ⟨rfl, (List.cons.inj h).2⟩
      | cons w ws => exact absurd h.symm (compactList_cons_append_ne isFirst w ws _ _)
  | v :: vs =>
      cases ws with
      | nil => exact absurd h (compactList_cons_append_ne isFirst v vs _ _)
      | cons w ws =>
          simp only [compactList, List.append_assoc] at h
          obtain ⟨rfl, hrest⟩ := compact_append_inj v w (endsScalar_compactList vs r)
            (endsScalar_compactList ws r') (List.append_cancel_left h)
          obtain ⟨rfl, hr⟩ := compactList_append_inj false vs ws hrest
          exact ⟨rfl, hr⟩

/-- Members are told from what follows them. -/
theorem compactMembers_append_inj (isFirst : Bool) (ms ns : List (String × Value))
    {r r' : List Char}
    (h : compactMembers isFirst ms ++ '}' :: r = compactMembers isFirst ns ++ '}' :: r') :
    ms = ns ∧ r = r' := by
  match ms with
  | [] =>
      cases ns with
      | nil => exact ⟨rfl, (List.cons.inj h).2⟩
      | cons n ns => exact absurd h.symm (compactMembers_cons_append_ne isFirst n ns _ _)
  | (key, v) :: ms =>
      cases ns with
      | nil => exact absurd h (compactMembers_cons_append_ne isFirst _ ms _ _)
      | cons n ns =>
          obtain ⟨key', w⟩ := n
          simp only [compactMembers, List.append_assoc, List.cons_append] at h
          obtain ⟨rfl, hvalue⟩ := stringText_append_inj (List.append_cancel_left h)
          obtain ⟨rfl, hrest⟩ := compact_append_inj v w (endsScalar_compactMembers ms r)
            (endsScalar_compactMembers ns r') (List.cons.inj hvalue).2
          obtain ⟨rfl, hr⟩ := compactMembers_append_inj false ms ns hrest
          exact ⟨rfl, hr⟩

end

/-- **A document is determined by its compact text.** -/
theorem compact_injective {v w : Value} (h : v.compact = w.compact) : v = w :=
  (compact_append_inj v w endsScalar_nil endsScalar_nil (by rw [h])).1

/-- **Canonical texts are equal exactly if the canonical forms are.** -/
theorem canonicalText_inj {v w : Value} :
    v.canonicalText = w.canonicalText ↔ v.canonical = w.canonical := by
  constructor
  · intro h
    exact compact_injective (String.ofList_injective h)
  · intro h
    rw [canonicalText, canonicalText, h]

end Value

end RobotShorthand
