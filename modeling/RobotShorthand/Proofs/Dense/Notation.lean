/-
**The notation of the instructions.**

How each instruction is written in dense code, and that it is read back whatever stands behind it.
A numeral is safe in front of a text that ends literals
(`RobotShorthand.Proofs.Dense.Numeral`), and the text inside a bracket is found by balance alone
(`RobotShorthand.Proofs.Dense.Balance`), so the statements about brackets hold for any text inside,
well formed or not.

Main definitions:

* `Gives` — a text that is read as certain instructions wherever it stands.

Main results:

* `read_move_decimal`, `read_turn_decimal`, `read_sense_decimal`, `read_actuate_decimal` —
  instructions with a decimal operand;
* `read_loop_decimal` — **a loop bracket with a decimal count holds the reading of its body;**
* `read_conditional_decimal` — **a conditional bracket with a decimal threshold holds the readings
  of its branches;**
* `Gives.append`, `Gives.loop` — texts that are read by themselves, next to each other and inside a
  loop.
-/

import RobotShorthand.Dense.Reading
import RobotShorthand.Proofs.Dense.Balance
import RobotShorthand.Proofs.Dense.Numeral

set_option relaxedAutoImplicit false
set_option autoImplicit false

namespace RobotShorthand

namespace Dense

variable {room : Option Nat} {position : Int}

/-! ### Operands -/

/-- A literal with a value is not reported. -/
theorem Literal.reading_some (text : List Char) (value position : Int) :
    Literal.reading ⟨text, some value⟩ position = .empty := rfl

/-- What is left behind a literal in front of a text. -/
theorem drop_length_literal (text rest : List Char) (value? : Option Int) :
    (text ++ rest).drop (Literal.length ⟨text, value?⟩) = rest := List.drop_left ..

theorem read_move_decimal {c : Char} {direction : Direction} {n : Int} {rest : List Char}
    (hc : Symbol.ofChar c = .move direction) (hn : isInt32 n = true) (hrest : EndsLiteral rest) :
    read room position (c :: (Text.decimal n ++ rest)) =
      .instruction (.move direction (atLeastOne n))
        ++ read room (position + 1 + (Text.decimal n).length) rest := by
  rw [read_move hc, scan_decimal hn hrest, drop_length_literal,
    Literal.reading_some, Reading.empty_append]
  rfl

theorem read_turn_decimal {n : Int} {rest : List Char} (hn : isInt32 n = true)
    (hrest : EndsLiteral rest) :
    read room position ('@' :: (Text.decimal n ++ rest)) =
      .instruction (.turn (.int n))
        ++ read room (position + 1 + (Text.decimal n).length) rest := by
  rw [read_turn rfl, scan_decimal hn hrest, drop_length_literal,
    Literal.reading_some, Reading.empty_append]
  rfl

theorem read_sense_decimal {n : Int} {rest : List Char} (hn : isInt32 n = true)
    (hrest : EndsLiteral rest) :
    read room position ('?' :: (Text.decimal n ++ rest)) =
      .instruction (senseOf n) ++ read room (position + 1 + (Text.decimal n).length) rest := by
  rw [read_sense rfl, scan_decimal hn hrest, drop_length_literal,
    Literal.reading_some, Reading.empty_append]
  rfl

/-- The signed 32-bit numbers are doubles. -/
theorem exists_ofInt? {value : Int} (h : isInt32 value = true) :
    ∃ x, Binary64.ofInt? value = some x := by
  have hbound := isInt32_iff.1 h
  simp only [int32Min, int32Max] at hbound
  have hlt : value.natAbs < 2147483649 := by omega
  obtain ⟨hmagnitude, hround⟩ := Binary64.round_eq_finite (value < 0)
    (Nat.lt_trans hlt (by decide : 2147483649 < 2 ^ precision))
  refine ⟨.finite (value < 0) (value.natAbs * unitsPerOne) hmagnitude, ?_⟩
  rw [Binary64.ofInt?, hround]
  rfl

/-- The value of an actuator is the double nearest to its numeral. -/
theorem actuateOf_of_ofInt? {actuator : Nat} {value : Int} {x : Binary64}
    (h : Binary64.ofInt? value = some x) :
    actuateOf actuator value = .actuate "motor" (wrapByte actuator) x := by
  rw [actuateOf, Binary64.eq_of_unlessInfinite? h]

/-- An actuator is set to the double that its numeral stands for. -/
theorem ofInt?_of_isInt32 {value : Int} (h : isInt32 value = true) :
    Binary64.ofInt? value = some (.round (value < 0) (value.natAbs * unitsPerOne) 1) := by
  obtain ⟨x, hx⟩ := exists_ofInt? h
  rw [hx, Binary64.eq_of_unlessInfinite? hx]

/-- An actuator whose operands are known: the digit in front, and the literal behind it. -/
theorem read_actuate_literal {cs text rest : List Char} {actuator : Nat} {value : Int}
    (ha : actuatorDigit cs = (actuator, text ++ rest))
    (hl : Literal.scan (text ++ rest) = ⟨text, some value⟩) :
    read room position ('!' :: cs) =
      .instruction (actuateOf actuator value)
        ++ read room (actuatorStart position cs + text.length) rest := by
  rw [read_actuate rfl, ha, hl, drop_length_literal, Literal.reading_some,
    Reading.empty_append]
  rfl

/-- The digit in front of a text is the address of an actuator. -/
theorem actuatorDigit_digitChar {a : Nat} (h : a < 10) (cs : List Char) :
    actuatorDigit (a.digitChar :: cs) = (a, cs) := by
  have hd : a.digitChar.isDigit = true := by simp [Nat.isDigit_digitChar, h]
  have ha : a.digitChar.toNat - '0'.toNat = a := Nat.toNat_digitChar_sub_48_of_lt_ten h
  simp only [actuatorDigit, asciiDigit?_of_isDigit hd, ha]

theorem read_actuate_decimal {a : Nat} {n : Int} {rest : List Char} (ha : a < 10)
    (hn : isInt32 n = true) (hrest : EndsLiteral rest) :
    read room position ('!' :: a.digitChar :: (Text.decimal n ++ rest)) =
      .instruction (actuateOf a n)
        ++ read room (actuatorStart position (a.digitChar :: (Text.decimal n ++ rest))
            + (Text.decimal n).length) rest :=
  read_actuate_literal (actuatorDigit_digitChar ha _) (scan_decimal hn hrest)

/-! ### Messages -/

/-- All of a text stands in front of the first character that it does not contain. -/
theorem takeWhile_ne_of_not_mem {c : Char} {text : List Char} (h : c ∉ text) :
    text.takeWhile (· ≠ c) = text := by
  induction text with
  | nil => rfl
  | cons d text ih =>
      obtain ⟨hne, hmem⟩ := List.ne_and_not_mem_of_not_mem_cons h
      rw [List.takeWhile_cons_of_pos (by simpa using hne.symm), ih hmem]

/-- What stands in front of a character that it does not contain. -/
theorem takeWhile_ne_append_cons {c : Char} {text : List Char} (h : c ∉ text) (rest : List Char) :
    (text ++ c :: rest).takeWhile (· ≠ c) = text := by
  induction text with
  | nil => simp
  | cons d text ih =>
      obtain ⟨hne, hmem⟩ := List.ne_and_not_mem_of_not_mem_cons h
      rw [List.cons_append, List.takeWhile_cons_of_pos (by simpa using hne.symm), ih hmem]

/-- A message up to the first quote behind it. -/
theorem read_message_closed {text rest : List Char} (h : '"' ∉ text) :
    read room position ('"' :: (text ++ '"' :: rest)) =
      .instruction (.log (String.ofList text)) ++ read room (position + text.length + 2) rest := by
  have hdrop : (text ++ '"' :: rest).drop (text.length + 1) = rest := by simp
  rw [read_message rfl, takeWhile_ne_append_cons h, if_pos (by simp), hdrop]
  congr 2
  omega

/-! ### Loops -/

/-- A bracket that is closed behind a balanced text. -/
theorem enclosedBy_balanced {opener closer : Char} (hne : opener ≠ closer) {inner rest : List Char}
    (h : Balanced opener closer inner) :
    enclosedBy opener closer (inner ++ closer :: rest) = ⟨inner, some rest⟩ :=
  (enclosedBy_eq_some_iff hne).2 ⟨rfl, h⟩

/-- The position behind a bracket. -/
theorem position_behind_bracket (position : Int) (inner : List Char) (closer : Char)
    (rest : List Char) :
    position + 1 + ((inner ++ closer :: rest).length - rest.length : Nat)
      = position + inner.length + 2 := by
  simp only [List.length_append, List.length_cons]
  omega

/-- A loop bracket with a balanced text inside: the text is read by itself, then what follows. -/
theorem read_loop_balanced {inner rest : List Char} (h : Balanced '[' ']' inner) :
    read room position ('[' :: (inner ++ ']' :: rest)) =
      readLoop room position inner ++ read room (position + inner.length + 2) rest := by
  rw [read_loop rfl, enclosedBy_balanced (by decide) h,
    ← position_behind_bracket position inner ']']
  rfl

/-- Decimal text has no brackets, quotes or colons. -/
theorem not_mem_decimal {c : Char} (hm : c ≠ '-') (hd : c.isDigit = false) (n : Int) :
    c ∉ Text.decimal n := by
  intro h
  rcases mem_decimal h with h | h
  · exact hm h
  · rw [h] at hd
    exact absurd hd (by simp)

/-- **A loop bracket with a decimal count holds the reading of its body.** -/
theorem read_loop_decimal {levels : Nat} {n : Int} {body rest : List Char} (hn : isInt32 n = true)
    (hbody : EndsLiteral body) (hbalanced : Balanced '[' ']' body) :
    read (some (levels + 1)) position ('[' :: (Text.decimal n ++ body ++ ']' :: rest)) =
      let r := read (some levels) (position + 1 + (Text.decimal n).length) body
      (⟨[.loop (atLeastOne n) r.instructions], r.diagnostics⟩ : Reading)
        ++ read (some (levels + 1)) (position + (Text.decimal n ++ body).length + 2) rest := by
  have hcount : Balanced '[' ']' (Text.decimal n) :=
    .of_not_mem (not_mem_decimal (by decide) rfl n) (not_mem_decimal (by decide) rfl n)
  rw [read_loop_balanced (hcount.append hbalanced), readLoop, if_neg (by simp [noRoom])]
  simp only [scan_decimal hn hbody, drop_length_literal, Literal.reading_some,
    Reading.empty_append]
  rfl

/-! ### Conditionals -/

/-- The segments of a text are its parts between colons. -/
theorem segments_eq_splitOn (cs : List Char) : segments cs = cs.splitOn ':' := by
  induction cs with
  | nil => rfl
  | cons c cs ih =>
      rw [segments, List.splitOn_cons_eq_if_modifyHead, ih]
      by_cases hc : c = ':'
      · simp [hc]
      · rw [if_neg hc, if_neg (by simpa using hc)]
        cases h : cs.splitOn ':' with
        | nil => exact absurd h (List.splitOn_ne_nil ':' cs)
        | cons s ss => rfl

/-- A text without colons is one segment. -/
theorem segments_of_not_mem {cs : List Char} (h : ':' ∉ cs) : segments cs = [cs] := by
  rw [segments_eq_splitOn, List.splitOn_eq_singleton h]

/-- The segment up to the first colon, and those behind it. -/
theorem segments_append_colon {cs ds : List Char} (h : ':' ∉ cs) :
    segments (cs ++ ':' :: ds) = cs :: segments ds := by
  rw [segments_eq_splitOn, segments_eq_splitOn, List.splitOn_append_cons_self,
    List.splitOn_eq_singleton h, List.singleton_append]

/-- Two branches without colons, not both empty, are the branches of a conditional. -/
theorem ofText?_branches {t a b : List Char} (ht : ':' ∉ t) (ha : ':' ∉ a) (hb : ':' ∉ b)
    (hne : ¬ (a = [] ∧ b = [])) :
    Conditional.ofText? (t ++ ':' :: (a ++ ':' :: b)) = some ⟨t, a, b⟩ := by
  rw [Conditional.ofText?, segments_append_colon ht, segments_append_colon ha,
    segments_of_not_mem hb]
  cases b with
  | cons c b => rfl
  | nil =>
      cases a with
      | cons c a => rfl
      | nil => exact absurd ⟨rfl, rfl⟩ hne

/-- A conditional bracket with a balanced text inside: the text is read by itself, and then what
follows. -/
theorem read_conditional_balanced {inner rest : List Char} (h : Balanced '{' '}' inner) :
    read room position ('{' :: (inner ++ '}' :: rest)) =
      readConditional room position inner ++ read room (position + inner.length + 2) rest := by
  rw [read_conditional rfl, enclosedBy_balanced (by decide) h,
    ← position_behind_bracket position inner '}']
  rfl

/-- **A conditional bracket with a decimal threshold holds the readings of its branches.** -/
theorem read_conditional_decimal {levels : Nat} {t : Int} {a b rest : List Char}
    (hn : isInt32 t = true) (ha : ':' ∉ a) (hb : ':' ∉ b) (hne : ¬ (a = [] ∧ b = []))
    (hbalanced : Balanced '{' '}' (a ++ ':' :: b)) :
    read (some (levels + 1)) position
        ('{' :: (Text.decimal t ++ ':' :: (a ++ ':' :: b) ++ '}' :: rest)) =
      let start := position + 1 + (Text.decimal t).length + 1
      let r := read (some levels) start a
      let s := read (some levels) (start + a.length + 1) b
      (⟨[.cond (conditionOf t) r.instructions s.instructions], r.diagnostics ++ s.diagnostics⟩ :
          Reading)
        ++ read (some (levels + 1))
            (position + (Text.decimal t ++ ':' :: (a ++ ':' :: b)).length + 2) rest := by
  have hthreshold : Balanced '{' '}' (Text.decimal t ++ [':']) :=
    .of_not_mem (by simp [not_mem_decimal]) (by simp [not_mem_decimal])
  have hinner : Balanced '{' '}' (Text.decimal t ++ ':' :: (a ++ ':' :: b)) := by
    simpa using hthreshold.append hbalanced
  rw [read_conditional_balanced hinner, readConditional, if_neg (by simp [noRoom]),
    ofText?_branches (not_mem_decimal (by decide) rfl t) ha hb hne]
  simp only [thresholdOf?_decimal hn]
  rfl

/-! ### Texts that are read by themselves -/

/-- A text that is read as these instructions, with nothing to report, in front of every text that
ends literals. -/
def Gives (levels : Nat) (text : List Char) (is : List Instruction) : Prop :=
  ∀ rest, EndsLiteral rest → ∀ position, ∃ position',
    read (some levels) position (text ++ rest)
      = ⟨is, []⟩ ++ read (some levels) position' rest

section Giving

variable {levels : Nat} {text text' : List Char} {is is' : List Instruction} {n : Int}

theorem Gives.nil : Gives levels [] [] := fun _ _ position => ⟨position, rfl⟩

/-- Two texts next to each other, of which the second ends literals. -/
theorem Gives.append (h : Gives levels text is) (h' : Gives levels text' is')
    (hend : EndsLiteral text') : Gives levels (text ++ text') (is ++ is') := by
  intro rest hrest position
  obtain ⟨position', hread⟩ := h (text' ++ rest) (hend.append hrest) position
  obtain ⟨position'', hread'⟩ := h' rest hrest position'
  refine ⟨position'', ?_⟩
  rw [List.append_assoc, hread, hread', ← Reading.append_assoc]
  rfl

/-- The reading of the text by itself. -/
theorem Gives.read_eq (h : Gives levels text is) (position : Int) :
    read (some levels) position text = ⟨is, []⟩ := by
  obtain ⟨position', hread⟩ := h [] endsLiteral_nil position
  rw [List.append_nil, read_nil] at hread
  rw [hread]
  show (⟨is ++ [], [] ++ []⟩ : Reading) = ⟨is, []⟩
  rw [List.append_nil, List.append_nil]

/-- A text inside a loop. -/
theorem Gives.loop (h : Gives levels text is) (hn : isInt32 n = true) (hend : EndsLiteral text)
    (hbalanced : Balanced '[' ']' text) :
    Gives (levels + 1) ('[' :: (Text.decimal n ++ text ++ [']'])) [.loop (atLeastOne n) is] := by
  intro rest _ position
  have htext : '[' :: (Text.decimal n ++ text ++ [']']) ++ rest
      = '[' :: (Text.decimal n ++ text ++ ']' :: rest) := by simp
  have hbody := h.read_eq (position + 1 + (Text.decimal n).length)
  rw [htext, read_loop_decimal hn hend hbalanced, hbody]
  exact ⟨_, rfl⟩

theorem gives_move {c : Char} {direction : Direction} (hc : Symbol.ofChar c = .move direction)
    (hn : isInt32 n = true) :
    Gives levels (c :: Text.decimal n) [.move direction (atLeastOne n)] :=
  fun _ hrest _ => ⟨_, read_move_decimal hc hn hrest⟩

theorem gives_turn (hn : isInt32 n = true) :
    Gives levels ('@' :: Text.decimal n) [.turn (.int n)] :=
  fun _ hrest _ => ⟨_, read_turn_decimal hn hrest⟩

theorem gives_sense (hn : isInt32 n = true) :
    Gives levels ('?' :: Text.decimal n) [senseOf n] :=
  fun _ hrest _ => ⟨_, read_sense_decimal hn hrest⟩

theorem gives_actuate {a : Nat} (ha : a < 10) (hn : isInt32 n = true) :
    Gives levels ('!' :: a.digitChar :: Text.decimal n) [actuateOf a n] :=
  fun _ hrest _ => ⟨_, read_actuate_decimal ha hn hrest⟩

theorem gives_wait {c : Char} {milliseconds : Nat} (hc : Symbol.ofChar c = .wait milliseconds) :
    Gives levels [c] [.wait milliseconds] :=
  fun _ _ _ => ⟨_, read_wait hc⟩

theorem gives_halt : Gives levels ['#'] [.halt] := fun _ _ _ => ⟨_, read_halt rfl⟩

theorem gives_separator {c : Char} (hc : Symbol.ofChar c = .separator) : Gives levels [c] [] :=
  fun _ _ _ => ⟨_, read_separator hc⟩

end Giving

end Dense

end RobotShorthand
