/-
**Dense code expresses a class of trees, and reading undoes writing.**

Dense code cannot express every program: it has no conditional loops and no parallel branches, its
numerals are signed 32-bit integers, a message cannot hold a quote, and since a conditional is cut
at every colon, no conditional stands inside another.  What is left is described here by itself,
without reading or writing, together with the ways in which such a tree may be written: every
instruction in its notation, with semicolons, bars and blanks wherever two instructions of a block
meet or a block begins or ends.  Every tree of the class can be written, and however it is written,
compiling gives it back and has nothing to report.

Main definitions:

* `Plain`, `Expressible` — the instructions without a body, and **the trees that dense code
  expresses;**
* `Written`, `Rendering` — the notation of an instruction, and **the texts that a tree is written
  as.**

Main results:

* `read_written` — an instruction is read back from its notation, whatever ends its literal;
* `Rendering.balanced`, `Rendering.not_mem_colon` — brackets of a written tree close each other, and
  without conditionals it has no colons;
* `Rendering.strip` — without the blanks around it a text is still written for the same tree;
* `read_rendering` — **a written tree is read back,** at any depth that leaves enough levels;
* `compile_rendering` — **every expressible tree can be written, and compiling undoes writing.**
-/

import RobotShorthand.Program.Compilation
import RobotShorthand.Proofs.Dense.Notation

set_option relaxedAutoImplicit false
set_option autoImplicit false

namespace RobotShorthand

namespace Dense

/-! ### The trees that dense code expresses -/

/-- The instructions without a body that dense code expresses. -/
inductive Plain : Instruction → Prop
  | move {direction : Direction} {distance : Nat} :
      1 ≤ distance → distance ≤ int32Max → Plain (.move direction distance)
  | turn {degrees : Int} : isInt32 degrees = true → Plain (.turn (.int degrees))
  | sense {sensor : Int8} :
      Plain (.sense "proximity" sensor ("s" ++ toString sensor.toInt))
  | actuate {actuator : Nat} {value : Int} {x : Binary64} :
      actuator ≤ 9 → isInt32 value = true → Binary64.ofInt? value = some x →
      Plain (.actuate "motor" (wrapByte actuator) x)
  | longWait : Plain (.wait 100)
  | shortWait : Plain (.wait 50)
  | halt : Plain .halt
  | log {message : String} :
      (∀ c ∈ ['"', '[', ']', '{', '}', ':'], c ∉ message.toList) → Plain (.log message)

/-- **The trees that dense code expresses,** with at most `levels` loops and conditionals around
each other, and conditionals only where they are allowed. -/
inductive Expressible : (levels : Nat) → (conditionals : Bool) → List Instruction → Prop
  | nil {levels : Nat} {conditionals : Bool} : Expressible levels conditionals []
  | plain {levels : Nat} {conditionals : Bool} {i : Instruction} {is : List Instruction} :
      Plain i → Expressible levels conditionals is → Expressible levels conditionals (i :: is)
  | loop {levels : Nat} {conditionals : Bool} {count : Nat} {body is : List Instruction} :
      1 ≤ count → count ≤ int32Max → Expressible levels conditionals body →
      Expressible (levels + 1) conditionals is →
      Expressible (levels + 1) conditionals (.loop count body :: is)
  | cond {levels : Nat} {threshold : Int} {thenBranch elseBranch is : List Instruction} :
      isInt32 threshold = true → Expressible levels false thenBranch →
      Expressible levels false elseBranch → ¬ (thenBranch = [] ∧ elseBranch = []) →
      Expressible (levels + 1) true is →
      Expressible (levels + 1) true
        (.cond (.threshold ⟨"s0", .int threshold, .above⟩) thenBranch elseBranch :: is)

/-! ### Writing -/

/-- The symbols of the directions. -/
def moveSymbols : List (Char × Direction) :=
  [('>', .forward), ('^', .forward), ('<', .backward), ('v', .backward), ('/', .left),
    ('\\', .right)]

/-- The notation of an instruction without a body. -/
inductive Written : Instruction → List Char → Prop
  | move {symbol : Char} {direction : Direction} {distance : Nat} :
      (symbol, direction) ∈ moveSymbols →
      Written (.move direction distance) (symbol :: Text.decimal distance)
  | turn {degrees : Int} : Written (.turn (.int degrees)) ('@' :: Text.decimal degrees)
  | sense {sensor : Int8} :
      Written (.sense "proximity" sensor ("s" ++ toString sensor.toInt))
        ('?' :: Text.decimal sensor.toInt)
  -- the value is kept as a double, the numeral is an integer that it stands for
  | actuate {actuator : Nat} {value : Int} {x : Binary64} :
      actuator ≤ 9 → isInt32 value = true → Binary64.ofInt? value = some x →
      Written (.actuate "motor" (wrapByte actuator) x)
        ('!' :: actuator.digitChar :: Text.decimal value)
  | longWait : Written (.wait 100) ['.']
  | shortWait : Written (.wait 50) [',']
  | halt : Written .halt ['#']
  | log {message : String} : Written (.log message) ('"' :: (message.toList ++ ['"']))

/-- The characters that may stand anywhere between instructions. -/
def IsSeparator (c : Char) : Prop := c = ';' ∨ c = '|' ∨ Text.isBlank c = true

/-- **The texts that a tree is written as.** -/
inductive Rendering : List Instruction → List Char → Prop
  | nil : Rendering [] []
  | separator {c : Char} {is : List Instruction} {cs : List Char} :
      IsSeparator c → Rendering is cs → Rendering is (c :: cs)
  | plain {i : Instruction} {text : List Char} {is : List Instruction} {cs : List Char} :
      Written i text → Rendering is cs → Rendering (i :: is) (text ++ cs)
  | loop {count : Nat} {body is : List Instruction} {inner cs : List Char} :
      Rendering body inner → Rendering is cs →
      Rendering (.loop count body :: is) ('[' :: (Text.decimal count ++ inner ++ ']' :: cs))
  | cond {threshold : Int} {thenBranch elseBranch is : List Instruction} {as bs cs : List Char} :
      Rendering thenBranch as → Rendering elseBranch bs → Rendering is cs →
      Rendering (.cond (.threshold ⟨"s0", .int threshold, .above⟩) thenBranch elseBranch :: is)
        ('{' :: (Text.decimal threshold ++ ':' :: (as ++ ':' :: bs) ++ '}' :: cs))

/-! ### Characters of written text -/

/-- The brackets and the colon, which no notation without a body contains. -/
def structural : List Char := ['[', ']', '{', '}', ':']

/-- The characters that the notation of an instruction without a body begins with. -/
def symbols : List Char :=
  ['>', '^', '<', 'v', '/', '\\', '@', '?', '!', '.', ',', '#', '"']

theorem mem_symbols_of_mem_moveSymbols {symbol : Char} {direction : Direction}
    (h : (symbol, direction) ∈ moveSymbols) : symbol ∈ symbols := by
  have hall : ∀ e ∈ moveSymbols, e.1 ∈ symbols := by decide
  exact hall _ h

theorem Written.exists_cons {i : Instruction} {text : List Char} (h : Written i text) :
    ∃ symbol ∈ symbols, ∃ operand, text = symbol :: operand := by
  cases h with
  | move hs => exact ⟨_, mem_symbols_of_mem_moveSymbols hs, _, rfl⟩
  | _ => exact ⟨_, by decide, _, rfl⟩

/-- An instruction that has a notation by itself has no body. -/
theorem Written.plain_of_expressible {i : Instruction} {text : List Char} (h : Written i text)
    {levels : Nat} {conditionals : Bool} {is : List Instruction}
    (he : Expressible levels conditionals (i :: is)) :
    Plain i ∧ Expressible levels conditionals is := by
  cases he with
  | plain hp his => exact ⟨hp, his⟩
  | loop => cases h
  | cond => cases h

theorem not_mem_decimal_of_structural {c : Char} (h : c ∈ structural) (n : Int) :
    c ∉ Text.decimal n := by
  have hall : ∀ c ∈ structural, c ≠ '-' ∧ c.isDigit = false := Text.forall_mem_of_all (by decide)
  exact not_mem_decimal (hall c h).1 (hall c h).2 n

/-- No instruction without a body is written with a bracket or a colon. -/
theorem Written.not_mem {i : Instruction} {text : List Char} (h : Written i text) (hp : Plain i)
    {c : Char} (hc : c ∈ structural) : c ∉ text := by
  have hdecimal := not_mem_decimal_of_structural hc
  have hsymbol : ∀ s ∈ symbols, c ≠ s := by
    have hall : ∀ c ∈ structural, c ∉ symbols := Text.forall_mem_of_all (by decide)
    rintro s hs rfl
    exact hall c hc hs
  cases h with
  | move hs => simp [hsymbol _ (mem_symbols_of_mem_moveSymbols hs), hdecimal]
  | turn => simp [hsymbol '@' (by decide), hdecimal]
  | sense => simp [hsymbol '?' (by decide), hdecimal]
  | @actuate a value x ha =>
      have hdigit : c ≠ a.digitChar := by
        have hall : ∀ c ∈ structural, ∀ a ≤ 9, c ≠ a.digitChar := Text.forall_mem_of_all (by decide)
        exact hall c hc a ha
      simp [hsymbol '!' (by decide), hdigit, hdecimal]
  | longWait => simpa using hsymbol '.' (by decide)
  | shortWait => simpa using hsymbol ',' (by decide)
  | halt => simpa using hsymbol '#' (by decide)
  | log =>
      cases hp with
      | log hm => simp [hsymbol '"' (by decide), hm c (List.mem_cons_of_mem _ hc)]

/-! ### Separators -/

theorem IsSeparator.isLiteralChar {c : Char} (h : IsSeparator c) : isLiteralChar c = false := by
  rcases h with rfl | rfl | h
  · decide
  · decide
  · exact isLiteralChar_of_isBlank h

/-- Separators are neither brackets nor colons. -/
theorem IsSeparator.not_mem_structural {c : Char} (h : IsSeparator c) : c ∉ structural := by
  have hall : ∀ c ∈ structural, c ≠ ';' ∧ c ≠ '|' ∧ Text.isBlank c = false :=
    Text.forall_mem_of_all (by decide)
  intro hc
  rcases h with rfl | rfl | h
  · exact (hall _ hc).1 rfl
  · exact (hall _ hc).2.1 rfl
  · rw [(hall _ hc).2.2] at h
    exact absurd h (by simp)

theorem IsSeparator.ofChar {c : Char} (h : IsSeparator c) : Symbol.ofChar c = .separator := by
  rcases h with rfl | rfl | h
  · rfl
  · rfl
  · unfold Symbol.ofChar
    split
    case h_20 => exact if_pos h
    all_goals exact absurd h (by decide)

/-! ### Brackets and colons of a written tree -/

namespace Rendering

variable {is : List Instruction} {cs : List Char}

/-- A written tree ends the literal in front of it. -/
theorem endsLiteral (h : Rendering is cs) : EndsLiteral cs := by
  cases h with
  | nil => exact endsLiteral_nil
  | separator hc => exact endsLiteral_cons hc.isLiteralChar
  | plain hw =>
      obtain ⟨symbol, hs, operand, rfl⟩ := hw.exists_cons
      have hall : ∀ s ∈ symbols, isLiteralChar s = false := Text.forall_mem_of_all (by decide)
      exact endsLiteral_cons (hall symbol hs)
  | loop => exact endsLiteral_cons (by decide)
  | cond => exact endsLiteral_cons (by decide)

/-- Only nothing is written as nothing. -/
theorem eq_nil (h : Rendering is cs) (hcs : cs = []) : is = [] := by
  cases h with
  | nil => rfl
  | plain hw =>
      obtain ⟨symbol, _, operand, rfl⟩ := hw.exists_cons
      exact absurd hcs (by simp)
  | _ => exact absurd hcs (by simp)

/-- The pairs of brackets. -/
def pairs : List (Char × Char) := [('[', ']'), ('{', '}')]

theorem structural_of_mem_pairs {opener closer : Char} (h : (opener, closer) ∈ pairs) :
    opener ∈ structural ∧ closer ∈ structural := by
  have hall : ∀ e ∈ pairs, e.1 ∈ structural ∧ e.2 ∈ structural := by decide
  exact hall _ h

/-- Text without structural characters is balanced. -/
theorem balanced_of_not_mem {opener closer : Char} (h : (opener, closer) ∈ pairs) {text : List Char}
    (ht : ∀ c ∈ structural, c ∉ text) : Balanced opener closer text :=
  .of_not_mem (ht _ (structural_of_mem_pairs h).1) (ht _ (structural_of_mem_pairs h).2)

/-- A balanced text in one of the two brackets is balanced with respect to both. -/
theorem balanced_bracket {opener closer left right : Char} (h : (opener, closer) ∈ pairs)
    (hb : (left, right) ∈ pairs) {text : List Char} (ht : Balanced opener closer text) :
    Balanced opener closer (left :: (text ++ [right])) := by
  have hall : ∀ p ∈ pairs, ∀ q ∈ pairs, p.1 ≠ p.2 ∧ (q = p ∨ (q.1 ≠ p.1 ∧ q.1 ≠ p.2)
      ∧ q.2 ≠ p.1 ∧ q.2 ≠ p.2) := by decide
  obtain ⟨hne, hq⟩ := hall _ h _ hb
  rcases hq with hq | ⟨hl, hr⟩
  · obtain ⟨rfl, rfl⟩ := Prod.mk.inj hq
    exact ht.wrap hne
  · have hright : Balanced opener closer [right] :=
      .of_not_mem (by simpa using hr.1.symm) (by simpa using hr.2.symm)
    exact (closes_cons_of_ne hl.1 hl.2).2 (ht.append hright)

/-- **The brackets of a written tree close each other.** -/
theorem balanced (h : Rendering is cs) {levels : Nat} {conditionals : Bool}
    (he : Expressible levels conditionals is) {opener closer : Char}
    (hp : (opener, closer) ∈ pairs) : Balanced opener closer cs := by
  have hcolon : Balanced opener closer [':'] := by
    have hall : ∀ e ∈ pairs, e.1 ≠ ':' ∧ e.2 ≠ ':' := by decide
    exact .of_not_mem (by simpa using (hall _ hp).1) (by simpa using (hall _ hp).2)
  have hdecimal (n : Int) : Balanced opener closer (Text.decimal n) :=
    balanced_of_not_mem hp fun c hc => not_mem_decimal_of_structural hc n
  -- along the text, whose parts are balanced one by one
  induction h generalizing levels conditionals with
  | nil => exact .nil
  | @separator c is cs hc _ ih =>
      have hone : Balanced opener closer [c] :=
        balanced_of_not_mem hp fun d hd => by
          rw [List.mem_singleton]
          rintro rfl
          exact hc.not_mem_structural hd
      exact hone.append (ih he)
  | plain hw _ ih =>
      obtain ⟨hplain, his⟩ := hw.plain_of_expressible he
      exact (balanced_of_not_mem hp fun c hc => hw.not_mem hplain hc).append (ih his)
  | @loop count body is inner cs _ _ ihBody ih =>
      cases he with
      | plain hplain => cases hplain
      | loop _ _ hbody his =>
          have hbracket := balanced_bracket hp (by decide : ('[', ']') ∈ pairs)
            ((hdecimal count).append (ihBody hbody))
          simpa using hbracket.append (ih his)
  | @cond threshold a b is as bs cs _ _ _ ihThen ihElse ih =>
      cases he with
      | plain hplain => cases hplain
      | cond _ ha hb _ his =>
          have hbracket := balanced_bracket hp (by decide : ('{', '}') ∈ pairs)
            ((hdecimal threshold).append (hcolon.append
              ((ihThen ha).append (hcolon.append (ihElse hb)))))
          simpa using hbracket.append (ih his)

/-- Without conditionals a written tree has no colons. -/
theorem not_mem_colon (h : Rendering is cs) {levels : Nat}
    (he : Expressible levels false is) : ':' ∉ cs := by
  have hcolon : ':' ∈ structural := by decide
  have hdecimal := not_mem_decimal_of_structural hcolon
  induction h generalizing levels with
  | nil => exact List.not_mem_nil
  | @separator c is cs hc _ ih =>
      have hne : ':' ≠ c := by
        rintro rfl
        exact hc.not_mem_structural hcolon
      simpa [hne] using ih he
  | plain hw _ ih =>
      obtain ⟨hplain, his⟩ := hw.plain_of_expressible he
      simpa [hw.not_mem hplain hcolon] using ih his
  | loop _ _ ihBody ih =>
      cases he with
      | plain hplain => cases hplain
      | loop _ _ hbody his => simp [hdecimal, ihBody hbody, ih his]
  | cond =>
      cases he with
      | plain hplain => cases hplain

/-! ### Blanks around a written tree -/

theorem stripStart (h : Rendering is cs) : Rendering is (Text.stripStart cs) := by
  -- only separators can be blank, and leaving one out writes the same tree
  induction h with
  | nil => exact nil
  | @separator c is cs hc h ih =>
      by_cases hb : Text.isBlank c = true
      · simpa [Text.stripStart, hb] using ih
      · rw [Text.stripStart_cons_of_not_blank (by simpa using hb)]
        exact h.separator hc
  | plain hw h =>
      obtain ⟨symbol, hs, operand, rfl⟩ := hw.exists_cons
      have hall : ∀ s ∈ symbols, Text.isBlank s = false := Text.forall_mem_of_all (by decide)
      rw [List.cons_append, Text.stripStart_cons_of_not_blank (hall symbol hs)]
      exact h.plain hw
  | loop hbody h => exact hbody.loop h
  | cond ha hb h => exact ha.cond hb h

/-- An instruction is written with a last character that is not blank. -/
theorem exists_concat_of_written {i : Instruction} {text : List Char} (h : Written i text) :
    ∃ start last, text = start ++ [last] ∧ Text.isBlank last = false := by
  have hdecimal (n : Int) : ∃ start last, Text.decimal n = start ++ [last]
      ∧ Text.isBlank last = false := by
    have hne := Nat.toDigits_ne_nil (n := n.natAbs) (b := 10)
    have hdigit := isDigit_of_mem_toDigits _ (List.getLast_mem hne)
    refine ⟨minus (n < 0) ++ (Nat.toDigits 10 n.natAbs).dropLast,
      (Nat.toDigits 10 n.natAbs).getLast hne, ?_, Text.isBlank_of_isDigit hdigit⟩
    rw [decimal_eq, List.append_assoc, List.dropLast_concat_getLast]
  cases h with
  | @move symbol direction distance =>
      obtain ⟨start, last, he, hb⟩ := hdecimal distance
      exact ⟨symbol :: start, last, by rw [he]; rfl, hb⟩
  | @turn degrees =>
      obtain ⟨start, last, he, hb⟩ := hdecimal degrees
      exact ⟨'@' :: start, last, by rw [he]; rfl, hb⟩
  | @sense sensor =>
      obtain ⟨start, last, he, hb⟩ := hdecimal sensor.toInt
      exact ⟨'?' :: start, last, by rw [he]; rfl, hb⟩
  | @actuate actuator value =>
      obtain ⟨start, last, he, hb⟩ := hdecimal value
      exact ⟨'!' :: actuator.digitChar :: start, last, by rw [he]; rfl, hb⟩
  | longWait => exact ⟨[], '.', rfl, by decide⟩
  | shortWait => exact ⟨[], ',', rfl, by decide⟩
  | halt => exact ⟨[], '#', rfl, by decide⟩
  | @log message => exact ⟨'"' :: message.toList, '"', rfl, by decide⟩

theorem stripEnd (h : Rendering is cs) : Rendering is (Text.stripEnd cs) := by
  induction h with
  | nil => exact nil
  | @separator c is cs hc h ih =>
      by_cases hb : Text.isBlank c = true
      · rw [Text.stripEnd_cons_of_blank hb]
        split
        · rename_i hnil
          rwa [hnil] at ih
        · exact ih.separator hc
      · have hstay := Text.stripEnd_append_cons (by simpa using hb) [] cs
        rw [List.nil_append, List.nil_append] at hstay
        rw [hstay]
        exact ih.separator hc
  | @plain i text is cs hw h ih =>
      obtain ⟨start, last, rfl, hb⟩ := exists_concat_of_written hw
      rw [List.append_assoc, List.singleton_append, Text.stripEnd_append_cons hb]
      simpa using ih.plain hw
  -- behind a closer nothing of the instruction can be taken off
  | @loop count body is inner cs hbody h _ ih =>
      have hstay := Text.stripEnd_append_cons (by decide : Text.isBlank ']' = false)
        ('[' :: (Text.decimal count ++ inner)) cs
      rw [List.cons_append] at hstay
      rw [hstay]
      exact hbody.loop ih
  | @cond threshold a b is as bs cs ha hb h _ _ ih =>
      have hstay := Text.stripEnd_append_cons (by decide : Text.isBlank '}' = false)
        ('{' :: (Text.decimal threshold ++ ':' :: (as ++ ':' :: bs))) cs
      rw [List.cons_append] at hstay
      rw [hstay]
      exact ha.cond hb ih

/-- **Without the blanks around it a text is still written for the same tree.** -/
theorem strip (h : Rendering is cs) : Rendering is (Text.strip cs) := h.stripStart.stripEnd

end Rendering

/-! ### Reading what is written -/

theorem ofChar_of_mem_moveSymbols {symbol : Char} {direction : Direction}
    (h : (symbol, direction) ∈ moveSymbols) : Symbol.ofChar symbol = .move direction := by
  have hall : ∀ e ∈ moveSymbols, Symbol.ofChar e.1 = .move e.2 := by decide
  exact hall _ h

/-- A count or a distance that is not zero is read as it is. -/
theorem atLeastOne_of_pos {n : Nat} (h : 1 ≤ n) : atLeastOne n = n := by
  simp only [atLeastOne, Int.toNat_natCast]
  omega

theorem isInt32_natCast {n : Nat} (h : (n : Int) ≤ int32Max) : isInt32 (n : Int) = true := by
  rw [isInt32_iff]
  simp only [int32Min]
  omega

/-- Signed bytes are signed 32-bit numbers, and wrapping leaves them alone. -/
theorem senseOf_toInt (sensor : Int8) :
    isInt32 sensor.toInt = true
      ∧ senseOf sensor.toInt = .sense "proximity" sensor ("s" ++ toString sensor.toInt) := by
  constructor
  · rw [isInt32_iff]
    have hmin := Int8.le_toInt sensor
    have hmax := Int8.toInt_lt sensor
    simp only [int32Min, int32Max]
    omega
  · rw [senseOf, wrapByte, Int8.ofInt_toInt]

/-- **An instruction is read back from its notation,** whatever ends its literal. -/
theorem read_written {i : Instruction} {text rest : List Char} (h : Written i text) (hp : Plain i)
    (hrest : EndsLiteral rest) (room : Option Nat) (position : Int) :
    ∃ position', read room position (text ++ rest) =
      .instruction i ++ read room position' rest := by
  cases h with
  | move hs =>
      cases hp with
      | move hmin hmax =>
          have hread := @read_move_decimal room position _ _ _ _ (ofChar_of_mem_moveSymbols hs)
            (isInt32_natCast hmax) hrest
          rw [atLeastOne_of_pos hmin] at hread
          exact ⟨_, hread⟩
  | turn =>
      cases hp with
      | turn hn => exact ⟨_, read_turn_decimal hn hrest⟩
  | @sense sensor =>
      obtain ⟨hn, hsense⟩ := senseOf_toInt sensor
      have hread := @read_sense_decimal room position _ _ hn hrest
      rw [hsense] at hread
      exact ⟨_, hread⟩
  | actuate ha hn hx =>
      have hread := @read_actuate_decimal room position _ _ _ (Nat.lt_succ_of_le ha) hn hrest
      rw [actuateOf_of_ofInt? hx] at hread
      exact ⟨_, hread⟩
  | longWait => exact ⟨_, read_wait rfl⟩
  | shortWait => exact ⟨_, read_wait rfl⟩
  | halt => exact ⟨_, read_halt rfl⟩
  | @log message =>
      cases hp with
      | log hm =>
          have hquote : '"' ∉ message.toList := hm '"' (List.mem_cons_self ..)
          rw [List.cons_append, List.append_assoc, List.singleton_append]
          have hread := @read_message_closed room position _ rest hquote
          rw [String.ofList_toList] at hread
          exact ⟨_, hread⟩

/-- **A written tree is read back,** at any depth that leaves enough levels. -/
theorem read_rendering {is : List Instruction} {cs : List Char} (h : Rendering is cs) {levels : Nat}
    {conditionals : Bool} (he : Expressible levels conditionals is) (position : Int) :
    read (some levels) position cs = ⟨is, []⟩ := by
  -- along the text; inside a bracket one level less is left
  induction h generalizing levels conditionals position with
  | nil => exact read_nil
  | separator hc _ ih => rw [read_separator hc.ofChar, ih he]
  | plain hw h ih =>
      obtain ⟨hplain, his⟩ := hw.plain_of_expressible he
      obtain ⟨position', hread⟩ := read_written hw hplain h.endsLiteral (some levels) position
      rw [hread, ih his]
      rfl
  | loop hbody h ihBody ih =>
      cases he with
      | plain hplain => cases hplain
      | loop hmin hmax hebody his =>
          rw [read_loop_decimal (isInt32_natCast hmax) hbody.endsLiteral
            (hbody.balanced hebody (by decide)), ihBody hebody, ih his, atLeastOne_of_pos hmin]
          rfl
  | cond ha hb h ihThen ihElse ih =>
      cases he with
      | plain hplain => cases hplain
      | cond ht hea heb hne his =>
          -- the branches have no colons, so the text is cut at the two that are written
          have hcolon : Balanced '{' '}' [':'] := .of_not_mem (by decide) (by decide)
          have hbalanced := (ha.balanced hea (by decide : ('{', '}') ∈ Rendering.pairs)).append
            (hcolon.append (hb.balanced heb (by decide)))
          rw [read_conditional_decimal ht (ha.not_mem_colon hea) (hb.not_mem_colon heb)
            (fun h => hne ⟨ha.eq_nil h.1, hb.eq_nil h.2⟩) hbalanced]
          simp only [ihThen hea, ihElse heb, ih his]
          rfl

/-! ### Every expressible tree -/

theorem Plain.exists_written {i : Instruction} (h : Plain i) : ∃ text, Written i text := by
  cases h with
  | @move direction =>
      have hsymbol : ∃ symbol, (symbol, direction) ∈ moveSymbols := by
        cases direction with
        | forward => exact ⟨'>', by decide⟩
        | backward => exact ⟨'<', by decide⟩
        | left => exact ⟨'/', by decide⟩
        | right => exact ⟨'\\', by decide⟩
      obtain ⟨symbol, hs⟩ := hsymbol
      exact ⟨_, .move hs⟩
  | turn => exact ⟨_, .turn⟩
  | sense => exact ⟨_, .sense⟩
  | actuate ha hn hx => exact ⟨_, .actuate ha hn hx⟩
  | longWait => exact ⟨_, .longWait⟩
  | shortWait => exact ⟨_, .shortWait⟩
  | halt => exact ⟨_, .halt⟩
  | log => exact ⟨_, .log⟩

/-- Every expressible tree can be written. -/
theorem Expressible.exists_rendering {levels : Nat} {conditionals : Bool} {is : List Instruction}
    (h : Expressible levels conditionals is) : ∃ cs, Rendering is cs := by
  induction h with
  | nil => exact ⟨_, .nil⟩
  | plain hp _ ih =>
      obtain ⟨text, hw⟩ := hp.exists_written
      obtain ⟨cs, hcs⟩ := ih
      exact ⟨_, hcs.plain hw⟩
  | loop _ _ _ _ ihBody ih =>
      obtain ⟨inner, hinner⟩ := ihBody
      obtain ⟨cs, hcs⟩ := ih
      exact ⟨_, hinner.loop hcs⟩
  | cond _ _ _ _ _ ihThen ihElse ih =>
      obtain ⟨as, has⟩ := ihThen
      obtain ⟨bs, hbs⟩ := ihElse
      obtain ⟨cs, hcs⟩ := ih
      exact ⟨_, has.cond hbs hcs⟩

/-- **Every expressible tree can be written, and compiling undoes writing:** whatever text is
written for the tree, it gives the tree and nothing is reported. -/
theorem compile_rendering {is : List Instruction} (h : Expressible maxNesting true is) :
    (∃ code : String, Rendering is code.toList)
      ∧ ∀ code name : String, Rendering is code.toList →
          Dialect.dense.compile code name = ⟨name, is⟩
            ∧ (Dialect.dense.report code).diagnostics = [] := by
  constructor
  · obtain ⟨cs, hcs⟩ := h.exists_rendering
    exact ⟨String.ofList cs, by rwa [String.toList_ofList]⟩
  · intro code name hcode
    have hread (position : Int) : readAt 0 position (Text.strip code.toList) = ⟨is, []⟩ :=
      read_rendering hcode.strip h position
    constructor
    · show (⟨name, (readAt 0 0 (Text.strip code.toList)).instructions⟩ : Program) = ⟨name, is⟩
      rw [hread]
    · show (readAt 0 (Text.leadingBlanks code.toList) (Text.strip code.toList)).diagnostics = []
      rw [hread]

/-- A square, and a motor that is reversed when the way is free. -/
theorem compile_rendering_square :
    ∃ x, Binary64.ofInt? (-20) = some x
      ∧ Dialect.dense.compile " [4>50 ;@-90]\x7b30::!0-20|\x7d" "dense" =
        ⟨"dense", [.loop 4 [.move .forward 50, .turn (.int (-90))],
          .cond (.threshold ⟨"s0", .int 30, .above⟩) [] [.actuate "motor" 0 x]]⟩ := by
  obtain ⟨x, hx⟩ := exists_ofInt? (by decide : isInt32 (-20) = true)
  have hexpressible : Expressible maxNesting true
      [.loop 4 [.move .forward 50, .turn (.int (-90))],
        .cond (.threshold ⟨"s0", .int 30, .above⟩) [] [.actuate "motor" 0 x]] := by
    refine @Expressible.loop 99 true 4 _ _ (by decide) (by decide) ?_ ?_
    · exact .plain (.move (by decide) (by decide)) (.plain (.turn (by decide)) .nil)
    · exact @Expressible.cond 99 30 _ _ _ (by decide) .nil
        (.plain (.actuate (Nat.zero_le 9) (by decide) hx) .nil) (by simp) .nil
  have hbody : Rendering [.move .forward 50, .turn (.int (-90))] ">50 ;@-90".toList :=
    .plain (.move (by decide : ('>', _) ∈ moveSymbols)) (.separator (.inr (.inr (by decide)))
      (.separator (.inl rfl) (.plain .turn .nil)))
  have helse : Rendering [.actuate "motor" 0 x] "!0-20|".toList :=
    .plain (.actuate (Nat.zero_le 9) (by decide) hx) (.separator (.inr (.inl rfl)) .nil)
  exact ⟨x, hx, ((compile_rendering hexpressible).2 _ _
    (.separator (.inr (.inr (by decide))) (hbody.loop (.cond .nil helse .nil)))).1⟩

end Dense

end RobotShorthand
