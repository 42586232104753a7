/-
**Reading dense code.**

Dense code is read from left to right.  The first character of an item selects its instruction and the
literal behind it is its operand; brackets hold code that is read in its turn.  Reading never fails:
what cannot be read is skipped or replaced, and a diagnostic says so.  Brackets may nest to a limited
depth, and a bracket beyond it is skipped whole.

Main definitions:

* `Symbol` — what the first character of an item selects;
* `Reading` — the instructions read and the diagnostics, in order;
* `read` — **the reading of a text,** with a number of levels that brackets may still nest or none for
  any number, and the position of the text in its source;
* `readAt` — the same from the depth that a text stands at.

Main results:

* `read_nil`, `read_move`, … — one equation for each symbol, with `readLoop` and `readConditional` for
  the two brackets.
-/

import RobotShorthand.Dense.Bracket
import RobotShorthand.Dense.Conditional
import RobotShorthand.Dense.Diagnostic
import RobotShorthand.Program.Fields

set_option relaxedAutoImplicit false
set_option autoImplicit false

namespace RobotShorthand

namespace Dense

/-! ### Symbols -/

/-- What a character selects at the beginning of an item. -/
inductive Symbol
  | move (direction : Direction)
  | turn
  | sense
  | actuate
  | loop
  | conditional
  | message
  | wait (milliseconds : Nat)
  | halt
  | separator
  | closer
  | unknown
  deriving DecidableEq

/-- The duration of a long wait. -/
def longWait : Nat := 100

/-- The duration of a short wait. -/
def shortWait : Nat := 50

/-- The symbol of a character.  Blanks separate items like semicolons and bars. -/
def Symbol.ofChar (c : Char) : Symbol :=
  match c with
  | '>' => .move .forward
  | '^' => .move .forward
  | '<' => .move .backward
  | 'v' => .move .backward
  | '/' => .move .left
  | '\\' => .move .right
  | '@' => .turn
  | '?' => .sense
  | '!' => .actuate
  | '[' => .loop
  | '{' => .conditional
  | '"' => .message
  | '.' => .wait longWait
  | ',' => .wait shortWait
  | '#' => .halt
  | ';' => .separator
  | '|' => .separator
  | ']' => .closer
  | '}' => .closer
  | c => if Text.isBlank c then .separator else .unknown

/-! ### Readings -/

/-- The instructions read from a text, and the diagnostics, in order. -/
structure Reading where
  instructions : List Instruction
  diagnostics : List Diagnostic

namespace Reading

/-- The reading of nothing. -/
def empty : Reading := ⟨[], []⟩

instance : Inhabited Reading := ⟨empty⟩

/-- One reading after another. -/
def append (r s : Reading) : Reading :=
  ⟨r.instructions ++ s.instructions, r.diagnostics ++ s.diagnostics⟩

instance : Append Reading := ⟨append⟩

@[simp] theorem instructions_append (r s : Reading) :
    (r ++ s).instructions = r.instructions ++ s.instructions := rfl

@[simp] theorem diagnostics_append (r s : Reading) :
    (r ++ s).diagnostics = r.diagnostics ++ s.diagnostics := rfl

@[simp] theorem empty_append (r : Reading) : empty ++ r = r := rfl

theorem append_assoc (r s t : Reading) : r ++ s ++ t = r ++ (s ++ t) := by
  show append (append r s) t = append r (append s t)
  simp [append]

/-- A single instruction. -/
def instruction (i : Instruction) : Reading := ⟨[i], []⟩

/-- A single diagnostic. -/
def problem (position : Int) (p : Problem) : Reading := ⟨[], [⟨position, p⟩]⟩

/-- A diagnostic if a condition holds. -/
def problemIf (condition : Bool) (position : Int) (p : Problem) : Reading :=
  if condition then problem position p else empty

end Reading

/-- The diagnostic of a literal at a position, if it is malformed. -/
def Literal.reading (l : Literal) (position : Int) : Reading :=
  .problemIf (!l.isWellFormed) position (.malformedNumber l.text)

/-! ### Operands -/

/-- A distance as it is read: at least one. -/
def atLeastOne (n : Int) : Nat := max n.toNat 1

/-- The instruction to sense under the name of the number as it is written. -/
def senseOf (n : Int) : Instruction :=
  .sense "proximity" (wrapByte n) ("s" ++ toString n)

/-- The one digit that addresses an actuator, or zero, and the text behind it. -/
def actuatorDigit (cs : List Char) : Nat × List Char :=
  match cs with
  | [] => (0, [])
  | c :: rest =>
      match Text.asciiDigit? c with
      | some d => (d, rest)
      | none => (0, cs)

theorem length_actuatorDigit_le (cs : List Char) : (actuatorDigit cs).2.length ≤ cs.length := by
  unfold actuatorDigit
  split
  · simp
  · split <;> simp

/-- The instruction to set a motor. -/
def actuateOf (actuator : Nat) (value : Int) : Instruction :=
  .actuate "motor" (wrapByte actuator) (.round (value < 0) (value.natAbs * unitsPerOne) 1)

/-- The key that the conditionals of dense code test. -/
def conditionKey : String := "s0"

/-- The predicate of a conditional. -/
def conditionOf (threshold : Int) : Predicate :=
  .threshold ⟨conditionKey, .int threshold, .above⟩

/-! ### Reading -/

/-- Whether no further level is left. -/
def noRoom (room : Option Nat) : Bool := room == some 0

/-- One level less. -/
def oneLess (room : Option Nat) : Option Nat := room.map (· - 1)

/-- **The reading of a text** at a position of its source, with `room` levels left for brackets, or
any number of them. -/
def read (room : Option Nat) (position : Int) : List Char → Reading
  | [] => .empty
  | c :: cs =>
      match Symbol.ofChar c with
      | .move direction =>
          let l := Literal.scan cs
          l.reading (position + 1) ++ .instruction (.move direction (atLeastOne l.value))
            ++ read room (position + 1 + l.length) (cs.drop l.length)
      | .turn =>
          let l := Literal.scan cs
          l.reading (position + 1) ++ .instruction (.turn (.int l.value))
            ++ read room (position + 1 + l.length) (cs.drop l.length)
      | .sense =>
          let l := Literal.scan cs
          l.reading (position + 1) ++ .instruction (senseOf l.value)
            ++ read room (position + 1 + l.length) (cs.drop l.length)
      | .actuate =>
          let a := actuatorDigit cs
          let start := position + 1 + (cs.length - a.2.length : Nat)
          let l := Literal.scan a.2
          l.reading start ++ .instruction (actuateOf a.1 l.value)
            ++ read room (start + l.length) (a.2.drop l.length)
      | .loop =>
          let e := enclosedBy '[' ']' cs
          let item :=
            if noRoom room then .problem position .tooDeep
            else
              let l := Literal.scan e.inner
              let body := read (oneLess room) (position + 1 + l.length) (e.inner.drop l.length)
              l.reading (position + 1)
                ++ ⟨[.loop (atLeastOne l.value) body.instructions], body.diagnostics⟩
          .problemIf (!e.isClosed) position .unclosedLoop ++ item
            ++ read room (position + 1 + (cs.length - e.rest.length : Nat)) e.rest
      | .conditional =>
          let e := enclosedBy '{' '}' cs
          let item :=
            if noRoom room then .problem position .tooDeep
            else
              match _h : Conditional.ofText? e.inner with
              | none => .problem (position + 1) (.malformedConditional e.inner)
              | some parts =>
                  let start := position + 1 + parts.threshold.length + 1
                  let threshold := thresholdOf? parts.threshold
                  let a := read (oneLess room) start parts.thenBranch
                  let b := read (oneLess room) (start + parts.thenBranch.length + 1)
                    parts.elseBranch
                  .problemIf threshold.isNone (position + 1) (.malformedThreshold parts.threshold)
                    ++ ⟨[.cond (conditionOf (threshold.getD defaultThreshold)) a.instructions
                          b.instructions], a.diagnostics ++ b.diagnostics⟩
          .problemIf (!e.isClosed) position .unclosedConditional ++ item
            ++ read room (position + 1 + (cs.length - e.rest.length : Nat)) e.rest
      | .message =>
          let text := cs.takeWhile (· ≠ '"')
          if text.length < cs.length then
            .instruction (.log (String.ofList text))
              ++ read room (position + 1 + text.length + 1) (cs.drop (text.length + 1))
          else .problem position .unclosedMessage ++ read room (position + 1) cs
      | .wait milliseconds => .instruction (.wait milliseconds) ++ read room (position + 1) cs
      | .halt => .instruction .halt ++ read room (position + 1) cs
      | .separator => read room (position + 1) cs
      | .closer => .problem position (.unmatchedCloser c) ++ read room (position + 1) cs
      | .unknown => .problem position (.unknownSymbol c) ++ read room (position + 1) cs
termination_by cs => cs.length
decreasing_by
  all_goals simp only [List.length_cons, List.length_drop]
  all_goals first
    | omega
    | (have bound := length_actuatorDigit_le cs; omega)
    | (have bound := length_inner_enclosedBy '[' ']' cs; omega)
    | (have bound := length_rest_enclosedBy '[' ']' cs; omega)
    | (have bound := length_rest_enclosedBy '{' '}' cs; omega)
    | (have within : e.inner.length ≤ cs.length := length_inner_enclosedBy '{' '}' cs
       have := Conditional.length_branches _h
       omega)

/-! ### One equation for each symbol -/

section Equations

variable {room : Option Nat} {position : Int} {c : Char} {cs : List Char}

@[simp] theorem read_nil : read room position [] = .empty := by rw [read]

theorem read_move {direction : Direction} (h : Symbol.ofChar c = .move direction) :
    read room position (c :: cs) =
      (Literal.scan cs).reading (position + 1)
        ++ .instruction (.move direction (atLeastOne (Literal.scan cs).value))
        ++ read room (position + 1 + (Literal.scan cs).length)
            (cs.drop (Literal.scan cs).length) := by
  rw [read]; simp only [h]

theorem read_turn (h : Symbol.ofChar c = .turn) :
    read room position (c :: cs) =
      (Literal.scan cs).reading (position + 1)
        ++ .instruction (.turn (.int (Literal.scan cs).value))
        ++ read room (position + 1 + (Literal.scan cs).length)
            (cs.drop (Literal.scan cs).length) := by
  rw [read]; simp only [h]

theorem read_sense (h : Symbol.ofChar c = .sense) :
    read room position (c :: cs) =
      (Literal.scan cs).reading (position + 1)
        ++ .instruction (senseOf (Literal.scan cs).value)
        ++ read room (position + 1 + (Literal.scan cs).length)
            (cs.drop (Literal.scan cs).length) := by
  rw [read]; simp only [h]

/-- The position behind the digit that addresses an actuator. -/
def actuatorStart (position : Int) (cs : List Char) : Int :=
  position + 1 + (cs.length - (actuatorDigit cs).2.length : Nat)

theorem read_actuate (h : Symbol.ofChar c = .actuate) :
    read room position (c :: cs) =
      (Literal.scan (actuatorDigit cs).2).reading (actuatorStart position cs)
        ++ .instruction
            (actuateOf (actuatorDigit cs).1 (Literal.scan (actuatorDigit cs).2).value)
        ++ read room
            (actuatorStart position cs + (Literal.scan (actuatorDigit cs).2).length)
            ((actuatorDigit cs).2.drop (Literal.scan (actuatorDigit cs).2).length) := by
  rw [read]; simp only [h, actuatorStart]

/-- The reading of a loop bracket by itself. -/
def readLoop (room : Option Nat) (position : Int) (inner : List Char) : Reading :=
  if noRoom room then .problem position .tooDeep
  else
    let l := Literal.scan inner
    let body := read (oneLess room) (position + 1 + l.length) (inner.drop l.length)
    l.reading (position + 1) ++ ⟨[.loop (atLeastOne l.value) body.instructions], body.diagnostics⟩

theorem read_loop (h : Symbol.ofChar c = .loop) :
    read room position (c :: cs) =
      .problemIf (!(enclosedBy '[' ']' cs).isClosed) position .unclosedLoop
        ++ readLoop room position (enclosedBy '[' ']' cs).inner
        ++ read room (position + 1 + (cs.length - (enclosedBy '[' ']' cs).rest.length : Nat))
            (enclosedBy '[' ']' cs).rest := by
  rw [read]; simp only [h, readLoop]

/-- The reading of a conditional bracket by itself. -/
def readConditional (room : Option Nat) (position : Int) (inner : List Char) : Reading :=
  if noRoom room then .problem position .tooDeep
  else
    match Conditional.ofText? inner with
    | none => .problem (position + 1) (.malformedConditional inner)
    | some parts =>
        let start := position + 1 + parts.threshold.length + 1
        let threshold := thresholdOf? parts.threshold
        let a := read (oneLess room) start parts.thenBranch
        let b := read (oneLess room) (start + parts.thenBranch.length + 1) parts.elseBranch
        .problemIf threshold.isNone (position + 1) (.malformedThreshold parts.threshold)
          ++ ⟨[.cond (conditionOf (threshold.getD defaultThreshold)) a.instructions
                b.instructions], a.diagnostics ++ b.diagnostics⟩

theorem read_conditional (h : Symbol.ofChar c = .conditional) :
    read room position (c :: cs) =
      .problemIf (!(enclosedBy '{' '}' cs).isClosed) position .unclosedConditional
        ++ readConditional room position (enclosedBy '{' '}' cs).inner
        ++ read room (position + 1 + (cs.length - (enclosedBy '{' '}' cs).rest.length : Nat))
            (enclosedBy '{' '}' cs).rest := by
  rw [read]; simp only [h, readConditional]
  congr 2
  split
  · rfl
  · cases Conditional.ofText? (enclosedBy '{' '}' cs).inner <;> rfl

theorem read_message (h : Symbol.ofChar c = .message) :
    read room position (c :: cs) =
      if (cs.takeWhile (· ≠ '"')).length < cs.length then
        .instruction (.log (String.ofList (cs.takeWhile (· ≠ '"'))))
          ++ read room (position + 1 + (cs.takeWhile (· ≠ '"')).length + 1)
              (cs.drop ((cs.takeWhile (· ≠ '"')).length + 1))
      else .problem position .unclosedMessage ++ read room (position + 1) cs := by
  rw [read]; simp only [h]

theorem read_wait {milliseconds : Nat} (h : Symbol.ofChar c = .wait milliseconds) :
    read room position (c :: cs) =
      .instruction (.wait milliseconds) ++ read room (position + 1) cs := by
  rw [read]; simp only [h]

theorem read_halt (h : Symbol.ofChar c = .halt) :
    read room position (c :: cs) = .instruction .halt ++ read room (position + 1) cs := by
  rw [read]; simp only [h]

theorem read_separator (h : Symbol.ofChar c = .separator) :
    read room position (c :: cs) = read room (position + 1) cs := by
  rw [read]; simp only [h]

theorem read_closer (h : Symbol.ofChar c = .closer) :
    read room position (c :: cs) =
      .problem position (.unmatchedCloser c) ++ read room (position + 1) cs := by
  rw [read]; simp only [h]

theorem read_unknown (h : Symbol.ofChar c = .unknown) :
    read room position (c :: cs) =
      .problem position (.unknownSymbol c) ++ read room (position + 1) cs := by
  rw [read]; simp only [h]

end Equations

/-! ### Depths -/

/-- The number of levels left for brackets at a depth. -/
def roomAt (depth : Int) : Nat := ((maxNesting : Int) - depth).toNat

/-- The reading of a text that stands at a depth. -/
def readAt (depth position : Int) (cs : List Char) : Reading := read (some (roomAt depth)) position cs

end Dense

end RobotShorthand
