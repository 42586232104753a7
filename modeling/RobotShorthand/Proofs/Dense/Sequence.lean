/-
**Dense code in sequence.**

What reading reports moves along with the text: at another position of its source a text is read as the
same instructions, with the same problems as many places further on.  And text that has come to its end
does not depend on what follows.  Every scanner looks ahead, for the closer of a bracket, for the quote
behind a message, for the end of a literal; but if no bracket and no message was left open, each of them
has found what it looked for, and a separator ends every literal.  So two texts with a separator between
them are read one after the other.

Main definitions:

* `Diagnostic.shift`, `Reading.shift` — a diagnostic and a reading some places further on;
* `Reading.IsComplete` — readings that report no bracket and no message that was left open.

Main results:

* `read_shift` — **reading moves along with its text;**
* `literalText_append_separator` — a literal ends in front of a separator at the latest;
* `read_append_separator` — **a text that leaves nothing open is read by itself,** and then what
  follows behind a separator;
* `readAt_separated` — **two texts with a semicolon between them are read one after the other.**
-/

import RobotShorthand.Proofs.Dense.Items
import RobotShorthand.Proofs.Dense.Rendering

set_option relaxedAutoImplicit false
set_option autoImplicit false

namespace RobotShorthand

/-- A diagnostic some places further on. -/
def Diagnostic.shift (distance : Int) (d : Diagnostic) : Diagnostic :=
  { d with position := d.position + distance }

namespace Dense

/-! ### Readings further on -/

namespace Reading

/-- A reading some places further on. -/
def shift (distance : Int) (r : Reading) : Reading :=
  { r with diagnostics := r.diagnostics.map (Diagnostic.shift distance) }

@[simp] theorem shift_empty (distance : Int) : empty.shift distance = empty := rfl

@[simp] theorem shift_append (distance : Int) (r s : Reading) :
    (r ++ s).shift distance = r.shift distance ++ s.shift distance := by
  show (⟨r.instructions ++ s.instructions, _⟩ : Reading) = ⟨_, _⟩
  rw [diagnostics_append, List.map_append]
  rfl

@[simp] theorem shift_instruction (distance : Int) (i : Instruction) :
    (instruction i).shift distance = instruction i := rfl

@[simp] theorem shift_problem (distance position : Int) (p : Problem) :
    (problem position p).shift distance = problem (position + distance) p := rfl

@[simp] theorem shift_problemIf (distance position : Int) (condition : Bool) (p : Problem) :
    (problemIf condition position p).shift distance
      = problemIf condition (position + distance) p := by
  cases condition <;> rfl

/-- A body inside an instruction moves along with it. -/
theorem shift_body (distance : Int) (is : List Instruction) (ds : List Diagnostic) :
    shift distance ⟨is, ds⟩ = ⟨is, ds.map (Diagnostic.shift distance)⟩ := rfl

end Reading

@[simp] theorem Literal.shift_reading (distance position : Int) (l : Literal) :
    (l.reading position).shift distance = l.reading (position + distance) :=
  Reading.shift_problemIf _ _ _ _

theorem shift_singleReading (distance position : Int) (c : Char) :
    (singleReading position c).shift distance = singleReading (position + distance) c := by
  unfold singleReading
  cases Symbol.ofChar c <;> rfl

section Shift

variable {distance : Int} {inner : List Char}

/-- A loop bracket moves along when its body does. -/
theorem readLoop_shift
    (hbody : ∀ room position, read room (position + distance) (inner.drop (Literal.scan inner).length)
      = (read room position (inner.drop (Literal.scan inner).length)).shift distance)
    (room : Option Nat) (position : Int) :
    readLoop room (position + distance) inner = (readLoop room position inner).shift distance := by
  unfold readLoop
  split
  · rfl
  · have hplace : position + distance + 1 = position + 1 + distance := by omega
    have hbehind : position + 1 + distance + (Literal.scan inner).length
        = position + 1 + (Literal.scan inner).length + distance := by omega
    simp only [hplace, hbehind, hbody, Reading.shift_append, Literal.shift_reading]
    rfl

/-- A conditional bracket moves along when its branches do. -/
theorem readConditional_shift
    (hbranches : ∀ parts, Conditional.ofText? inner = some parts →
      (∀ room position, read room (position + distance) parts.thenBranch
          = (read room position parts.thenBranch).shift distance)
        ∧ ∀ room position, read room (position + distance) parts.elseBranch
          = (read room position parts.elseBranch).shift distance)
    (room : Option Nat) (position : Int) :
    readConditional room (position + distance) inner
      = (readConditional room position inner).shift distance := by
  unfold readConditional
  split
  · rfl
  · have hplace : position + distance + 1 = position + 1 + distance := by omega
    cases hparts : Conditional.ofText? inner with
    | none => simp only [hplace, Reading.shift_problem]
    | some parts =>
        have hthen : position + 1 + distance + parts.threshold.length + 1
            = position + 1 + parts.threshold.length + 1 + distance := by omega
        have helse : position + 1 + parts.threshold.length + 1 + distance
            + parts.thenBranch.length + 1
            = position + 1 + parts.threshold.length + 1 + parts.thenBranch.length + 1
              + distance := by omega
        obtain ⟨hthenBranch, helseBranch⟩ := hbranches parts hparts
        simp only [hplace, hthen, helse, hthenBranch, helseBranch, Reading.shift_append,
          Reading.shift_problemIf, Reading.shift_body, List.map_append]
        rfl

end Shift

/-- **Reading moves along with its text:** it gives the same instructions, and the same problems as
many places further on. -/
theorem read_shift (cs : List Char) (distance : Int) (room : Option Nat) (position : Int) :
    read room (position + distance) cs = (read room position cs).shift distance := by
  have hplace (p n : Int) : p + distance + n = p + n + distance := by omega
  induction cs using item_induction generalizing room position with
  | nil => simp only [read_nil, Reading.shift_empty]
  | operand c cs hc ih =>
      rw [read_operand hc, read_operand hc]
      simp only [hplace, ih, Reading.shift_append, Literal.shift_reading,
        Reading.shift_instruction]
  | actuate cs ih =>
      have hstart : actuatorStart (position + distance) cs
          = actuatorStart position cs + distance := by
        simp only [actuatorStart, hplace]
      rw [read_actuate rfl, read_actuate rfl, actuatorDigit_snd, hstart]
      simp only [hplace, ih, Reading.shift_append, Literal.shift_reading,
        Reading.shift_instruction]
  | loop inner rest hb ihBody ih =>
      rw [read_loop_balanced hb, read_loop_balanced hb, readLoop_shift ihBody]
      simp only [hplace, ih, Reading.shift_append]
  | openLoop cs hopen ihBody =>
      rw [read_openLoop hopen, read_openLoop hopen, readLoop_shift ihBody, Reading.shift_append,
        Reading.shift_problem]
  | conditional inner rest hb ihBranches ih =>
      rw [read_conditional_balanced hb, read_conditional_balanced hb,
        readConditional_shift ihBranches]
      simp only [hplace, ih, Reading.shift_append]
  | openConditional cs hopen ihBranches =>
      rw [read_openConditional hopen, read_openConditional hopen,
        readConditional_shift ihBranches,
        Reading.shift_append, Reading.shift_problem]
  | message text rest ht ih =>
      rw [read_message_closed ht, read_message_closed ht]
      simp only [hplace, ih, Reading.shift_append, Reading.shift_instruction]
  | openMessage cs hq ih =>
      rw [read_openMessage hq, read_openMessage hq]
      simp only [hplace, ih, Reading.shift_append, Reading.shift_problem]
  | single c cs hc ih =>
      rw [read_single hc, read_single hc]
      simp only [hplace, ih, Reading.shift_append, shift_singleReading]

/-! ### Literals in front of a separator -/

section Separators

variable {s : Char} {cs rest : List Char}

theorem IsSeparator.isDigit (h : IsSeparator s) : isDigit s = false := by
  have hliteral := h.isLiteralChar
  cases hd : Dense.isDigit s with
  | false => rfl
  | true =>
      obtain ⟨d, hd⟩ := Option.isSome_iff_exists.1 hd
      rw [isLiteralChar_of_isDigit (isDigit_of_asciiDigit? hd)] at hliteral
      exact absurd hliteral (by simp)

theorem IsSeparator.ne_minus (h : IsSeparator s) : s ≠ '-' := by
  rintro rfl
  rcases h with h | h | h
  · exact absurd h (by decide)
  · exact absurd h (by decide)
  · exact absurd h (by decide)

/-- A text that begins with a separator begins with no literal. -/
theorem literalText_separator (h : IsSeparator s) : literalText (s :: rest) = [] := by
  rw [literalText, if_neg (by simp [h.isDigit])]
  exact fun _ _ he => absurd he h.ne_minus

theorem takeWhile_append_separator (h : IsSeparator s) :
    (cs ++ s :: rest).takeWhile isLiteralChar = cs.takeWhile isLiteralChar := by
  rw [List.takeWhile_append]
  split
  · rename_i hall
    rw [takeWhile_of_endsLiteral (endsLiteral_cons h.isLiteralChar), List.append_nil]
    exact (List.takeWhile_prefix _).eq_of_length hall |>.symm
  · rfl

/-- **A literal ends in front of a separator at the latest.** -/
theorem literalText_append_separator (h : IsSeparator s) :
    literalText (cs ++ s :: rest) = literalText cs := by
  fun_cases literalText cs with
  | case1 c cs hd => simp [literalText, hd, takeWhile_append_separator h]
  | case2 c cs hd => simp [literalText, hd]
  | case3 c cs hm hd =>
      have hne : c ≠ '-' := by
        rintro rfl
        exact absurd hd (by decide)
      rw [List.cons_append, literalText, if_pos hd, takeWhile_append_separator h]
      exact fun _ _ he => absurd he hne
  | case4 c cs hm hd =>
      by_cases hne : c = '-'
      · subst hne
        cases cs with
        | nil => simp [literalText, h.isDigit]
        | cons c cs => exact (hm c cs rfl rfl).elim
      · rw [List.cons_append, literalText, if_neg hd]
        exact fun _ _ he => absurd he hne
  | case5 => exact literalText_separator h

theorem scan_append_separator (h : IsSeparator s) :
    Literal.scan (cs ++ s :: rest) = Literal.scan cs := by
  rw [Literal.scan, Literal.scan, literalText_append_separator h]

/-- What follows a literal is what follows it in front of the separator, and the separator. -/
theorem drop_append_separator :
    (cs ++ s :: rest).drop (Literal.scan cs).length
      = cs.drop (Literal.scan cs).length ++ s :: rest :=
  List.drop_append_of_le_length (length_literalText_le cs)

theorem actuatorDigit_append_separator (h : IsSeparator s) :
    actuatorDigit (cs ++ s :: rest) = ((actuatorDigit cs).1, (actuatorDigit cs).2 ++ s :: rest) := by
  cases cs with
  | nil =>
      have hs : Text.asciiDigit? s = none := by simpa [Dense.isDigit] using h.isDigit
      simp [actuatorDigit, hs]
  | cons c cs =>
      rw [List.cons_append, actuatorDigit, actuatorDigit]
      cases Text.asciiDigit? c <;> rfl

theorem actuatorStart_append_separator (h : IsSeparator s) (position : Int) :
    actuatorStart position (cs ++ s :: rest) = actuatorStart position cs := by
  have hlen := length_actuatorDigit_le cs
  simp only [actuatorStart, actuatorDigit_append_separator h, List.length_append]
  omega

end Separators

/-! ### Texts that leave nothing open -/

namespace Reading

/-- A reading that reports no bracket and no message that was left open. -/
def IsComplete (r : Reading) : Prop :=
  ∀ d ∈ r.diagnostics,
    d.problem.kind ≠ "UnterminatedBracket" ∧ d.problem.kind ≠ "UnterminatedString"

theorem isComplete_append {r s : Reading} :
    (r ++ s).IsComplete ↔ r.IsComplete ∧ s.IsComplete := List.forall_mem_append

theorem isComplete_problem {position : Int} {p : Problem} :
    (problem position p).IsComplete
      ↔ p.kind ≠ "UnterminatedBracket" ∧ p.kind ≠ "UnterminatedString" := by
  simp [IsComplete, problem]

end Reading

section Sequence

variable {room : Option Nat} {position : Int} {s : Char} {a b : List Char}

/-- **A text that leaves nothing open is read by itself,** and then what follows behind a
separator. -/
theorem read_append_separator (hs : IsSeparator s) (h : (read room position a).IsComplete) :
    read room position (a ++ s :: b)
      = read room position a ++ read room (position + a.length) (s :: b) := by
  have hcons (p : Int) (cs : List Char) : p + 1 + cs.length = p + (cs.length + 1 : Nat) := by omega
  induction a using item_induction generalizing position with
  | nil => simp
  | operand c cs hc ih =>
      rw [read_operand hc] at h ⊢
      have hrest := (Reading.isComplete_append.1 h).2
      rw [List.cons_append, read_operand hc, scan_append_separator hs, drop_append_separator,
        ih hrest, position_behind_literal, hcons, ← Reading.append_assoc, List.length_cons]
  | actuate cs ih =>
      rw [← actuatorDigit_snd] at ih
      rw [read_actuate rfl] at h ⊢
      have hrest := (Reading.isComplete_append.1 h).2
      rw [List.cons_append, read_actuate rfl, actuatorDigit_append_separator hs,
        actuatorStart_append_separator hs, scan_append_separator hs, drop_append_separator,
        ih hrest, position_behind_literal, actuatorStart_add_length, hcons,
        ← Reading.append_assoc, List.length_cons]
  | loop inner rest hb _ ih =>
      rw [read_loop_balanced hb] at h ⊢
      have hrest := (Reading.isComplete_append.1 h).2
      rw [closed_append, read_loop_balanced hb, ih hrest, position_behind_closed,
        ← Reading.append_assoc]
  | openLoop cs hopen _ =>
      rw [read_openLoop hopen, Reading.isComplete_append, Reading.isComplete_problem] at h
      exact absurd rfl h.1.1
  | conditional inner rest hb _ ih =>
      rw [read_conditional_balanced hb] at h ⊢
      have hrest := (Reading.isComplete_append.1 h).2
      rw [closed_append, read_conditional_balanced hb, ih hrest, position_behind_closed,
        ← Reading.append_assoc]
  | openConditional cs hopen _ =>
      rw [read_openConditional hopen, Reading.isComplete_append, Reading.isComplete_problem] at h
      exact absurd rfl h.1.1
  | message text rest ht ih =>
      rw [read_message_closed ht] at h ⊢
      have hrest := (Reading.isComplete_append.1 h).2
      rw [closed_append, read_message_closed ht, ih hrest, position_behind_closed,
        ← Reading.append_assoc]
  | openMessage cs hq _ =>
      rw [read_openMessage hq, Reading.isComplete_append, Reading.isComplete_problem] at h
      exact absurd rfl h.1.2
  | single c cs hc ih =>
      rw [read_single hc] at h ⊢
      have hrest := (Reading.isComplete_append.1 h).2
      rw [List.cons_append, read_single hc, ih hrest, hcons, ← Reading.append_assoc,
        List.length_cons]

/-- **Two texts with a semicolon between them are read one after the other,** if the first of them
leaves no bracket and no message open.  The problems of the second are those it has by itself, as many
places further on. -/
theorem readAt_separated (depth position : Int) (a b : List Char)
    (h : (readAt depth position a).IsComplete) :
    (readAt depth position (a ++ ';' :: b)).instructions
        = (readAt depth position a).instructions ++ (readAt depth position b).instructions
      ∧ (readAt depth position (a ++ ';' :: b)).diagnostics
        = (readAt depth position a).diagnostics
          ++ (readAt depth (position + a.length + 1) b).diagnostics
      ∧ (readAt depth (position + a.length + 1) b).diagnostics
        = (readAt depth 0 b).diagnostics.map (Diagnostic.shift (position + a.length + 1)) := by
  have hseparator : IsSeparator ';' := .inl rfl
  have hmoved (distance : Int) : readAt depth distance b = (readAt depth 0 b).shift distance := by
    rw [readAt, readAt, ← read_shift, Int.zero_add]
  have hread : readAt depth position (a ++ ';' :: b)
      = readAt depth position a ++ readAt depth (position + a.length + 1) b := by
    rw [readAt, read_append_separator hseparator h, read_separator rfl]
    rfl
  refine ⟨?_, ?_, ?_⟩
  · rw [hread, Reading.instructions_append, hmoved position, hmoved (position + a.length + 1)]
    rfl
  · rw [hread, Reading.diagnostics_append]
  · rw [hmoved]
    rfl

/-- A closer without an opener leaves nothing open in the first text, and the bracket that the second
one leaves open is reported where it stands in both. -/
theorem readAt_separated_unclosed :
    (readAt 0 3 ">2]".toList).IsComplete
      ∧ (readAt 0 3 ">2];[#".toList).instructions = [.move .forward 2, .loop 1 [.halt]]
      ∧ (readAt 0 3 ">2];[#".toList).diagnostics
        = [⟨5, .unmatchedCloser ']'⟩, ⟨7, .unclosedLoop⟩] := by
  have ha : readAt 0 3 ['>', '2', ']'] = ⟨[.move .forward 2], [⟨5, .unmatchedCloser ']'⟩]⟩ := by
    have hscan : Literal.scan ['2', ']'] = ⟨['2'], some 2⟩ := rfl
    have hrest (position : Int) :
        read (some (roomAt 0)) position [']'] = .problem position (.unmatchedCloser ']') := by
      rw [read_closer rfl, read_nil, Reading.append_empty]
    rw [readAt, read_operand (by decide), hscan]
    exact congrArg _ (hrest 5)
  have hb (position : Int) :
      readAt 0 position ['[', '#'] = ⟨[.loop 1 [.halt]], [⟨position, .unclosedLoop⟩]⟩ := by
    have hscan : Literal.scan ['#'] = ⟨[], some 0⟩ := rfl
    have hbody (room : Option Nat) (position : Int) :
        read room position ['#'] = .instruction .halt := by
      rw [read_halt rfl, read_nil, Reading.append_empty]
    rw [readAt, read_openLoop (by decide), readLoop, if_neg (by decide), hscan]
    simp only [Literal.length, List.length_nil, List.drop_zero, hbody]
    rfl
  have hcomplete : (readAt 0 3 ['>', '2', ']']).IsComplete := by
    rw [ha]
    exact Reading.isComplete_problem.2 (by decide)
  obtain ⟨hinstructions, hdiagnostics, -⟩ :=
    readAt_separated 0 3 ['>', '2', ']'] ['[', '#'] hcomplete
  rw [ha, hb] at hinstructions hdiagnostics
  exact ⟨hcomplete, hinstructions, hdiagnostics⟩

end Sequence

end Dense

end RobotShorthand
