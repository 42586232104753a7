/-
**Where problems are reported.**

Positions are put together by hand at every level: brackets, counts, thresholds and branches are cut
out of the text around them, and what stands in front of them has to be counted again.  This module
keeps, besides the position of a text, that the text stands at that position of its source.  From
this every diagnostic is seen to point at the piece of the source that it is about, and because the
pieces of a text follow one another, so do the diagnostics.

Main definitions:

* `StandsAt` — a text that stands at a position of a source;
* `Diagnostic.PointsInto` — **what a diagnostic says about the place that it points to;**
* `Diagnostic.Precedes` — the order of diagnostics;
* `Located` — diagnostics that point into a source, between two positions and in order.

Main results:

* `StandsAt.left`, `StandsAt.right`, `StandsAt.suffix` — the pieces of a text that stands somewhere;
* `Located.append` — diagnostics of one piece and then of a later one;
* `exists_eq_branches` — where the branches of a conditional stand in its text;
* `located_read` — **what reading reports points into the source, in order;**
* `located_denseDiagnostics` — the same for dense code with blanks around it.
-/

import RobotShorthand.Proofs.Dense.Items

set_option relaxedAutoImplicit false
set_option autoImplicit false

namespace RobotShorthand

/-! ### Places in a source -/

/-- A text that stands at a position of a source. -/
def StandsAt (source : List Char) (position : Int) (text : List Char) : Prop :=
  ∃ front back, source = front ++ text ++ back ∧ position = front.length

namespace StandsAt

variable {source text as bs : List Char} {position : Int}

theorem refl (source : List Char) : StandsAt source 0 source := ⟨[], [], by simp, rfl⟩

theorem le_length (h : StandsAt source position text) :
    position + text.length ≤ source.length := by
  obtain ⟨front, back, rfl, rfl⟩ := h
  simp only [List.length_append]
  omega

/-- The front of a text stands where the text does. -/
theorem left (h : StandsAt source position (as ++ bs)) : StandsAt source position as := by
  obtain ⟨front, back, rfl, rfl⟩ := h
  exact ⟨front, bs ++ back, by simp, rfl⟩

/-- The rest of a text stands behind its front. -/
theorem right (h : StandsAt source position (as ++ bs)) :
    StandsAt source (position + as.length) bs := by
  obtain ⟨front, back, rfl, rfl⟩ := h
  exact ⟨front ++ as, back, by simp, by simp⟩

theorem head {c : Char} (h : StandsAt source position (c :: as)) : StandsAt source position [c] :=
  @left source [c] as position h

theorem tail {c : Char} (h : StandsAt source position (c :: as)) :
    StandsAt source (position + 1) as := @right source [c] as position h

/-- The end of a text stands as far behind its beginning as it is shorter. -/
theorem suffix (h : StandsAt source position as) (hsuffix : bs <:+ as) :
    StandsAt source (position + (as.length - bs.length : Nat)) bs := by
  obtain ⟨front, rfl⟩ := hsuffix
  have hlen : (front ++ bs).length - bs.length = front.length := by simp
  rw [hlen]
  exact h.right

theorem drop (h : StandsAt source position as) {n : Nat} (hn : n ≤ as.length) :
    StandsAt source (position + n) (as.drop n) := by
  rw [← List.take_append_drop n as] at h
  have hright := h.right
  rwa [List.length_take_of_le hn] at hright

/-- A text between two characters, and the text behind the second one. -/
theorem closed {opener closer : Char} (h : StandsAt source position (opener :: (as ++ closer :: bs))) :
    StandsAt source (position + 1) as ∧ StandsAt source (position + as.length + 2) bs := by
  have hplace : position + as.length + 2 = position + 1 + as.length + 1 := by omega
  rw [hplace]
  exact ⟨h.tail.left, h.tail.right.tail⟩

end StandsAt

/-! ### Diagnostics and their places -/

/-- The character that a shorthand begins with. -/
def Shorthand.symbol : Shorthand → Char
  | actuator => '&'
  | turn => '$'
  | sensor => '~'

/-- **What a diagnostic says about the place that it points to:** the text that it quotes stands
there, or the character that it is about.  Each dialect has problems of its own. -/
def Diagnostic.PointsInto (dialect : Dialect) (source : List Char) (d : Diagnostic) : Prop :=
  match dialect, d.problem with
  | .dense, .malformedNumber text => StandsAt source d.position text
  | .dense, .malformedThreshold text => StandsAt source d.position text
  | .dense, .malformedConditional inner => StandsAt source (d.position - 1) ('{' :: inner)
  | .dense, .unclosedLoop => StandsAt source d.position ['[']
  | .dense, .unclosedConditional => StandsAt source d.position ['{']
  | .dense, .unclosedMessage => StandsAt source d.position ['"']
  | .dense, .tooDeep => StandsAt source d.position ['['] ∨ StandsAt source d.position ['{']
  | .dense, .unmatchedCloser c => StandsAt source d.position [c]
  | .dense, .unknownSymbol c => StandsAt source d.position [c]
  | .ultra, .malformedDegrees text => StandsAt source (d.position - 1) ('$' :: text)
  | .ultra, .truncated shorthand => StandsAt source d.position [shorthand.symbol]
  | .ultra, .unclosedRepeat => StandsAt source d.position ['*']
  | .ultra, .unknownShorthand c => StandsAt source d.position [c]
  | _, _ => False

/-- The order of diagnostics: by position, and at one position of different kinds, which occurs in
dense code only. -/
def Diagnostic.Precedes (dialect : Dialect) (d e : Diagnostic) : Prop :=
  match dialect with
  | .dense => d.position ≤ e.position ∧ ¬ (d.problem.kind = e.problem.kind ∧ d.position = e.position)
  | .ultra => d.position < e.position

theorem Diagnostic.precedes_of_lt {dialect : Dialect} {d e : Diagnostic}
    (h : d.position < e.position) : d.Precedes dialect e := by
  cases dialect with
  | dense => exact ⟨by omega, by omega⟩
  | ultra => exact h

/-- **Diagnostics that point into a source,** from one position to another and in order. -/
structure Located (dialect : Dialect) (source : List Char) (first last : Int)
    (ds : List Diagnostic) : Prop where
  points : ∀ d ∈ ds, d.PointsInto dialect source
  bounds : ∀ d ∈ ds, first ≤ d.position ∧ d.position ≤ last
  ordered : ds.Pairwise (Diagnostic.Precedes dialect)

namespace Located

variable {dialect : Dialect} {source : List Char} {first last first' last' : Int} {d : Diagnostic}
  {ds es : List Diagnostic}

theorem nil : Located dialect source first last [] :=
  ⟨fun _ h => absurd h List.not_mem_nil, fun _ h => absurd h List.not_mem_nil, .nil⟩

theorem single (hpoints : d.PointsInto dialect source) (hfirst : first ≤ d.position)
    (hlast : d.position ≤ last) : Located dialect source first last [d] := by
  refine ⟨?_, ?_, List.pairwise_singleton ..⟩
  · intro e he
    rwa [List.mem_singleton.1 he]
  · intro e he
    rw [List.mem_singleton.1 he]
    exact ⟨hfirst, hlast⟩

theorem mono (h : Located dialect source first' last' ds) (hfirst : first ≤ first')
    (hlast : last' ≤ last) : Located dialect source first last ds :=
  ⟨h.points, fun d hd => ⟨Int.le_trans hfirst (h.bounds d hd).1,
    Int.le_trans (h.bounds d hd).2 hlast⟩, h.ordered⟩

/-- Two lists of diagnostics between the same positions, all of the one before all of the other. -/
theorem append_of_order (h : Located dialect source first last ds)
    (h' : Located dialect source first last es) (horder : ∀ d ∈ ds, ∀ e ∈ es, d.Precedes dialect e) :
    Located dialect source first last (ds ++ es) := by
  refine ⟨?_, ?_, List.pairwise_append.2 ⟨h.ordered, h'.ordered, horder⟩⟩
  · exact List.forall_mem_append.2 ⟨h.points, h'.points⟩
  · exact List.forall_mem_append.2 ⟨h.bounds, h'.bounds⟩

/-- **Diagnostics of one piece of a source and then of a later one.** -/
theorem append (h : Located dialect source first last ds) (h' : Located dialect source first' last' es)
    (hlater : last < first') (hfirst : first ≤ first') (hlast : last ≤ last') :
    Located dialect source first last' (ds ++ es) := by
  refine append_of_order (h.mono (Int.le_refl _) hlast) (h'.mono hfirst (Int.le_refl _)) ?_
  intro d hd e he
  have hd := (h.bounds d hd).2
  have he := (h'.bounds e he).1
  exact Diagnostic.precedes_of_lt (by omega)

end Located

namespace Dense

/-! ### The segments of a conditional -/

/-- Segments with colons between them begin with the first one. -/
theorem intercalate_cons (s : List Char) (ss : List (List Char)) :
    [':'].intercalate (s :: ss) = s ++ (if ss = [] then [] else ':' :: [':'].intercalate ss) := by
  cases ss with
  | nil => simp
  | cons t ss => simp [List.intercalate_cons_cons]

/-- Segments are dropped at the end only. -/
theorem withoutEmptyEnd_prefix (ss : List (List Char)) : withoutEmptyEnd ss <+: ss := by
  rw [← List.reverse_suffix, withoutEmptyEnd, List.reverse_reverse]
  exact List.dropWhile_suffix _

/-- **Where the branches of a conditional stand in its text:** behind the first colon, and behind the
second unless the second branch is empty. -/
theorem exists_eq_branches {inner : List Char} {parts : Conditional}
    (h : Conditional.ofText? inner = some parts) :
    ∃ back, inner = parts.threshold ++ ':' :: (parts.thenBranch ++ back)
      ∧ (parts.elseBranch = [] ∨ ∃ back', back = ':' :: (parts.elseBranch ++ back')) := by
  obtain ⟨t, a, more, hs, rfl⟩ := ofText?_eq_some_iff.1 h
  obtain ⟨dropped, hdropped⟩ := withoutEmptyEnd_prefix (inner.splitOn ':')
  have hinner : inner = [':'].intercalate (t :: a :: (more ++ dropped)) := by
    rw [← List.cons_append, ← List.cons_append, ← hs, hdropped, List.intercalate_splitOn]
  rw [intercalate_cons, if_neg (List.cons_ne_nil _ _), intercalate_cons] at hinner
  refine ⟨_, hinner, ?_⟩
  cases more with
  | nil => exact .inl rfl
  | cons b more =>
      rw [List.cons_append, if_neg (List.cons_ne_nil _ _), intercalate_cons]
      exact .inr ⟨_, rfl⟩

/-! ### Reading -/

section Reading

variable {source : List Char} {room : Option Nat} {position : Int} {c : Char} {cs inner : List Char}

/-- A malformed literal is not empty and stands where it is reported. -/
theorem Literal.located_reading (h : StandsAt source position cs) :
    Located .dense source position (position + (scan cs).length - 1)
      ((scan cs).reading position).diagnostics := by
  unfold Literal.reading Reading.problemIf
  split
  · rename_i hmalformed
    have hne : literalText cs ≠ [] := by
      intro hnil
      simp [isWellFormed, scan, hnil] at hmalformed
    have hpos : 0 < (scan cs).length := List.length_pos_iff.2 hne
    have htext : StandsAt source position (literalText cs) := by
      rw [← literalText_append_drop cs] at h
      exact h.left
    exact .single htext (Int.le_refl _) (by show position ≤ _; omega)
  · exact .nil

theorem located_singleReading (h : StandsAt source position [c]) :
    Located .dense source position position (singleReading position c).diagnostics := by
  unfold singleReading
  split
  · exact .nil
  · exact .nil
  · exact .single h (Int.le_refl _) (Int.le_refl _)
  · exact .single h (Int.le_refl _) (Int.le_refl _)
  · exact .nil

/-- Diagnostics of one piece and then of a later one, by their positions. -/
theorem located_append {first last first' last' : Int} {r r' : Reading}
    (h : Located .dense source first last r.diagnostics)
    (h' : Located .dense source first' last' r'.diagnostics)
    (hlater : last < first') (hfirst : first ≤ first') (hlast : last ≤ last') :
    Located .dense source first last' (r ++ r').diagnostics :=
  h.append h' hlater hfirst hlast

/-- An instruction between two readings reports nothing. -/
theorem diagnostics_append_instruction (r r' : Reading) (i : Instruction) :
    (r ++ .instruction i ++ r').diagnostics = (r ++ r').diagnostics := by
  simp [Reading.instruction]

/-- A literal and the text behind it. -/
theorem located_literal (h : StandsAt source position cs)
    (hrest : ∀ {p : Int}, StandsAt source p (cs.drop (Literal.scan cs).length) →
      Located .dense source p (p + (cs.drop (Literal.scan cs).length).length)
        (read room p (cs.drop (Literal.scan cs).length)).diagnostics) :
    Located .dense source position (position + cs.length)
      ((Literal.scan cs).reading position
        ++ read room (position + (Literal.scan cs).length)
            (cs.drop (Literal.scan cs).length)).diagnostics := by
  have hlen : (Literal.scan cs).length ≤ cs.length := length_literalText_le cs
  have hlocated := hrest (h.drop hlen)
  rw [List.length_drop] at hlocated
  exact located_append (Literal.located_reading h) (hlocated.mono (Int.le_refl _) (by omega))
    (by omega) (by omega) (by omega)

/-- What a bracket reports by itself: that it is too deep, or something about the text inside. -/
def BracketLocated (source : List Char) (position : Int) (inner : List Char) (r : Reading) : Prop :=
  r = .problem position .tooDeep
    ∨ Located .dense source (position + 1) (position + 1 + inner.length) r.diagnostics

theorem bracketLocated_readLoop (h : StandsAt source (position + 1) inner)
    (hbody : ∀ {room : Option Nat} {p : Int},
      StandsAt source p (inner.drop (Literal.scan inner).length) →
      Located .dense source p (p + (inner.drop (Literal.scan inner).length).length)
        (read room p (inner.drop (Literal.scan inner).length)).diagnostics) :
    BracketLocated source position inner (readLoop room position inner) := by
  unfold readLoop
  split
  · exact .inl rfl
  · exact .inr (located_literal h hbody)

theorem bracketLocated_readConditional (h : StandsAt source position ('{' :: inner))
    (hbranches : ∀ parts, Conditional.ofText? inner = some parts →
      (∀ {room : Option Nat} {p : Int}, StandsAt source p parts.thenBranch →
        Located .dense source p (p + parts.thenBranch.length)
          (read room p parts.thenBranch).diagnostics)
      ∧ ∀ {room : Option Nat} {p : Int}, StandsAt source p parts.elseBranch →
        Located .dense source p (p + parts.elseBranch.length)
          (read room p parts.elseBranch).diagnostics) :
    BracketLocated source position inner (readConditional room position inner) := by
  unfold readConditional
  split
  · exact .inl rfl
  · cases hparts : Conditional.ofText? inner with
    | none =>
        have hpoints : Diagnostic.PointsInto .dense source
            ⟨position + 1, .malformedConditional inner⟩ := by
          show StandsAt source (position + 1 - 1) ('{' :: inner)
          rwa [Int.add_sub_cancel]
        exact .inr (.single hpoints (Int.le_refl _) (by show position + 1 ≤ _; omega))
    | some parts =>
        obtain ⟨hthen, helse⟩ := hbranches parts hparts
        obtain ⟨back, hinner, hback⟩ := exists_eq_branches hparts
        have htail : StandsAt source (position + 1)
            (parts.threshold ++ ':' :: (parts.thenBranch ++ back)) := hinner ▸ h.tail
        have hlen := congrArg List.length hinner
        simp only [List.length_append, List.length_cons] at hlen
        have hthreshold : Located .dense source (position + 1)
            (position + 1 + parts.threshold.length)
            (Reading.problemIf (thresholdOf? parts.threshold).isNone (position + 1)
              (.malformedThreshold parts.threshold)).diagnostics := by
          unfold Reading.problemIf
          split
          · exact .single htail.left (Int.le_refl _) (by show position + 1 ≤ _; omega)
          · exact .nil
        have hthenBranch := @hthen (oneLess room) _ htail.right.tail.left
        have helseBranch : Located .dense source
            (position + 1 + parts.threshold.length + 1 + parts.thenBranch.length + 1)
            (position + 1 + inner.length)
            (read (oneLess room)
              (position + 1 + parts.threshold.length + 1 + parts.thenBranch.length + 1)
              parts.elseBranch).diagnostics := by
          rcases hback with hnil | ⟨back', rfl⟩
          · rw [hnil, read_nil]
            exact .nil
          · have hlen' : inner.length = parts.threshold.length + (parts.thenBranch.length
                + (parts.elseBranch.length + back'.length + 1) + 1) := by simpa using hlen
            exact (helse htail.right.tail.right.tail.left).mono (Int.le_refl _) (by omega)
        have hbranches := located_append hthenBranch helseBranch (by omega) (by omega) (by omega)
        exact .inr (located_append hthreshold hbranches (by omega) (by omega) (by omega))

/-- A bracket that is closed reports something about itself at most. -/
theorem BracketLocated.closed {r : Reading} (h : BracketLocated source position inner r)
    (hopener : StandsAt source position ['['] ∨ StandsAt source position ['{']) :
    Located .dense source position (position + 1 + inner.length) r.diagnostics := by
  rcases h with rfl | h
  · exact .single hopener (Int.le_refl _) (by show position ≤ _; omega)
  · exact h.mono (by omega) (Int.le_refl _)

/-- A bracket that is never closed reports this first. -/
theorem BracketLocated.unclosed {r : Reading} (h : BracketLocated source position inner r)
    (hopener : StandsAt source position ['['] ∨ StandsAt source position ['{']) {p : Problem}
    (hkind : p.kind = Problem.kind .unclosedLoop) (hpoints : Diagnostic.PointsInto .dense source ⟨position, p⟩) :
    Located .dense source position (position + 1 + inner.length)
      (.problem position p ++ r : Reading).diagnostics := by
  have hfirst : Located .dense source position (position + 1 + inner.length)
      [⟨position, p⟩] := .single hpoints (Int.le_refl _) (by show position ≤ _; omega)
  refine hfirst.append_of_order (h.closed hopener) ?_
  intro d hd e he
  obtain rfl := List.mem_singleton.1 hd
  rcases h with rfl | h
  · obtain rfl := List.mem_singleton.1 he
    have hdeep : Problem.kind .unclosedLoop ≠ Problem.kind .tooDeep := by decide
    exact ⟨Int.le_refl _, fun hsame => hdeep (hkind.symm.trans hsame.1)⟩
  · have hlater := (h.bounds e he).1
    exact Diagnostic.precedes_of_lt (by show position < _; omega)

/-- **What reading reports points into the source, in order.** -/
theorem located_read (h : StandsAt source position cs) :
    Located .dense source position (position + cs.length)
      (read room position cs).diagnostics := by
  -- one item at a time, since what an item reports ends in front of the next one
  induction cs using item_induction generalizing room position with
  | nil =>
      rw [read_nil]
      exact .nil
  | operand c cs hc ih =>
      rw [read_operand hc, diagnostics_append_instruction]
      exact (located_literal h.tail ih).mono (by omega) (by simp; omega)
  | actuate cs ih =>
      have hbehind : StandsAt source (actuatorStart position cs) (behindDigit cs) := by
        rw [actuatorStart, actuatorDigit_snd]
        exact h.tail.suffix (suffix_behindDigit cs)
      have hend := actuatorStart_add_length position cs
      rw [actuatorDigit_snd] at hend
      rw [read_actuate rfl, actuatorDigit_snd, diagnostics_append_instruction]
      exact (located_literal hbehind ih).mono (by rw [actuatorStart]; omega)
        (by rw [List.length_cons]; omega)
  | loop inner rest hb ihBody ih =>
      obtain ⟨hinner, hrest⟩ := h.closed
      rw [read_loop_balanced hb, ← position_behind_closed]
      exact located_append ((bracketLocated_readLoop hinner ihBody).closed (.inl h.head))
        (ih hrest) (by omega) (by omega) (by omega)
  | openLoop cs hopen ihBody =>
      rw [read_openLoop hopen]
      have hbracket : BracketLocated source position cs (readLoop room position cs) :=
        bracketLocated_readLoop h.tail ihBody
      have hlocated := hbracket.unclosed (p := .unclosedLoop) (.inl h.head) rfl h.head
      exact hlocated.mono (Int.le_refl _) (by rw [List.length_cons]; omega)
  | conditional inner rest hb ihBranches ih =>
      obtain ⟨_, hrest⟩ := h.closed
      have hinner : StandsAt source position ('{' :: inner) := h.left
      rw [read_conditional_balanced hb, ← position_behind_closed]
      exact located_append ((bracketLocated_readConditional hinner ihBranches).closed (.inr h.head))
        (ih hrest) (by omega) (by omega) (by omega)
  | openConditional cs hopen ihBranches =>
      rw [read_openConditional hopen]
      have hbracket : BracketLocated source position cs (readConditional room position cs) :=
        bracketLocated_readConditional h ihBranches
      have hlocated := hbracket.unclosed (p := .unclosedConditional) (.inr h.head) rfl h.head
      exact hlocated.mono (Int.le_refl _) (by rw [List.length_cons]; omega)
  | message text rest ht ih =>
      obtain ⟨_, hrest⟩ := h.closed
      rw [read_message_closed ht, ← position_behind_closed]
      exact (ih hrest).mono (by omega) (Int.le_refl _)
  | openMessage cs hq ih =>
      rw [read_openMessage hq]
      have hquote : Located .dense source position position
          (Reading.problem position .unclosedMessage).diagnostics :=
        .single h.head (Int.le_refl _) (Int.le_refl _)
      exact (located_append hquote (ih h.tail) (by omega) (by omega) (by omega)).mono (Int.le_refl _)
        (by rw [List.length_cons]; omega)
  | single c cs hc ih =>
      rw [read_single hc]
      exact (located_append (located_singleReading h.head) (ih h.tail) (by omega) (by omega)
        (by omega)).mono (Int.le_refl _) (by rw [List.length_cons]; omega)

end Reading

/-! ### Reports -/

/-- A text without the blanks around it stands behind the leading ones. -/
theorem standsAt_strip (code : List Char) :
    StandsAt code (Text.leadingBlanks code) (Text.strip code) := by
  have hstart : StandsAt code (Text.leadingBlanks code) (Text.stripStart code) := by
    have hcode : StandsAt code 0 (code.takeWhile Text.isBlank ++ Text.stripStart code) := by
      rw [Text.stripStart_append_leading]
      exact .refl code
    simpa [Text.leadingBlanks] using hcode.right
  have hend : Text.strip code <+: Text.stripStart code := by
    rw [← List.reverse_suffix, Text.strip, Text.stripEnd, List.reverse_reverse]
    exact List.dropWhile_suffix _
  obtain ⟨back, hback⟩ := hend
  rw [← hback] at hstart
  exact hstart.left

/-- **What is reported for dense code points into the code as it is, in order.** -/
theorem located_denseDiagnostics (code : List Char) :
    Located .dense code 0 code.length (Dialect.denseDiagnostics code) := by
  have hstrip := standsAt_strip code
  have hfirst : (0 : Int) ≤ Text.leadingBlanks code := Int.natCast_nonneg _
  exact (located_read hstrip).mono hfirst hstrip.le_length

end Dense

end RobotShorthand
