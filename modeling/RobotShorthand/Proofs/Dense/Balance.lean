/-
**Balanced brackets.**

`RobotShorthand.Dense.Bracket` finds the end of a bracket by keeping a depth.  Said without the
depth, the end of a bracket is the first closer up to which there are as many closers as openers,
and the text inside is balanced: no beginning of it closes more brackets than it opens, and as a
whole it closes as many.  A bracket that is never closed encloses all that follows, and then no
beginning of that closes more than is open.  This module proves the two descriptions equal, for what
follows an opener and from the place of an opener in a text, and collects the texts that are balanced
for simple reasons.

Main definitions:

* `Closes` — a text that closes a number of brackets more than it opens, and no beginning of it
  more;
* `Balanced` — a text that opens and closes the same number;
* `Evens`, `IsEnclosedAt` — the places that even out a bracket, and **the text that the bracket at a
  place encloses, with the place where it ends.**

Main results:

* `enclose_eq_some_iff` — what is enclosed at a depth closes as many brackets as are open;
* `enclosedBy_eq_some_iff` — **a bracket is closed behind the balanced text that it encloses;**
* `rest?_enclose_eq_none_iff` — a bracket is never closed if no beginning closes more than is open;
* `enclosedBy_eq_of_isClosed_eq_false` — a bracket that is never closed encloses everything;
* `isEnclosedAt_extract` — **the text at a place is cut out where its bracket is first evened out;**
* `Balanced.append`, `Balanced.wrap` — balanced texts one after another, and one inside a bracket.
-/

import RobotShorthand.Dense.Bracket

set_option relaxedAutoImplicit false
set_option autoImplicit false

namespace RobotShorthand

namespace Dense

/-! ### Counting brackets -/

/-- A text that closes `extra` brackets more than it opens, and no beginning of it closes more. -/
structure Closes (opener closer : Char) (extra : Nat) (cs : List Char) : Prop where
  le : ∀ n, (cs.take n).count closer ≤ (cs.take n).count opener + extra
  total : cs.count closer = cs.count opener + extra

/-- **A balanced text:** no beginning of it closes more brackets than it opens, and as a whole it
closes as many. -/
def Balanced (opener closer : Char) (cs : List Char) : Prop := Closes opener closer 0 cs

section Counting

variable {opener closer : Char} {extra : Nat} {cs : List Char}

theorem closes_nil_iff : Closes opener closer extra [] ↔ extra = 0 := by
  constructor
  · intro h
    have := h.total
    simp at this
    omega
  · rintro rfl
    exact ⟨by simp, by simp⟩

/-- Beginnings that close no more than is open are told by those behind a first character. -/
theorem forall_take_cons_iff {c : Char} :
    (∀ n, ((c :: cs).take n).count closer ≤ ((c :: cs).take n).count opener + extra)
      ↔ ∀ n, (c :: cs.take n).count closer ≤ (c :: cs.take n).count opener + extra := by
  constructor
  · intro h n
    exact h (n + 1)
  · intro h n
    cases n with
    | zero => simp
    | succ n => exact h n

/-- What a first character must leave to the rest. -/
theorem closes_cons_iff {c : Char} :
    Closes opener closer extra (c :: cs)
      ↔ (∀ n, (c :: cs.take n).count closer ≤ (c :: cs.take n).count opener + extra)
        ∧ (c :: cs).count closer = (c :: cs).count opener + extra := by
  rw [← forall_take_cons_iff]
  exact ⟨fun h => ⟨h.le, h.total⟩, fun h => ⟨h.1, h.2⟩⟩

/-- An opener in front leaves one more bracket to close. -/
theorem closes_opener_cons (hne : opener ≠ closer) :
    Closes opener closer extra (opener :: cs) ↔ Closes opener closer (extra + 1) cs := by
  simp only [closes_cons_iff, List.count_cons_self, List.count_cons_of_ne hne]
  constructor
  · rintro ⟨hle, htotal⟩
    exact ⟨fun n => by have := hle n; omega, by omega⟩
  · intro h
    exact ⟨fun n => by have := h.le n; omega, by have := h.total; omega⟩

/-- A closer in front closes one of the brackets, and there must be one. -/
theorem closes_closer_cons (hne : opener ≠ closer) :
    Closes opener closer extra (closer :: cs)
      ↔ 0 < extra ∧ Closes opener closer (extra - 1) cs := by
  simp only [closes_cons_iff, List.count_cons_self, List.count_cons_of_ne hne.symm]
  constructor
  · rintro ⟨hle, htotal⟩
    have hpos := hle 0
    simp only [List.take_zero, List.count_nil] at hpos
    exact ⟨by omega, fun n => by have := hle n; omega, by omega⟩
  · rintro ⟨hpos, h⟩
    exact ⟨fun n => by have := h.le n; omega, by have := h.total; omega⟩

/-- Other characters do not count. -/
theorem closes_cons_of_ne {c : Char} (ho : c ≠ opener) (hc : c ≠ closer) :
    Closes opener closer extra (c :: cs) ↔ Closes opener closer extra cs := by
  simp only [closes_cons_iff, List.count_cons_of_ne ho, List.count_cons_of_ne hc]
  exact ⟨fun h => ⟨h.1, h.2⟩, fun h => ⟨h.le, h.total⟩⟩

end Counting

/-! ### Balanced texts -/

namespace Balanced

variable {opener closer : Char} {as bs : List Char}

theorem nil : Balanced opener closer [] := closes_nil_iff.2 rfl

/-- A text without brackets of the pair is balanced. -/
theorem of_not_mem (ho : opener ∉ as) (hc : closer ∉ as) : Balanced opener closer as := by
  refine ⟨fun n => ?_, ?_⟩
  · rw [List.count_eq_zero_of_not_mem fun h => hc (List.mem_of_mem_take h)]
    exact Nat.zero_le _
  · rw [List.count_eq_zero_of_not_mem hc, List.count_eq_zero_of_not_mem ho]

/-- Balanced texts one after another. -/
theorem append (ha : Balanced opener closer as) (hb : Balanced opener closer bs) :
    Balanced opener closer (as ++ bs) := by
  refine ⟨fun n => ?_, ?_⟩
  · have h1 := ha.le n
    have h2 := hb.le (n - as.length)
    simp only [List.take_append, List.count_append]
    omega
  · have h1 := ha.total
    have h2 := hb.total
    simp only [List.count_append]
    omega

/-- A balanced text inside a bracket. -/
theorem wrap (hne : opener ≠ closer) (ha : Balanced opener closer as) :
    Balanced opener closer (opener :: (as ++ [closer])) := by
  rw [Balanced, closes_opener_cons hne]
  refine ⟨fun n => ?_, ?_⟩
  · have h1 := ha.le n
    have h2 : (List.take (n - as.length) [closer]).count closer ≤ 1 :=
      Nat.le_trans List.count_le_length (List.length_take_le' ..)
    simp only [List.take_append, List.count_append]
    omega
  · have h1 := ha.total
    simp only [List.count_append, List.count_singleton_self, List.count_singleton]
    simp [hne.symm]
    omega

end Balanced

/-! ### What is enclosed -/

section Enclosing

variable {opener closer : Char} {cs inner rest : List Char} {extra : Nat}

theorem cons_eq_some_iff {c : Char} {e : Enclosed} :
    e.cons c = ⟨inner, some rest⟩ ↔ ∃ inner', inner = c :: inner' ∧ e = ⟨inner', some rest⟩ := by
  obtain ⟨i, r⟩ := e
  constructor
  · intro h
    obtain ⟨hi, hr⟩ := Enclosed.mk.inj h
    exact ⟨i, hi.symm, congrArg _ hr⟩
  · rintro ⟨inner', rfl, h⟩
    obtain ⟨rfl, rfl⟩ := Enclosed.mk.inj h
    rfl

/-- Inside a bracket every character is kept, and openers and closers change the depth. -/
theorem enclose_opener :
    enclose opener closer (extra + 1) (opener :: cs)
      = (enclose opener closer ((extra + 1 : Nat) + 1) cs).cons opener := by
  have hpos : (0 : Int) < extra + 1 := by omega
  simp [enclose, Enclosed.consIf, hpos]

theorem enclose_closer_zero (hne : opener ≠ closer) :
    enclose opener closer ((0 : Nat) + 1) (closer :: cs) = ⟨[], some cs⟩ := by
  simp [enclose, hne.symm]

theorem enclose_closer_succ (hne : opener ≠ closer) :
    enclose opener closer ((extra + 1 : Nat) + 1) (closer :: cs)
      = (enclose opener closer (extra + 1) cs).cons closer := by
  have hdepth : ¬ ((extra + 1 : Nat) + 1 : Int) = 1 := by omega
  have hless : ((extra + 1 : Nat) + 1 : Int) - 1 = extra + 1 := by omega
  rw [enclose, if_neg hne.symm, if_pos rfl, if_neg hdepth, hless]

theorem enclose_of_ne {c : Char} (ho : c ≠ opener) (hc : c ≠ closer) :
    enclose opener closer (extra + 1) (c :: cs)
      = (enclose opener closer (extra + 1) cs).cons c := by
  have hpos : (0 : Int) < extra + 1 := by omega
  simp [enclose, Enclosed.consIf, ho, hc, hpos]

/-- A text that goes on to a closer either begins with it or goes on from its next character. -/
theorem cons_eq_append_closes_iff {c : Char} :
    (c :: cs = inner ++ closer :: rest ∧ Closes opener closer extra inner)
      ↔ (inner = [] ∧ c = closer ∧ cs = rest ∧ extra = 0)
        ∨ ∃ inner', inner = c :: inner' ∧ cs = inner' ++ closer :: rest
            ∧ Closes opener closer extra (c :: inner') := by
  cases inner with
  | nil => simp [closes_nil_iff, and_assoc]
  | cons i inner =>
      simp only [List.cons_append, List.cons.injEq, reduceCtorEq, false_and, false_or]
      constructor
      · rintro ⟨⟨rfl, hcs⟩, h⟩
        exact ⟨inner, ⟨rfl, rfl⟩, hcs, h⟩
      · rintro ⟨inner', ⟨rfl, rfl⟩, hcs, h⟩
        exact ⟨⟨rfl, hcs⟩, h⟩

/-- **What is enclosed at a depth closes as many brackets as are open,** and behind it stands the
closer of the last. -/
theorem enclose_eq_some_iff (hne : opener ≠ closer) :
    enclose opener closer (extra + 1) cs = ⟨inner, some rest⟩
      ↔ cs = inner ++ closer :: rest ∧ Closes opener closer extra inner := by
  -- along the text, with one more or one less bracket open behind an opener or a closer
  induction cs generalizing inner extra with
  | nil => simp [enclose]
  | cons c cs ih =>
      rw [cons_eq_append_closes_iff]
      by_cases ho : c = opener
      · subst ho
        simp only [enclose_opener, cons_eq_some_iff, ih, closes_opener_cons hne, hne, false_and,
          and_false, false_or]
      · by_cases hc : c = closer
        · subst hc
          cases extra with
          | zero =>
              simp only [enclose_closer_zero hne, closes_closer_cons hne]
              simp [eq_comm]
          | succ extra =>
              simp only [enclose_closer_succ hne, cons_eq_some_iff, ih, closes_closer_cons hne]
              simp
        · simp only [enclose_of_ne ho hc, cons_eq_some_iff, ih, closes_cons_of_ne ho hc, hc,
            false_and, and_false, false_or]

/-- **A bracket is closed behind the balanced text that it encloses.** -/
theorem enclosedBy_eq_some_iff (hne : opener ≠ closer) :
    enclosedBy opener closer cs = ⟨inner, some rest⟩
      ↔ cs = inner ++ closer :: rest ∧ Balanced opener closer inner :=
  enclose_eq_some_iff hne

end Enclosing

/-! ### Brackets that are never closed -/

section Unclosed

variable {opener closer : Char} {cs : List Char} {extra : Nat}

/-- What is enclosed at a depth and never closed is everything. -/
theorem inner_of_enclose_eq_none (hne : opener ≠ closer)
    (h : (enclose opener closer (extra + 1) cs).rest? = none) :
    (enclose opener closer (extra + 1) cs).inner = cs := by
  -- along the text, with one more or one less bracket open behind an opener or a closer
  induction cs generalizing extra with
  | nil => rfl
  | cons c cs ih =>
      by_cases ho : c = opener
      · subst ho
        rw [enclose_opener] at h ⊢
        exact congrArg (c :: ·) (ih h)
      · by_cases hc : c = closer
        · subst hc
          cases extra with
          | zero =>
              rw [enclose_closer_zero hne] at h
              exact absurd h (by simp)
          | succ extra =>
              rw [enclose_closer_succ hne] at h ⊢
              exact congrArg (c :: ·) (ih h)
        · rw [enclose_of_ne ho hc] at h ⊢
          exact congrArg (c :: ·) (ih h)

/-- **A bracket that is never closed encloses everything that follows.** -/
theorem enclosedBy_eq_of_isClosed_eq_false (hne : opener ≠ closer)
    (h : (enclosedBy opener closer cs).isClosed = false) :
    enclosedBy opener closer cs = ⟨cs, none⟩ := by
  have hrest : (enclosedBy opener closer cs).rest? = none := by
    simpa [Enclosed.isClosed] using h
  have hinner : (enclosedBy opener closer cs).inner = cs :=
    @inner_of_enclose_eq_none opener closer cs 0 hne hrest
  cases he : enclosedBy opener closer cs with
  | mk inner rest? =>
      rw [he] at hrest hinner
      rw [show inner = cs from hinner, show rest? = none from hrest]

/-- **A bracket is never closed** exactly if no beginning of the text closes more than is open. -/
theorem rest?_enclose_eq_none_iff (hne : opener ≠ closer) :
    (enclose opener closer (extra + 1) cs).rest? = none
      ↔ ∀ n, (cs.take n).count closer ≤ (cs.take n).count opener + extra := by
  induction cs generalizing extra with
  | nil => simp [enclose]
  | cons c cs ih =>
      have hcons (e : Enclosed) : (e.cons c).rest? = e.rest? := rfl
      rw [forall_take_cons_iff]
      by_cases ho : c = opener
      · subst ho
        rw [enclose_opener, hcons, ih]
        simp only [List.count_cons_self, List.count_cons_of_ne hne]
        constructor
        · exact fun h n => by have := h n; omega
        · exact fun h n => by have := h n; omega
      · by_cases hc : c = closer
        · subst hc
          simp only [List.count_cons_self, List.count_cons_of_ne hne.symm]
          cases extra with
          | zero =>
              -- the closer itself closes more than is open
              rw [enclose_closer_zero hne]
              constructor
              · exact fun h => absurd h (by simp)
              · intro h
                have hfirst := h 0
                simp at hfirst
          | succ extra =>
              rw [enclose_closer_succ hne, hcons, ih]
              constructor
              · exact fun h n => by have := h n; omega
              · exact fun h n => by have := h n; omega
        · rw [enclose_of_ne ho hc, hcons, ih]
          simp only [List.count_cons_of_ne ho, List.count_cons_of_ne hc]

end Unclosed

/-! ### From a place in a text -/

section Places

variable {opener closer : Char} {code front cs inner rest : List Char} {start : Nat}

/-- A place behind a bracket up to which, itself included, as many brackets are closed as opened. -/
structure Evens (opener closer : Char) (code : List Char) (start place : Nat) : Prop where
  start_lt : start < place
  lt_length : place < code.length
  count_eq : ((code.take (place + 1)).drop start).count opener
    = ((code.take (place + 1)).drop start).count closer

/-- **The text that the bracket at a place encloses,** and the place where it ends. -/
structure IsEnclosedAt (opener closer : Char) (code : List Char) (start : Nat) (text : List Char)
    (stop : Nat) : Prop where
  /-- it ends at a place that evens the bracket out, or at the end of the whole text -/
  evens : stop = code.length ∨ Evens opener closer code start stop
  /-- no such place comes earlier -/
  first : ∀ place, Evens opener closer code start place → stop ≤ place
  /-- the text is what stands behind the opener and in front of its end, unchanged -/
  text_eq : text = (code.take stop).drop (start + 1)
  /-- an end within the whole text is the place of a closer, and the text is balanced -/
  closed : stop < code.length → code[stop]? = some closer ∧ Balanced opener closer text
  /-- otherwise more brackets are opened than closed all along -/
  unclosed : stop = code.length → ∀ n, 0 < n →
    ((code.drop start).take n).count closer < ((code.drop start).take n).count opener

/-- What stands behind a bracket and in front of a place. -/
theorem between_append_opener (k : Nat) :
    ((front ++ opener :: cs).take (front.length + 1 + k)).drop (front.length + 1) = cs.take k := by
  have hfront : front ++ opener :: cs = front ++ [opener] ++ cs := by simp
  have hlength : front.length + 1 = (front ++ [opener]).length := by simp
  rw [hfront, hlength, List.take_length_add_append, List.drop_left]

/-- What stands from a bracket to a place behind it. -/
theorem through_append_opener (k : Nat) :
    ((front ++ opener :: cs).take (front.length + k + 1)).drop front.length
      = opener :: cs.take k := by
  rw [Nat.add_assoc, List.take_length_add_append, List.drop_left, List.take_succ_cons]

/-- A place evens a bracket out exactly if the text up to it closes one bracket more. -/
theorem evens_append_opener_iff (hne : opener ≠ closer) {k : Nat} :
    Evens opener closer (front ++ opener :: cs) front.length (front.length + k)
      ↔ 0 < k ∧ k ≤ cs.length ∧ (cs.take k).count closer = (cs.take k).count opener + 1 := by
  constructor
  · rintro ⟨hlt, hlength, hcount⟩
    rw [through_append_opener, List.count_cons_self, List.count_cons_of_ne hne] at hcount
    simp only [List.length_append, List.length_cons] at hlength
    exact ⟨by omega, by omega, hcount.symm⟩
  · rintro ⟨hpos, hle, hcount⟩
    refine ⟨by omega, ?_, ?_⟩
    · simp only [List.length_append, List.length_cons]
      omega
    · rw [through_append_opener, List.count_cons_self, List.count_cons_of_ne hne, hcount]

/-- A closed bracket ends at its closer. -/
theorem isEnclosedAt_of_balanced (hne : opener ≠ closer) (hinner : Balanced opener closer inner) :
    IsEnclosedAt opener closer (front ++ opener :: (inner ++ closer :: rest)) front.length inner
      (front.length + 1 + inner.length) := by
  have hlength : (front ++ opener :: (inner ++ closer :: rest)).length
      = front.length + 1 + inner.length + 1 + rest.length := by
    simp only [List.length_append, List.length_cons]
    omega
  refine ⟨.inr ?_, ?_, ?_, fun _ => ⟨?_, hinner⟩, ?_⟩
  · have htext : (inner ++ closer :: rest).take (1 + inner.length) = inner ++ [closer] := by
      rw [Nat.add_comm, List.take_length_add_append]
      rfl
    have htotal := hinner.total
    rw [Nat.add_assoc, evens_append_opener_iff hne, htext, List.count_append, List.count_append,
      List.count_singleton_self, List.count_singleton, List.length_append, List.length_cons]
    simp only [beq_iff_eq, hne.symm, if_false]
    omega
  · intro place heven
    obtain ⟨k, rfl⟩ := Nat.exists_eq_add_of_le (Nat.le_of_lt heven.start_lt)
    obtain ⟨_, _, hcount⟩ := (evens_append_opener_iff hne).1 heven
    -- up to a place inside the text, no more brackets are closed than opened
    have hinside : ¬ k ≤ inner.length := by
      intro hk
      have hle := hinner.le k
      rw [List.take_append_of_le_length hk] at hcount
      omega
    omega
  · rw [between_append_opener, List.take_left]
  · rw [List.getElem?_append_right (by omega), Nat.add_assoc, Nat.add_sub_cancel_left,
      Nat.add_comm 1, List.getElem?_cons_succ, List.getElem?_append_right (Nat.le_refl _),
      Nat.sub_self]
    rfl
  · intro hend
    rw [hlength] at hend
    omega

/-- A bracket that is never closed ends with the whole text. -/
theorem isEnclosedAt_of_unclosed (hne : opener ≠ closer)
    (hopen : ∀ n, (cs.take n).count closer ≤ (cs.take n).count opener) :
    IsEnclosedAt opener closer (front ++ opener :: cs) front.length cs
      (front.length + 1 + cs.length) := by
  have hlength : (front ++ opener :: cs).length = front.length + 1 + cs.length := by
    simp only [List.length_append, List.length_cons]
    omega
  refine ⟨.inl hlength.symm, ?_, ?_, ?_, ?_⟩
  · intro place heven
    obtain ⟨k, rfl⟩ := Nat.exists_eq_add_of_le (Nat.le_of_lt heven.start_lt)
    obtain ⟨_, _, hcount⟩ := (evens_append_opener_iff hne).1 heven
    have hle := hopen k
    omega
  · rw [between_append_opener, List.take_length]
  · intro hlt
    rw [hlength] at hlt
    exact absurd hlt (Nat.lt_irrefl _)
  · intro _ n hn
    obtain ⟨n, rfl⟩ := Nat.exists_eq_add_one_of_ne_zero (Nat.ne_of_gt hn)
    have hle := hopen n
    rw [List.drop_left, List.take_succ_cons, List.count_cons_self, List.count_cons_of_ne hne]
    omega

/-- The bracket behind some text is read from its opener on. -/
theorem extract_append_opener {rest? : Option (List Char)}
    (h : enclosedBy opener closer cs = ⟨inner, rest?⟩) :
    extract (front ++ opener :: cs) front.length opener closer
      = (inner, rest?.elim (front ++ opener :: cs).length fun rest =>
          (front ++ opener :: cs).length - rest.length - 1) := by
  have hopened : enclose opener closer 0 (opener :: cs) = enclosedBy opener closer cs := by
    simp [enclose, Enclosed.consIf, enclosedBy]
  have hlt : ¬ (front ++ opener :: cs).length ≤ front.length := by simp
  simp only [extract, if_neg hlt, List.drop_left, hopened, h]
  cases rest? with
  | none => rfl
  | some rest => rfl

/-- **The text that the bracket at a place encloses is cut out,** closed or not. -/
theorem isEnclosedAt_extract (hne : opener ≠ closer) (hopener : code[start]? = some opener) :
    IsEnclosedAt opener closer code start (extract code start opener closer).1
      (extract code start opener closer).2 := by
  obtain ⟨front, cs, rfl, rfl⟩ :
      ∃ front cs, code = front ++ opener :: cs ∧ start = front.length := by
    obtain ⟨hlt, hget⟩ := List.getElem?_eq_some_iff.1 hopener
    refine ⟨code.take start, code.drop (start + 1), ?_, ?_⟩
    · rw [← hget, ← List.drop_eq_getElem_cons, List.take_append_drop]
    · rw [List.length_take, Nat.min_eq_left (Nat.le_of_lt hlt)]
  rcases henclosed : enclosedBy opener closer cs with ⟨inner, _ | rest⟩
  · have hrest : (enclose opener closer ((0 : Nat) + 1) cs).rest? = none :=
      congrArg Enclosed.rest? henclosed
    have hinner : inner = cs :=
      (congrArg Enclosed.inner henclosed).symm.trans (inner_of_enclose_eq_none hne hrest)
    have hlength : (front ++ opener :: cs).length = front.length + 1 + cs.length := by
      simp only [List.length_append, List.length_cons]
      omega
    rw [extract_append_opener henclosed, hinner, Option.elim_none, hlength]
    exact isEnclosedAt_of_unclosed hne ((rest?_enclose_eq_none_iff hne).1 hrest)
  · rw [extract_append_opener henclosed, Option.elim_some]
    obtain ⟨rfl, hbalanced⟩ := (enclosedBy_eq_some_iff hne).1 henclosed
    have hlength : (front ++ opener :: (inner ++ closer :: rest)).length - rest.length - 1
        = front.length + 1 + inner.length := by
      simp only [List.length_append, List.length_cons]
      omega
    rw [hlength]
    exact isEnclosedAt_of_balanced hne hbalanced

/-- A bracket inside a bracket belongs to the text, and what follows its closer does not. -/
theorem isEnclosedAt_extract_nested :
    '[' ≠ ']' ∧ "a[b[c]d]e".toList[1]? = some '['
      ∧ extract "a[b[c]d]e".toList 1 '[' ']' = ("b[c]d".toList, 7)
      ∧ IsEnclosedAt '[' ']' "a[b[c]d]e".toList 1 "b[c]d".toList 7 := by
  have hextract : extract "a[b[c]d]e".toList 1 '[' ']' = ("b[c]d".toList, 7) := by decide
  refine ⟨by decide, by decide, hextract, ?_⟩
  have h := @isEnclosedAt_extract '[' ']' "a[b[c]d]e".toList 1 (by decide) (by decide)
  rwa [hextract] at h

end Places

end Dense

end RobotShorthand
