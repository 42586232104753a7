/-
**Brackets.**

The text enclosed by a pair of brackets.  Only the two characters of the pair count, whatever stands
between them: quotes and other brackets are text like any other.  A bracket that is never closed
encloses everything that follows.

Main definitions:

* `Enclosed` — an enclosed text, and what follows its closer if there is one;
* `enclose` — the text enclosed by a bracket some levels deep;
* `enclosedBy` — **the text enclosed by an opener that has just been passed.**

Main results:

* `length_enclose` — **the enclosed text and the rest are together no longer than the text.**
-/

set_option relaxedAutoImplicit false
set_option autoImplicit false

namespace RobotShorthand

namespace Dense

/-- An enclosed text, and the text behind its closer unless it is never closed. -/
structure Enclosed where
  inner : List Char
  rest? : Option (List Char)

namespace Enclosed

/-- Whether the closer was found. -/
def isClosed (e : Enclosed) : Bool := e.rest?.isSome

/-- The text behind the closer; nothing when there is none. -/
def rest (e : Enclosed) : List Char := e.rest?.getD []

/-- The enclosed text with a character before it. -/
def cons (c : Char) (e : Enclosed) : Enclosed := { e with inner := c :: e.inner }

/-- The enclosed text with a character before it if that stands inside. -/
def consIf (inside : Bool) (c : Char) (e : Enclosed) : Enclosed := if inside then e.cons c else e

end Enclosed

/-- The text enclosed at a depth: openers and closers change the depth, a closer that brings it to
zero ends the text, and characters at depth zero or less are left out unless they are closers. -/
def enclose (opener closer : Char) (depth : Int) : List Char → Enclosed
  | [] => ⟨[], none⟩
  | c :: cs =>
      if c = opener then (enclose opener closer (depth + 1) cs).consIf (0 < depth) c
      else if c = closer then
        if depth = 1 then ⟨[], some cs⟩ else (enclose opener closer (depth - 1) cs).cons c
      else (enclose opener closer depth cs).consIf (0 < depth) c

/-- **The text enclosed by an opener that has just been passed.** -/
def enclosedBy (opener closer : Char) (cs : List Char) : Enclosed := enclose opener closer 1 cs

theorem length_consIf_le (inside : Bool) (c : Char) (e : Enclosed) :
    (e.consIf inside c).inner.length ≤ e.inner.length + 1
      ∧ (e.consIf inside c).rest = e.rest := by
  cases inside <;> simp [Enclosed.consIf, Enclosed.cons, Enclosed.rest]

/-- **The enclosed text and the rest are together no longer than the text.** -/
theorem length_enclose (opener closer : Char) : ∀ (cs : List Char) (depth : Int),
    (enclose opener closer depth cs).inner.length + (enclose opener closer depth cs).rest.length
      ≤ cs.length := by
  intro cs
  induction cs with
  | nil => intro depth; simp [enclose, Enclosed.rest]
  | cons c cs ih =>
      intro depth
      simp only [enclose]
      split
      · have h := length_consIf_le (0 < depth) c (enclose opener closer (depth + 1) cs)
        have := ih (depth + 1)
        rw [h.2, List.length_cons]; omega
      · split
        · split
          · simp [Enclosed.rest]
          · have := ih (depth - 1)
            simp only [Enclosed.cons, Enclosed.rest, List.length_cons] at this ⊢; omega
        · have h := length_consIf_le (0 < depth) c (enclose opener closer depth cs)
          have := ih depth
          rw [h.2, List.length_cons]; omega

theorem length_inner_enclosedBy (opener closer : Char) (cs : List Char) :
    (enclosedBy opener closer cs).inner.length ≤ cs.length :=
  Nat.le_trans (Nat.le_add_right ..) (length_enclose opener closer cs 1)

theorem length_rest_enclosedBy (opener closer : Char) (cs : List Char) :
    (enclosedBy opener closer cs).rest.length ≤ cs.length :=
  Nat.le_trans (Nat.le_add_left ..) (length_enclose opener closer cs 1)

/-! ### From a place in a text -/

/-- The text enclosed by the first opener at or behind a place, and the place of its closer, or the
end of the text. -/
def extract (code : List Char) (start : Nat) (opener closer : Char) : List Char × Nat :=
  if code.length ≤ start then ([], start)
  else
    let e := enclose opener closer 0 (code.drop start)
    (e.inner, match e.rest? with
      | some rest => code.length - rest.length - 1
      | none => code.length)

end Dense

end RobotShorthand
