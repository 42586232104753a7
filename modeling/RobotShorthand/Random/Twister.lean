/-
**The Mersenne twister.**

A source of pseudo-random 32-bit words with a state of 624 words.  It is seeded by mixing the words of
a number of any size into the state; when all words of the state are used up, a new state is computed
from the old one.  Two words make a fraction between zero and one with 53 bits.

Main definitions:

* `Twister` — the state, with the number of words already given out;
* `Twister.ofSeed` — the state for a seed;
* `Twister.word` — the next word;
* `Twister.fraction` — **the next fraction between zero and one.**
-/

import RobotShorthand.Number.Binary64

set_option relaxedAutoImplicit false
set_option autoImplicit false

namespace RobotShorthand

/-- A generator: its words, and how many of them have been given out. -/
structure Twister where
  words : Array UInt32
  used : Nat

namespace Twister

-- Powers are those of the natural numbers themselves, whatever structure is known of them elsewhere.
attribute [local instance (high)] instPowNat

/-- The number of words of a state. -/
def size : Nat := 624

/-- The distance between the words that are combined into a new one. -/
def middle : Nat := 397

/-! ### Seeding -/

/-- The words of a number, lowest first; zero has one word. -/
def seedWords (n : Nat) : List UInt32 :=
  if n < UInt32.size then [n.toUInt32] else n.toUInt32 :: seedWords (n / UInt32.size)
termination_by n
decreasing_by
  have : 0 < UInt32.size := by decide
  exact Nat.div_lt_self (by omega) (by decide)

/-- A state grown from one word. -/
def ofWord (seed : UInt32) : Array UInt32 :=
  (List.range (size - 1)).foldl
    (fun w i =>
      let last := w.getD i 0
      w.push ((1812433253 : UInt32) * (last ^^^ (last >>> 30)) + (i + 1).toUInt32))
    #[seed]

/-- A word of the state while a seed is mixed in: `factor` is the multiplier of the pass and `extra`
what the pass adds. -/
def stir (w : Array UInt32) (i : Nat) (factor extra : UInt32) : Array UInt32 :=
  let before := w.getD (i - 1) 0
  w.setIfInBounds i ((w.getD i 0 ^^^ ((before ^^^ (before >>> 30)) * factor)) + extra)

/-- The place after `i` in a state; past the end the last word is copied to the front. -/
def advance (w : Array UInt32) (i : Nat) : Array UInt32 × Nat :=
  if i + 1 < size then (w, i + 1) else (w.setIfInBounds 0 (w.getD (size - 1) 0), 1)

/-- The state for the words of a seed: a pass that adds the words of the seed in turn, and a pass that
takes the places off. -/
def ofWords (key : List UInt32) : Array UInt32 :=
  let rounds := max size key.length
  let start := (ofWord 19650218, 1)
  let (w, i) := (List.range rounds).foldl
    (fun (w, i) n =>
      let j := n % key.length
      advance (stir w i 1664525 (key.getD j 0 + j.toUInt32)) i)
    start
  let (w, _) := (List.range (size - 1)).foldl
    (fun (w, i) _ => advance (stir w i 1566083941 (0 - i.toUInt32)) i) (w, i)
  w.setIfInBounds 0 0x80000000

/-- **The generator for a seed.**  The sign of the seed does not count. -/
def ofSeed (seed : Int) : Twister := ⟨ofWords (seedWords seed.natAbs), size⟩

/-! ### Words -/

/-- The word that replaces word `i`: the highest bit of it and the other bits of its successor,
halved, combined with the word `middle` places on. -/
def twisted (w : Array UInt32) (i : Nat) : UInt32 :=
  let y := (w.getD i 0 &&& 0x80000000) ||| (w.getD ((i + 1) % size) 0 &&& 0x7fffffff)
  let half := w.getD ((i + middle) % size) 0 ^^^ (y >>> 1)
  if y &&& 1 = 1 then half ^^^ 0x9908b0df else half

/-- The next state, computed in place. -/
def twist (w : Array UInt32) : Array UInt32 :=
  (List.range size).foldl (fun w i => w.setIfInBounds i (twisted w i)) w

/-- A word of the state as it is given out. -/
def temper (y : UInt32) : UInt32 :=
  let y := y ^^^ (y >>> 11)
  let y := y ^^^ ((y <<< 7) &&& 0x9d2c5680)
  let y := y ^^^ ((y <<< 15) &&& 0xefc60000)
  y ^^^ (y >>> 18)

/-- The next word and the generator after it. -/
def word (t : Twister) : UInt32 × Twister :=
  if t.used < size then (temper (t.words.getD t.used 0), { t with used := t.used + 1 })
  else
    let w := twist t.words
    (temper (w.getD 0 0), ⟨w, 1⟩)

/-- The number of bits that a fraction takes from the second of its words. -/
def lowBits : Nat := 26

/-- **The next fraction between zero and one:** 27 bits of one word and 26 of the next. -/
def fraction (t : Twister) : Binary64 × Twister :=
  let (high, t) := t.word
  let (low, t) := t.word
  let bits := (high >>> 5).toNat * 2 ^ lowBits + (low >>> 6).toNat
  (.round false (bits * unitsPerOne) (2 ^ precision), t)

end Twister

end RobotShorthand
