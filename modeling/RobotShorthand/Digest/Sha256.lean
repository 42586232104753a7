/-
**The SHA-256 digest.**

The message is padded to whole blocks of sixteen words; each block is stretched to sixty-four words
and mixed into a state of eight words, and the final state is the digest.

Main definitions:

* `Sha256.State`, `Sha256.initial` — the eight words;
* `Sha256.pad`, `Sha256.blocks` — the message as blocks of words;
* `Sha256.schedule` — the words of a block, stretched;
* `Sha256.compress` — one block mixed into the state;
* `Sha256.hex` — **the digest of a text,** in hexadecimal.

Main results:

* `length_pad_mod` — a padded message is a whole number of blocks;
* `length_hex` — a digest has sixty-four digits.
-/

import RobotShorthand.Text.Numeral

set_option relaxedAutoImplicit false
set_option autoImplicit false

namespace RobotShorthand

namespace Sha256

/-- The eight words of the digest under construction. -/
structure State where
  a : UInt32
  b : UInt32
  c : UInt32
  d : UInt32
  e : UInt32
  f : UInt32
  g : UInt32
  h : UInt32

/-- The state before the first block. -/
def initial : State :=
  ⟨0x6a09e667, 0xbb67ae85, 0x3c6ef372, 0xa54ff53a, 0x510e527f, 0x9b05688c, 0x1f83d9ab, 0x5be0cd19⟩

/-- The constants of the sixty-four rounds. -/
def roundConstants : List UInt32 := [
  0x428a2f98, 0x71374491, 0xb5c0fbcf, 0xe9b5dba5, 0x3956c25b, 0x59f111f1, 0x923f82a4, 0xab1c5ed5,
  0xd807aa98, 0x12835b01, 0x243185be, 0x550c7dc3, 0x72be5d74, 0x80deb1fe, 0x9bdc06a7, 0xc19bf174,
  0xe49b69c1, 0xefbe4786, 0x0fc19dc6, 0x240ca1cc, 0x2de92c6f, 0x4a7484aa, 0x5cb0a9dc, 0x76f988da,
  0x983e5152, 0xa831c66d, 0xb00327c8, 0xbf597fc7, 0xc6e00bf3, 0xd5a79147, 0x06ca6351, 0x14292967,
  0x27b70a85, 0x2e1b2138, 0x4d2c6dfc, 0x53380d13, 0x650a7354, 0x766a0abb, 0x81c2c92e, 0x92722c85,
  0xa2bfe8a1, 0xa81a664b, 0xc24b8b70, 0xc76c51a3, 0xd192e819, 0xd6990624, 0xf40e3585, 0x106aa070,
  0x19a4c116, 0x1e376c08, 0x2748774c, 0x34b0bcb5, 0x391c0cb3, 0x4ed8aa4a, 0x5b9cca4f, 0x682e6ff3,
  0x748f82ee, 0x78a5636f, 0x84c87814, 0x8cc70208, 0x90befffa, 0xa4506ceb, 0xbef9a3f7, 0xc67178f2]

/-- A word turned right. -/
def rotate (x n : UInt32) : UInt32 := (x >>> n) ||| (x <<< (32 - n))

/-! ### The message as blocks -/

/-- The bytes that fill a message of this length up: a one bit, zeros, and the length in bits. -/
def padding (length : Nat) : List UInt8 :=
  let zeros := (119 - length % 64) % 64
  (0x80 : UInt8) :: List.replicate zeros 0
    ++ (List.range 8).map fun i => ((length * 8) >>> (8 * (7 - i))).toUInt8

/-- A message filled up to whole blocks. -/
def pad (bytes : List UInt8) : List UInt8 := bytes ++ padding bytes.length

/-- A padded message is a whole number of blocks. -/
theorem length_pad_mod (bytes : List UInt8) : (pad bytes).length % 64 = 0 := by
  simp [pad, padding]; omega

/-- The words of a list of bytes, four bytes each with the first one highest. -/
def wordsOf : List UInt8 → List UInt32
  | p :: q :: r :: s :: rest =>
      (p.toUInt32 <<< 24 ||| q.toUInt32 <<< 16 ||| r.toUInt32 <<< 8 ||| s.toUInt32) :: wordsOf rest
  | _ => []

/-- The blocks of sixteen words. -/
def blocks (words : List UInt32) : List (List UInt32) :=
  if words.isEmpty then [] else words.take 16 :: blocks (words.drop 16)
termination_by words.length
decreasing_by
  rename_i h
  have : words ≠ [] := by simpa using h
  have := List.length_pos_iff.2 this
  simp; omega

/-! ### Mixing -/

/-- The next word of a schedule from the words two, seven, fifteen and sixteen places before. -/
def nextWord (w : Array UInt32) (i : Nat) : UInt32 :=
  let x := w.getD (i + 1) 0
  let y := w.getD (i + 14) 0
  let s0 := rotate x 7 ^^^ rotate x 18 ^^^ (x >>> 3)
  let s1 := rotate y 17 ^^^ rotate y 19 ^^^ (y >>> 10)
  w.getD i 0 + s0 + w.getD (i + 9) 0 + s1

/-- The sixty-four words of a block. -/
def schedule (block : List UInt32) : List UInt32 :=
  ((List.range 48).foldl (fun w i => w.push (nextWord w i)) block.toArray).toList

/-- One round with its constant and its word. -/
def turn (s : State) (k w : UInt32) : State :=
  let s1 := rotate s.e 6 ^^^ rotate s.e 11 ^^^ rotate s.e 25
  let choice := (s.e &&& s.f) ^^^ ((~~~ s.e) &&& s.g)
  let t1 := s.h + s1 + choice + k + w
  let s0 := rotate s.a 2 ^^^ rotate s.a 13 ^^^ rotate s.a 22
  let majority := (s.a &&& s.b) ^^^ (s.a &&& s.c) ^^^ (s.b &&& s.c)
  ⟨t1 + (s0 + majority), s.a, s.b, s.c, s.d + t1, s.e, s.f, s.g⟩

/-- One block mixed into the state. -/
def compress (s : State) (block : List UInt32) : State :=
  let t := (roundConstants.zip (schedule block)).foldl (fun s (k, w) => turn s k w) s
  ⟨s.a + t.a, s.b + t.b, s.c + t.c, s.d + t.d, s.e + t.e, s.f + t.f, s.g + t.g, s.h + t.h⟩

/-- The eight words of the digest of some bytes. -/
def digest (bytes : List UInt8) : State := (blocks (wordsOf (pad bytes))).foldl compress initial

/-- The words of a state in hexadecimal. -/
def State.hex (s : State) : List Char :=
  [s.a, s.b, s.c, s.d, s.e, s.f, s.g, s.h].flatMap fun w => Text.hexFixed 8 w.toNat

/-- **The digest of a text** in UTF-8, in hexadecimal. -/
def hex (text : String) : String := String.ofList (digest text.toUTF8.toList).hex

/-- A digest has sixty-four digits. -/
theorem length_hex (text : String) : (hex text).length = 64 := by
  simp [hex, State.hex, Text.length_hexFixed]

end Sha256

end RobotShorthand
