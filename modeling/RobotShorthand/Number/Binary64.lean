/-
**Double precision numbers.**

A finite double is a sign and a magnitude, and every magnitude is a whole number of the smallest
positive double `2 ^ -1074`.  Counted in that unit sums and remainders are exact natural number
arithmetic, and every operation is exact arithmetic followed by one rounding to the nearest magnitude,
a tie going to the even one.

Main definitions:

* `IsMagnitude` — the natural numbers that are magnitudes;
* `Binary64` — doubles;
* `nearestMagnitude` — the rounding of a quotient of natural numbers;
* `Binary64.round` — the double nearest to a signed quotient, infinite when it is too large;
* `Binary64.ofInt?`, `Binary64.truncate`, `Binary64.add`, `Binary64.mul`, `Binary64.fmod` — conversions
  and arithmetic;
* `Extended`, `Binary64.extended?` — the place of a double on the extended line, none for not-a-number.

Main results:

* `isSignificant_nearestMagnitude` — **rounding keeps at most 53 bits**;
* `nearestMagnitude_of_isSignificant` — a whole number that fits is left alone;
* `IsMagnitude.mod` — the remainder of two magnitudes is a magnitude, so `fmod` is exact.
-/

set_option relaxedAutoImplicit false
set_option autoImplicit false

namespace RobotShorthand

-- Powers are those of the natural numbers themselves, whatever structure is known of them elsewhere.
attribute [local instance (high)] instPowNat

/-! ### Magnitudes -/

/-- The number of bits that a significand has. -/
def precision : Nat := 53

/-- The number of binary places of the finest magnitudes. -/
def finestPlace : Nat := 1074

/-- The exponent of the first power of two that is too large for a finite double. -/
def exponentLimit : Nat := 1024

/-- Numbers with at most 53 significant bits. -/
def IsSignificant (u : Nat) : Prop := ∃ m s : Nat, m < 2 ^ precision ∧ u = m * 2 ^ s

/-- The number of units of `2 ^ -1074` in one. -/
def unitsPerOne : Nat := 2 ^ finestPlace

/-- The first power of two that is too large for a finite double, in units. -/
def magnitudeLimit : Nat := 2 ^ exponentLimit * unitsPerOne

/-- Numbers that are the magnitude of a finite double, in units. -/
def IsMagnitude (u : Nat) : Prop := u < magnitudeLimit ∧ IsSignificant u

theorem unitsPerOne_pos : 0 < unitsPerOne := by
  unfold unitsPerOne; exact Nat.two_pow_pos finestPlace

theorem magnitudeLimit_pos : 0 < magnitudeLimit := by
  unfold magnitudeLimit
  exact Nat.mul_pos (Nat.two_pow_pos exponentLimit) unitsPerOne_pos

theorem isMagnitude_zero : IsMagnitude 0 := ⟨magnitudeLimit_pos, 0, 0, by decide, by simp⟩

/-- A remainder of significant numbers is significant: it is a multiple of the smaller of the two
powers of two, and smaller than the significand that goes with it. -/
theorem IsSignificant.mod {a b : Nat} (ha : IsSignificant a) (hb : IsSignificant b) :
    IsSignificant (a % b) := by
  obtain ⟨m, s, hm, rfl⟩ := ha
  obtain ⟨n, t, hn, rfl⟩ := hb
  rcases Nat.le_total t s with h | h
  · obtain ⟨k, rfl⟩ := Nat.exists_eq_add_of_le h
    rw [Nat.add_comm t k, Nat.pow_add, ← Nat.mul_assoc, Nat.mul_mod_mul_right]
    rcases Nat.eq_zero_or_pos n with rfl | hpos
    · refine ⟨m, k + t, hm, ?_⟩
      rw [Nat.mod_zero, Nat.mul_assoc, Nat.pow_add]
    · exact ⟨_, t, Nat.lt_trans (Nat.mod_lt _ hpos) hn, rfl⟩
  · obtain ⟨k, rfl⟩ := Nat.exists_eq_add_of_le h
    rw [Nat.add_comm s k, Nat.pow_add, ← Nat.mul_assoc n, Nat.mul_mod_mul_right]
    exact ⟨_, s, Nat.lt_of_le_of_lt (Nat.mod_le _ _) hm, rfl⟩

theorem IsMagnitude.mod {a b : Nat} (ha : IsMagnitude a) (hb : IsMagnitude b) :
    IsMagnitude (a % b) :=
  ⟨Nat.lt_of_le_of_lt (Nat.mod_le _ _) ha.1, ha.2.mod hb.2⟩

/-! ### Rounding -/

/-- The quotient of two numbers, rounded to the nearest number; a tie goes to the even one. -/
def roundQuotient (n d : Nat) : Nat :=
  if 2 * (n % d) < d ∨ (2 * (n % d) = d ∧ n / d % 2 = 0) then n / d else n / d + 1

theorem roundQuotient_le (n d : Nat) : roundQuotient n d ≤ n / d + 1 := by
  unfold roundQuotient; split <;> omega

@[simp] theorem roundQuotient_one (n : Nat) : roundQuotient n 1 = n := by
  simp [roundQuotient, Nat.mod_one]

theorem roundQuotient_mul (n : Nat) {d : Nat} (h : 0 < d) : roundQuotient (n * d) d = n := by
  simp [roundQuotient, h]

/-- The number of bits of a number beyond the 53 that a significand has. -/
def excessBits (n : Nat) : Nat := n.log2 + 1 - precision

theorem lt_two_pow_excessBits (n : Nat) : n < 2 ^ precision * 2 ^ excessBits n := by
  rw [← Nat.pow_add]
  refine Nat.lt_of_lt_of_le (Nat.lt_log2_self (n := n)) (Nat.pow_le_pow_right (by omega) ?_)
  unfold excessBits; omega

/-- The number with at most 53 significant bits that is nearest to a quotient. -/
def nearestMagnitude (n d : Nat) : Nat :=
  let s := excessBits (n / d)
  roundQuotient n (d * 2 ^ s) * 2 ^ s

/-- **Rounding keeps at most 53 bits.** -/
theorem isSignificant_nearestMagnitude (n d : Nat) : IsSignificant (nearestMagnitude n d) := by
  unfold nearestMagnitude
  have hle : roundQuotient n (d * 2 ^ excessBits (n / d)) ≤ 2 ^ precision := by
    refine Nat.le_trans (roundQuotient_le ..) ?_
    rw [← Nat.div_div_eq_div_mul]
    have := Nat.div_lt_of_lt_mul
      (Nat.mul_comm (2 ^ precision) _ ▸ lt_two_pow_excessBits (n / d))
    omega
  rcases Nat.lt_or_ge (roundQuotient n (d * 2 ^ excessBits (n / d))) (2 ^ precision) with h | h
  · exact ⟨_, _, h, rfl⟩
  · refine ⟨2 ^ (precision - 1), excessBits (n / d) + 1, by decide, ?_⟩
    show roundQuotient n (d * 2 ^ excessBits (n / d)) * 2 ^ excessBits (n / d) = _
    rw [Nat.le_antisymm hle h]
    rw [show precision = precision - 1 + 1 from rfl, Nat.pow_succ, Nat.mul_assoc,
      Nat.add_sub_cancel, Nat.pow_succ, Nat.mul_comm 2]

/-- A whole number with at most 53 significant bits is left alone. -/
theorem nearestMagnitude_of_isSignificant {u : Nat} (h : IsSignificant u) :
    nearestMagnitude u 1 = u := by
  obtain ⟨m, s, hm, rfl⟩ := h
  show roundQuotient (m * 2 ^ s) (1 * 2 ^ excessBits (m * 2 ^ s / 1))
    * 2 ^ excessBits (m * 2 ^ s / 1) = m * 2 ^ s
  rw [Nat.div_one, Nat.one_mul]
  obtain ⟨w, hw⟩ : ∃ w, m * 2 ^ s = w * 2 ^ excessBits (m * 2 ^ s) := by
    rcases Nat.eq_zero_or_pos m with rfl | hpos
    · exact ⟨0, by simp⟩
    · have hne : m * 2 ^ s ≠ 0 := Nat.ne_of_gt (Nat.mul_pos hpos (Nat.two_pow_pos s))
      have hlt : (m * 2 ^ s).log2 < precision + s := by
        rw [Nat.log2_lt hne, Nat.pow_add]
        exact Nat.mul_lt_mul_of_pos_right hm (Nat.two_pow_pos s)
      have hle : excessBits (m * 2 ^ s) ≤ s := by unfold excessBits; omega
      obtain ⟨k, hk⟩ := Nat.exists_eq_add_of_le hle
      refine ⟨m * 2 ^ k, ?_⟩
      generalize excessBits (m * 2 ^ s) = e at hk
      rw [hk, Nat.add_comm, Nat.pow_add, Nat.mul_assoc]
  generalize excessBits (m * 2 ^ s) = e at hw
  rw [hw, roundQuotient_mul w (Nat.two_pow_pos e)]

/-! ### Doubles -/

/-- A double: not a number, an infinity, or a signed magnitude in units of `2 ^ -1074`.  Zero has two
signs. -/
inductive Binary64
  | nan
  | infinite (negative : Bool)
  | finite (negative : Bool) (units : Nat) (isMagnitude : IsMagnitude units)
  deriving DecidableEq

namespace Binary64

/-- Zero with a sign. -/
def zero (negative : Bool) : Binary64 := finite negative 0 isMagnitude_zero

/-- The double nearest to a signed quotient, in units. -/
def round (negative : Bool) (n d : Nat) : Binary64 :=
  if h : nearestMagnitude n d < magnitudeLimit then
    finite negative (nearestMagnitude n d) ⟨h, isSignificant_nearestMagnitude n d⟩
  else infinite negative

/-- A double that is not infinite. -/
def unlessInfinite? : Binary64 → Option Binary64
  | infinite _ => none
  | x => some x

theorem eq_of_unlessInfinite? {x y : Binary64} (h : x.unlessInfinite? = some y) : x = y := by
  cases x with
  | infinite => exact absurd h (by simp [unlessInfinite?])
  | _ => exact Option.some.inj h

/-- The double nearest to an integer, and none when that is beyond all doubles. -/
def ofInt? (n : Int) : Option Binary64 :=
  (round (n < 0) (n.natAbs * unitsPerOne) 1).unlessInfinite?

/-- A number below `2 ^ 53` is a double. -/
theorem round_eq_finite (negative : Bool) {n : Nat} (h : n < 2 ^ precision) :
    ∃ isMagnitude : IsMagnitude (n * unitsPerOne),
      round negative (n * unitsPerOne) 1 = finite negative (n * unitsPerOne) isMagnitude := by
  have hsignificant : IsSignificant (n * unitsPerOne) := ⟨n, finestPlace, h, rfl⟩
  have hnearest := nearestMagnitude_of_isSignificant hsignificant
  have hlimit : n < 2 ^ exponentLimit :=
    Nat.lt_of_lt_of_le h (Nat.pow_le_pow_right (by decide) (by decide))
  have hlt : n * unitsPerOne < magnitudeLimit :=
    Nat.mul_lt_mul_of_pos_right hlimit unitsPerOne_pos
  refine ⟨⟨hlt, hsignificant⟩, ?_⟩
  unfold round
  rw [dif_pos (by rw [hnearest]; exact hlt)]
  congr 1

/-- The double nearest to a natural number; infinite when that is beyond all doubles. -/
def ofNat (n : Nat) : Binary64 := round false (n * unitsPerOne) 1

instance (n : Nat) : OfNat Binary64 n := ⟨ofNat n⟩

instance : Inhabited Binary64 := ⟨zero false⟩

/-- The double with the other sign. -/
def neg : Binary64 → Binary64
  | nan => nan
  | infinite s => infinite !s
  | finite s u h => finite (!s) u h

instance : Neg Binary64 := ⟨neg⟩

/-- The number of units in a signed magnitude. -/
def signedUnits (negative : Bool) (units : Nat) : Int := if negative then -units else units

/-! ### Arithmetic -/

/-- A sum.  Equal magnitudes of different signs add up to positive zero. -/
def add : Binary64 → Binary64 → Binary64
  | nan, _ => nan
  | _, nan => nan
  | infinite s, infinite t => if s = t then infinite s else nan
  | infinite s, finite .. => infinite s
  | finite .., infinite t => infinite t
  | finite s u _, finite t v _ =>
      let total := signedUnits s u + signedUnits t v
      if total = 0 then zero (s && t) else round (total < 0) total.natAbs 1

/-- A difference. -/
def sub (x y : Binary64) : Binary64 := x.add y.neg

/-- A product. -/
def mul : Binary64 → Binary64 → Binary64
  | nan, _ => nan
  | _, nan => nan
  | infinite s, infinite t => infinite (s != t)
  | infinite s, finite t v _ => if v = 0 then nan else infinite (s != t)
  | finite s u _, infinite t => if u = 0 then nan else infinite (s != t)
  | finite s u _, finite t v _ => round (s != t) (u * v) unitsPerOne

/-- The remainder of a division towards zero; it has the sign of the dividend and is exact.  Not a
number for an infinite dividend and for the divisor zero. -/
def fmod : Binary64 → Binary64 → Binary64
  | nan, _ => nan
  | _, nan => nan
  | infinite _, _ => nan
  | finite s u h, infinite _ => finite s u h
  | finite s u hu, finite _ v hv => if v = 0 then nan else finite s (u % v) (hu.mod hv)

/-! ### Order -/

end Binary64

/-- The integers with a least and a greatest element added. -/
inductive Extended
  | least
  | units (n : Int)
  | greatest
  deriving DecidableEq

namespace Extended

/-- Strict order of the extended line. -/
def lt : Extended → Extended → Bool
  | least, least => false
  | least, _ => true
  | units _, least => false
  | units m, units n => m < n
  | units _, greatest => true
  | greatest, _ => false

/-- Order of the extended line. -/
def le (x y : Extended) : Bool := !y.lt x

end Extended

namespace Binary64

/-- The place of a double on the extended line; not-a-number has none. -/
def extended? : Binary64 → Option Extended
  | nan => none
  | infinite s => some (if s then .least else .greatest)
  | finite s u _ => some (.units (signedUnits s u))

/-- Strict order of doubles; nothing is below or above not-a-number. -/
def lt (x y : Binary64) : Bool :=
  match x.extended?, y.extended? with
  | some a, some b => a.lt b
  | _, _ => false

/-- The value cut to the bounds `low` and `high`.  Not-a-number becomes the upper bound, and a bound
is taken for a value equal to it. -/
def clamp (low high x : Binary64) : Binary64 :=
  let capped := if x.lt high then x else high
  if low.lt capped then capped else low

/-! ### Whole numbers on the line -/

theorem finite_congr {s : Bool} {u v : Nat} {hu : IsMagnitude u} {hv : IsMagnitude v} (h : u = v) :
    finite s u hu = finite s v hv := by
  subst h
  rfl

theorem ofNat_zero : ofNat 0 = zero false := by
  obtain ⟨hmagnitude, hround⟩ := round_eq_finite false (Nat.two_pow_pos precision)
  rw [ofNat, hround]
  exact finite_congr (Nat.zero_mul _)

/-- A small whole number stands where it should. -/
theorem extended?_ofNat {n : Nat} (h : n < 2 ^ precision) :
    (ofNat n).extended? = some (.units (n * unitsPerOne)) := by
  obtain ⟨hmagnitude, hround⟩ := round_eq_finite false h
  rw [ofNat, hround, ← Int.natCast_mul]
  rfl

theorem extended?_neg {x : Binary64} {m : Int} (h : x.extended? = some (.units m)) :
    (-x).extended? = some (.units (-m)) := by
  cases x with
  | nan => exact absurd h (by simp [extended?])
  | infinite negative => cases negative <;> exact absurd h (by simp [extended?])
  | finite negative units hmagnitude =>
      obtain rfl := Extended.units.inj (Option.some.inj h)
      show (finite (!negative) units hmagnitude).extended? = _
      cases negative <;> simp [extended?, signedUnits]

theorem lt_eq_decide {x y : Binary64} {m n : Int} (hx : x.extended? = some (.units m))
    (hy : y.extended? = some (.units n)) : x.lt y = decide (m < n) := by
  simp only [lt, hx, hy, Extended.lt]

/-- What is between the bounds is not cut. -/
theorem clamp_of_lt {low high x : Binary64} (hlow : low.lt x = true) (hhigh : x.lt high = true) :
    clamp low high x = x := by
  simp only [clamp, hhigh, hlow, if_true]

/-- What is no more than the lower bound becomes that bound. -/
theorem clamp_of_not_lt {low high x : Binary64} (hlow : low.lt x = false)
    (hhigh : x.lt high = true) : clamp low high x = low := by
  simp only [clamp, hhigh, hlow, if_true, Bool.false_eq_true, if_false]

/-- Zero leaves the remainder zero. -/
theorem zero_fmod (negative : Bool) {n : Nat} (hpos : 0 < n) (h : n < 2 ^ precision) :
    (zero negative).fmod (ofNat n) = zero negative := by
  obtain ⟨hmagnitude, hround⟩ := round_eq_finite false h
  have hne : n * unitsPerOne ≠ 0 := Nat.ne_of_gt (Nat.mul_pos hpos unitsPerOne_pos)
  rw [ofNat, hround, zero, fmod, if_neg hne]
  exact finite_congr (Nat.zero_mod _)

/-! ### Integers in doubles -/

/-- Why a double has no integer part. -/
inductive NoIntegerPart
  | notANumber
  | infinite
  deriving DecidableEq

/-- The integer part, towards zero. -/
def truncate : Binary64 → Except NoIntegerPart Int
  | nan => .error .notANumber
  | infinite _ => .error .infinite
  | finite s u _ => .ok (signedUnits s (u / unitsPerOne))

end Binary64

end RobotShorthand
