/-
**Whole numbers in doubles.**

Every whole number below `2 ^ 53` is a double, so as long as sums stay below it nothing is rounded, and
arithmetic on doubles that are whole numbers is that of the integers.  The remainder is exact anyway;
a divisor is added to it when it is negative, and that sum is exact for the same reason.  It never gives
the negative zero, so a remainder is one and the same double however it came about.

Main definitions:

* `Number.IsWhole` — **a number that is a whole number:** an integer, or a double below `2 ^ 52`;
* `Number.replaced` — a whole number of the same kind as a number.

Main results:

* `Binary64.extended?_add`, `Binary64.exists_ofInt?_of_lt` — sums and conversions are exact;
* `Binary64.floatModulo_eq_ofNat` — remainders are exact;
* `Number.IsWhole.exists_sum` — **a whole number and an integer of 32 bits add up exactly,** and so does
  the remainder of the sum.
-/

import RobotShorthand.Proofs.Robot.Limits
import RobotShorthand.Proofs.Dense.Numeral

set_option relaxedAutoImplicit false
set_option autoImplicit false

namespace RobotShorthand

-- Powers are those of the natural numbers themselves, as in the definition of doubles.
attribute [local instance (high)] instPowNat

namespace Binary64

variable {x y : Binary64} {a b : Int} {d r : Nat}

/-! ### Doubles on the line -/

theorem exists_eq_finite {m : Int} (h : x.extended? = some (.units m)) :
    ∃ s u hu, x = finite s u hu ∧ signedUnits s u = m := by
  cases x with
  | nan => exact absurd h (by simp [extended?])
  | infinite negative => cases negative <;> exact absurd h (by simp [extended?])
  | finite s u hu => exact ⟨s, u, hu, rfl, Extended.units.inj (Option.some.inj h)⟩

theorem signedUnits_natAbs (m : Int) : signedUnits (m < 0) m.natAbs = m := by
  unfold signedUnits
  by_cases h : m < 0
  · rw [decide_eq_true h, if_pos rfl]
    omega
  · rw [decide_eq_false h, if_neg (by simp)]
    omega

theorem natAbs_signedUnits (s : Bool) (u : Nat) : (signedUnits s u).natAbs = u := by
  cases s <;> simp [signedUnits]

theorem signedUnits_mul (s : Bool) (u v : Nat) :
    signedUnits s (u * v) = signedUnits s u * v := by
  cases s with
  | false => exact Int.natCast_mul u v
  | true => exact (congrArg Neg.neg (Int.natCast_mul u v)).trans (Int.neg_mul ..).symm

theorem extended?_finite_mul {s : Bool} {u : Nat} (h : IsMagnitude (u * unitsPerOne)) :
    (finite s (u * unitsPerOne) h).extended? = some (.units (signedUnits s u * unitsPerOne)) := by
  rw [← signedUnits_mul]
  rfl

theorem natAbs_mul_unitsPerOne (a : Int) : (a * unitsPerOne).natAbs = a.natAbs * unitsPerOne := by
  rw [Int.natAbs_mul, Int.natAbs_natCast]

theorem mul_unitsPerOne_neg_iff : a * unitsPerOne < 0 ↔ a < 0 := by
  have hpos : (0 : Int) < unitsPerOne := Int.natCast_pos.2 unitsPerOne_pos
  constructor
  · intro h
    by_contra hneg
    have hle := Int.mul_nonneg (Int.not_lt.1 hneg) (Int.le_of_lt hpos)
    omega
  · exact fun h => Int.mul_neg_of_neg_of_pos h hpos

/-- **Whole numbers below `2 ^ 53` are not rounded.** -/
theorem extended?_round (h : a.natAbs < 2 ^ precision) :
    (round (a * unitsPerOne < 0) (a * unitsPerOne).natAbs 1).extended?
      = some (.units (a * unitsPerOne)) := by
  obtain ⟨hmagnitude, hround⟩ := round_eq_finite (a * unitsPerOne < 0) h
  rw [natAbs_mul_unitsPerOne, hround, extended?, ← natAbs_mul_unitsPerOne, signedUnits_natAbs]

/-- An integer below `2 ^ 53` is converted exactly. -/
theorem exists_ofInt?_of_lt (h : a.natAbs < 2 ^ precision) :
    ∃ x, ofInt? a = some x ∧ x.extended? = some (.units (a * unitsPerOne)) := by
  have hexact := extended?_round h
  have hsign : decide (a * unitsPerOne < 0) = decide (a < 0) :=
    decide_eq_decide.2 mul_unitsPerOne_neg_iff
  rw [natAbs_mul_unitsPerOne, hsign] at hexact
  obtain ⟨s, u, hu, hround, _⟩ := exists_eq_finite hexact
  exact ⟨_, by rw [ofInt?, hround]; rfl, hround ▸ hexact⟩

/-- **Whole numbers add up exactly.** -/
theorem extended?_add (hx : x.extended? = some (.units (a * unitsPerOne)))
    (hy : y.extended? = some (.units (b * unitsPerOne))) (h : (a + b).natAbs < 2 ^ precision) :
    (x.add y).extended? = some (.units ((a + b) * unitsPerOne)) := by
  obtain ⟨s, u, hu, rfl, hxu⟩ := exists_eq_finite hx
  obtain ⟨t, v, hv, rfl, hyv⟩ := exists_eq_finite hy
  have htotal : signedUnits s u + signedUnits t v = (a + b) * unitsPerOne := by
    rw [hxu, hyv, Int.add_mul]
  rw [add, htotal]
  by_cases hzero : (a + b) * unitsPerOne = 0
  · simp only [if_pos hzero]
    rw [hzero]
    cases s && t <;> rfl
  · simp only [if_neg hzero]
    exact extended?_round h

/-! ### Remainders -/

/-- A positive whole number is one double. -/
theorem eq_ofNat (hpos : 0 < r) (h : r < 2 ^ precision)
    (hx : x.extended? = some (.units (r * unitsPerOne))) : x = ofNat r := by
  obtain ⟨s, u, hu, rfl, hunits⟩ := exists_eq_finite hx
  obtain ⟨hmagnitude, hround⟩ := round_eq_finite false h
  have hpositive : (0 : Int) < r * unitsPerOne :=
    Int.mul_pos (Int.natCast_pos.2 hpos) (Int.natCast_pos.2 unitsPerOne_pos)
  have hsign : s = false := by
    cases s with
    | false => rfl
    | true =>
        simp only [signedUnits, if_pos] at hunits
        omega
  subst hsign
  have hu : u = r * unitsPerOne := by
    have habs := congrArg Int.natAbs hunits
    rw [natAbs_signedUnits, natAbs_mul_unitsPerOne, Int.natAbs_natCast] at habs
    exact habs
  rw [ofNat, hround]
  exact finite_congr hu

/-- The remainder of a division towards zero has the sign of the dividend. -/
theorem exists_fmod_eq (hd : 0 < d) (hlt : d < 2 ^ precision)
    (hx : x.extended? = some (.units (a * unitsPerOne))) :
    ∃ s h, x.fmod (ofNat d) = finite s (a.natAbs % d * unitsPerOne) h
      ∧ (s = true → a ≤ 0) ∧ (s = false → 0 ≤ a) := by
  obtain ⟨s, u, hu, rfl, hunits⟩ := exists_eq_finite hx
  obtain ⟨hmagnitude, hround⟩ := round_eq_finite false hlt
  have hvalue : u = a.natAbs * unitsPerOne := by
    rw [← natAbs_mul_unitsPerOne, ← hunits, natAbs_signedUnits]
  have hrest : u % (d * unitsPerOne) = a.natAbs % d * unitsPerOne := by
    rw [hvalue, Nat.mul_mod_mul_right]
  have hne : d * unitsPerOne ≠ 0 := Nat.ne_of_gt (Nat.mul_pos hd unitsPerOne_pos)
  have hpos : (0 : Int) < unitsPerOne := Int.natCast_pos.2 unitsPerOne_pos
  refine ⟨s, hrest ▸ hu.mod hmagnitude, ?_, ?_, ?_⟩
  · rw [ofNat, hround, fmod, if_neg hne]
    exact finite_congr hrest
  · rintro rfl
    by_contra ha
    have hlt := Int.mul_pos (Int.not_le.1 ha) hpos
    simp only [signedUnits, if_true] at hunits
    omega
  · rintro rfl
    by_contra ha
    have hlt := mul_unitsPerOne_neg_iff.2 (Int.not_le.1 ha)
    rw [signedUnits, if_neg (by simp)] at hunits
    omega

/-- The remainder with the sign of the divisor, from that of the magnitudes. -/
theorem emod_of_nonneg (ha : 0 ≤ a) : a % d = (a.natAbs % d : Nat) := by
  rw [Int.natCast_emod, Int.natAbs_of_nonneg ha]

theorem emod_of_nonpos (hd : 0 < d) (ha : a ≤ 0) (hne : a.natAbs % d ≠ 0) :
    a % d = -(a.natAbs % d : Nat) + d := by
  have hlt := Nat.mod_lt a.natAbs hd
  have hdiv := Nat.div_add_mod a.natAbs d
  have hsplit : a = (-(a.natAbs % d : Nat) + d) + d * (-(a.natAbs / d : Nat) - 1) := by
    rw [Int.mul_sub, Int.mul_neg, ← Int.natCast_mul]
    omega
  rw [hsplit, Int.add_mul_emod_self_left, Int.emod_eq_of_lt (by omega) (by omega), ← hsplit]

/-- **The remainder of a whole number is a whole number,** and never the negative zero. -/
theorem floatModulo_eq_ofNat (hd : 0 < d) (hlt : d < 2 ^ precision)
    (hx : x.extended? = some (.units (a * unitsPerOne))) :
    Number.floatModulo x (ofNat d) = ofNat (a % d).toNat := by
  obtain ⟨s, h, hfmod, hnonpos, hnonneg⟩ := exists_fmod_eq hd hlt hx
  have hmod : a.natAbs % d < d := Nat.mod_lt _ hd
  rw [Number.floatModulo, hfmod]
  by_cases hzero : a.natAbs % d = 0
  · have hdvd : a % d = 0 :=
      Int.emod_eq_zero_of_dvd (Int.ofNat_dvd_left.2 (Nat.dvd_of_mod_eq_zero hzero))
    simp only [hzero, Nat.zero_mul, if_true, hdvd, Int.toNat_zero, ofNat_zero]
  · have hne : a.natAbs % d * unitsPerOne ≠ 0 :=
      Nat.ne_of_gt (Nat.mul_pos (Nat.pos_of_ne_zero hzero) unitsPerOne_pos)
    have hrest := extended?_finite_mul (s := s) h
    simp only [if_neg hne]
    cases s with
    | false =>
        rw [emod_of_nonneg (hnonneg rfl), Int.toNat_natCast]
        exact eq_ofNat (Nat.pos_of_ne_zero hzero) (Nat.lt_trans hmod hlt) hrest
    | true =>
        -- the divisor is added to a negative remainder, and the sum is exact again
        have hvalue := emod_of_nonpos hd (hnonpos rfl) hzero
        have hunits : signedUnits true (a.natAbs % d) = -(a.natAbs % d : Nat) := rfl
        have hsum := extended?_add hrest (extended?_ofNat hlt) (by omega)
        rw [if_pos rfl]
        refine eq_ofNat (by omega) (by omega) ?_
        rw [hsum, hvalue, hunits, Int.toNat_of_nonneg (by omega)]

end Binary64

/-! ### Whole numbers -/

namespace Number

/-- The bound of the doubles that are taken for whole numbers: `2 ^ 52`. -/
def wholeLimit : Nat := 4503599627370496

/-- **A number that is the whole number `h`:** an integer, or a double below `2 ^ 52`. -/
def IsWhole (h : Int) : Number → Prop
  | int n => n = h
  | float x => x.extended? = some (.units (h * unitsPerOne)) ∧ h.natAbs < wholeLimit

/-- A whole number in place of a number, of the same kind. -/
def replaced (r : Nat) : Number → Number
  | int _ => int r
  | float _ => float (.ofNat r)

theorem replaced_replaced (r r' : Nat) (x : Number) :
    (x.replaced r).replaced r' = x.replaced r' := by
  cases x with
  | int n => rfl
  | float x => simp only [replaced]

theorem wholeLimit_le : wholeLimit + wholeLimit ≤ 2 ^ precision := by decide

theorem isWhole_replaced (x : Number) {r : Nat} (hr : r < wholeLimit) :
    (x.replaced r).IsWhole r := by
  cases x with
  | int n => rfl
  | float x =>
      have hlt : r < 2 ^ precision := by
        have := wholeLimit_le
        omega
      exact ⟨Binary64.extended?_ofNat hlt, hr⟩

/-- **A whole number and an integer of 32 bits add up exactly,** and so does the remainder of the sum. -/
theorem IsWhole.exists_sum {x : Number} {h n : Int} {d : Nat} (hx : x.IsWhole h)
    (hn : Dense.isInt32 n = true) (hd : 0 < d) (hlt : d < wholeLimit) :
    ∃ sum, x.add? (.int n) = some sum ∧ sum.modulo d = x.replaced ((h + n) % d).toNat := by
  cases x with
  | int m =>
      obtain rfl : m = h := hx
      have hnonneg : 0 ≤ (m + n) % d := Int.emod_nonneg _ (by omega)
      refine ⟨.int (m + n), rfl, ?_⟩
      rw [modulo, replaced, Int.toNat_of_nonneg hnonneg]
  | float x =>
      obtain ⟨hvalue, hsmall⟩ := hx
      have hlimit := wholeLimit_le
      have hbounds := Dense.isInt32_iff.1 hn
      simp only [Dense.int32Min, Dense.int32Max] at hbounds
      have hnsmall : n.natAbs < wholeLimit := by
        unfold wholeLimit
        omega
      obtain ⟨y, hy, hyvalue⟩ := Binary64.exists_ofInt?_of_lt (a := n) (by omega)
      have hsum := Binary64.extended?_add hvalue hyvalue (by omega)
      refine ⟨.float (x.add y), ?_, ?_⟩
      · simp [add?, combine?, toFloat?, hy]
      · rw [modulo, replaced, Binary64.floatModulo_eq_ofNat hd (by omega) hsum]

end Number

end RobotShorthand
