/-
**Rounding to a given magnitude.**

`RobotShorthand.Number.Binary64` rounds a quotient by cutting it to 53 bits.  This module says from the
outside what comes out: equal quotients are rounded alike, and a quotient that differs from a magnitude
by less than `2 ^ -54` of it is rounded to that magnitude.  The bound is the best one that holds for all
magnitudes: below a power of two the magnitudes stand twice as close as above it.

Main results:

* `roundQuotient_eq_of_near` — a quotient less than one half from a number is rounded to it;
* `nearestMagnitude_congr` — **rounding depends on the quotient only;**
* `nearestMagnitude_eq_of_near` — **a quotient near to a magnitude is rounded to it.**
-/

import RobotShorthand.Number.Binary64

set_option relaxedAutoImplicit false
set_option autoImplicit false

namespace RobotShorthand

-- Powers are those of the natural numbers themselves, whatever structure is known of them elsewhere.
attribute [local instance (high)] instPowNat

/-! ### Equal quotients -/

section Equal

variable {n d n' d' c : Nat}

/-- A quotient with both of its sides multiplied is rounded to the same number. -/
theorem roundQuotient_scale (hc : 0 < c) : roundQuotient (n * c) (d * c) = roundQuotient n d := by
  have hdouble : 2 * (n % d * c) = 2 * (n % d) * c := (Nat.mul_assoc ..).symm
  have hlt : 2 * (n % d) * c < d * c ↔ 2 * (n % d) < d := Nat.mul_lt_mul_right hc
  have heq : 2 * (n % d) * c = d * c ↔ 2 * (n % d) = d := Nat.mul_left_inj (Nat.ne_of_gt hc)
  simp only [roundQuotient, Nat.mul_div_mul_right n d hc, Nat.mul_mod_mul_right, hdouble, hlt, heq]

theorem nearestMagnitude_scale (hc : 0 < c) :
    nearestMagnitude (n * c) (d * c) = nearestMagnitude n d := by
  have hcut : d * c * 2 ^ excessBits (n / d) = d * 2 ^ excessBits (n / d) * c :=
    Nat.mul_right_comm ..
  simp only [nearestMagnitude, Nat.mul_div_mul_right n d hc, hcut, roundQuotient_scale hc]

/-- **Rounding depends on the quotient only.** -/
theorem nearestMagnitude_congr (hd : 0 < d) (hd' : 0 < d') (h : n * d' = n' * d) :
    nearestMagnitude n d = nearestMagnitude n' d' :=
  calc nearestMagnitude n d
      = nearestMagnitude (n * d') (d * d') := (nearestMagnitude_scale hd').symm
    _ = nearestMagnitude (n' * d) (d' * d) := by rw [h, Nat.mul_comm d d']
    _ = nearestMagnitude n' d' := nearestMagnitude_scale hd

end Equal

/-! ### Quotients near to a magnitude -/

/-- A quotient less than one half from a number is rounded to it. -/
theorem roundQuotient_eq_of_near {n d k : Nat} (hlow : 2 * (k * d) < 2 * n + d)
    (hhigh : 2 * n < 2 * (k * d) + d) : roundQuotient n d = k := by
  have hd : 0 < d := by omega
  have hdiv := Nat.div_add_mod' n d
  have hmod := Nat.mod_lt n hd
  have hsucc (m : Nat) : (m + 1) * d = m * d + d := Nat.succ_mul m d
  unfold roundQuotient
  -- the integer part is the number, or the one below it
  rcases Nat.lt_trichotomy (n / d) k with hlt | heq | hgt
  · rcases Nat.eq_or_lt_of_le hlt with hbelow | hfar
    · rw [← hbelow, hsucc] at hlow
      rw [if_neg (by omega), ← hbelow]
    · have hle := Nat.mul_le_mul_right d hfar
      rw [hsucc, hsucc] at hle
      omega
  · rw [heq] at hdiv
    rw [if_pos (by omega), heq]
  · have hle := Nat.mul_le_mul_right d hgt
    rw [hsucc] at hle
    omega

/-- A quotient so near to a magnitude that no other one can be as near: it differs by less than one
part in `2 ^ 54`. -/
structure IsNear (n d u : Nat) : Prop where
  high : 2 ^ (54 : Nat) * n < (2 ^ (54 : Nat) + 1) * (u * d)
  low : (2 ^ (54 : Nat) - 1) * (u * d) < 2 ^ (54 : Nat) * n

section Near

variable {n d m t : Nat}

/-- A quotient near to a magnitude is cut no higher than the last place of the magnitude. -/
theorem IsNear.excessBits_le (h : IsNear n d (m * 2 ^ t)) (hm : m < 2 ^ precision) :
    excessBits (n / d) ≤ t := by
  rcases Nat.lt_or_ge t (excessBits (n / d)) with hlt | hle
  · -- otherwise the quotient is at least `2 ^ 53` of those places, and the magnitude is less
    have hd : 0 < d := by
      rcases Nat.eq_zero_or_pos d with rfl | hd
      · have := h.high
        simp at this
      · exact hd
    have hlog : (n / d).log2 = 52 + excessBits (n / d) := by
      unfold excessBits precision at hlt ⊢
      omega
    have hne : n / d ≠ 0 := by
      intro hzero
      rw [hzero, Nat.log2_zero] at hlog
      omega
    have hquotient : 2 ^ 53 * 2 ^ t ≤ n / d := by
      rw [← Nat.pow_add]
      exact Nat.le_trans (Nat.pow_le_pow_right (by decide) (by omega)) (Nat.log2_self_le hne)
    have hn : 2 ^ 53 * (2 ^ t * d) ≤ n := by
      rw [← Nat.mul_assoc]
      exact (Nat.le_div_iff_mul_le hd).1 hquotient
    have hpos : 0 < 2 ^ t * d := Nat.mul_pos (Nat.two_pow_pos t) hd
    have hmagnitude : m * (2 ^ t * d) ≤ (2 ^ 53 - 1) * (2 ^ t * d) :=
      Nat.mul_le_mul_right _ (Nat.le_pred_of_lt hm)
    have hhigh := h.high
    rw [Nat.mul_assoc] at hhigh
    omega
  · exact hle

/-- **A quotient near to a magnitude is rounded to it.** -/
theorem nearestMagnitude_eq_of_near {u : Nat} (hu : IsSignificant u) (hd : 0 < d)
    (h : IsNear n d u) : nearestMagnitude n d = u := by
  obtain ⟨m, t, hm, rfl⟩ := hu
  obtain ⟨j, hj⟩ := Nat.exists_eq_add_of_le (h.excessBits_le hm)
  have hcut : n < 2 ^ 53 * (d * 2 ^ excessBits (n / d)) := by
    have hlt := (Nat.div_lt_iff_lt_mul hd).1 (lt_two_pow_excessBits (n / d))
    rwa [Nat.mul_assoc, Nat.mul_comm (2 ^ _) d] at hlt
  show roundQuotient n (d * 2 ^ excessBits (n / d)) * 2 ^ excessBits (n / d) = m * 2 ^ t
  have hu (s : Nat) : m * 2 ^ (s + j) = m * 2 ^ j * 2 ^ s := by
    rw [Nat.add_comm, Nat.pow_add, Nat.mul_assoc]
  have hscaled (s : Nat) : m * 2 ^ j * 2 ^ s * d = m * 2 ^ j * (d * 2 ^ s) := by
    rw [Nat.mul_assoc, Nat.mul_comm (2 ^ s)]
  obtain ⟨hhigh, hlow⟩ := h
  generalize excessBits (n / d) = s at hj hcut ⊢
  rw [hj, hu, hscaled] at hhigh hlow
  rw [hj, hu]
  -- the magnitude has at most `2 ^ 53` of the places that are left
  have hle : m * 2 ^ j ≤ 2 ^ 53 := by
    rcases Nat.lt_or_ge (2 ^ 53) (m * 2 ^ j) with hlt | hle
    · have hfar := Nat.mul_le_mul_right (d * 2 ^ s) hlt
      rw [Nat.succ_mul] at hfar
      omega
    · exact hle
  have hparts := Nat.mul_le_mul_right (d * 2 ^ s) hle
  rw [roundQuotient_eq_of_near (k := m * 2 ^ j) (by omega) (by omega)]

end Near

end RobotShorthand
