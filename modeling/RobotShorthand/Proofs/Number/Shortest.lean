/-
**Seventeen digits read back.**

The text of a double is found by trying ever finer decimal grids until a neighbour of the magnitude on
the grid is read back as the magnitude.  On the grid with seventeen digits this happens in any case: a
neighbour is no further away than half a step of the grid, which is less than `10 ^ -16` of the
magnitude, and no other magnitude is as near as `2 ^ -54` of it.

Main definitions:

* `gridStep`, `gridScale` — the step of a decimal grid as a quotient of whole numbers.

Main results:

* `grid_le_iff` — one power of ten on two grids;
* `decimalMagnitude_mul_pow` — zeros at the end of a numeral are as good as a larger exponent;
* `readsBack?_ne_none` — **a grid fine enough has a neighbour that reads back;**
* `leadingExponent_spec` — the power of ten that a magnitude begins with;
* `decimalMagnitude_shortestFrom` — **the digits found by the search read back.**
-/

import RobotShorthand.Number.Decimal
import RobotShorthand.Proofs.Number.Rounding

set_option relaxedAutoImplicit false
set_option autoImplicit false

namespace RobotShorthand

-- Powers are those of the natural numbers themselves, whatever structure is known of them elsewhere.
attribute [local instance (high)] instPowNat

/-! ### Grids -/

/-- The number of parts that a unit is cut into for a grid to have whole steps. -/
def gridScale (exponent : Int) : Nat := if 0 ≤ exponent then 1 else 10 ^ (-exponent).toNat

/-- The step of the grid of multiples of `10 ^ exponent`, in those parts. -/
def gridStep (exponent : Int) : Nat :=
  if 0 ≤ exponent then unitsPerOne * 10 ^ exponent.toNat else unitsPerOne

theorem gridScale_pos (exponent : Int) : 0 < gridScale exponent := by
  unfold gridScale
  split
  · exact Nat.one_pos
  · exact Nat.pow_pos (by decide)

theorem gridStep_pos (exponent : Int) : 0 < gridStep exponent := by
  unfold gridStep
  split
  · exact Nat.mul_pos unitsPerOne_pos (Nat.pow_pos (by decide))
  · exact unitsPerOne_pos

theorem gridPlace_eq (units : Nat) (exponent : Int) :
    gridPlace units exponent = ⟨units * gridScale exponent / gridStep exponent, exponent,
      units * gridScale exponent % gridStep exponent, gridStep exponent⟩ := by
  unfold gridPlace gridScale gridStep
  by_cases he : 0 ≤ exponent
  · simp only [if_pos he, Nat.mul_one]
  · simp only [if_neg he]

theorem decimalMagnitude_eq (digits : Nat) (exponent : Int) :
    decimalMagnitude digits exponent
      = nearestMagnitude (digits * gridStep exponent) (gridScale exponent) := by
  unfold decimalMagnitude decimalRatio gridScale gridStep
  by_cases he : 0 ≤ exponent
  · simp only [if_pos he, Nat.mul_assoc, Nat.mul_comm unitsPerOne]
  · simp only [if_neg he]

/-- A grid whose steps are a power of ten as large. -/
theorem gridStep_add (exponent : Int) (k : Nat) :
    gridStep (exponent + k) * gridScale exponent
      = gridStep exponent * 10 ^ k * gridScale (exponent + k) := by
  unfold gridScale gridStep
  -- by the signs of the two exponents
  by_cases hsum : 0 ≤ exponent + k
  · by_cases he : 0 ≤ exponent
    · have hexponent : (exponent + k).toNat = exponent.toNat + k := by omega
      simp only [if_pos he, if_pos hsum, hexponent, Nat.pow_add, Nat.mul_assoc]
    · have hexponent : k = (exponent + k).toNat + (-exponent).toNat := by omega
      simp only [if_neg he, if_pos hsum, Nat.mul_one]
      rw [Nat.mul_assoc, ← Nat.pow_add, ← hexponent]
  · have he : ¬ 0 ≤ exponent := by omega
    have hexponent : (-exponent).toNat = k + (-(exponent + k)).toNat := by omega
    simp only [if_neg he, if_neg hsum, hexponent, Nat.pow_add, Nat.mul_assoc]

/-- One power of ten in the steps of two grids. -/
theorem gridStep_cross {e e' : Int} {k k' : Nat} (h : e + k = e' + k') :
    10 ^ k * gridStep e * gridScale e' = 10 ^ k' * gridStep e' * gridScale e := by
  have hleft := gridStep_add e k
  have hright := gridStep_add e' k'
  rw [h] at hleft
  refine Nat.eq_of_mul_eq_mul_right (gridScale_pos (e' + k')) ?_
  calc 10 ^ k * gridStep e * gridScale e' * gridScale (e' + k')
      = gridStep e * 10 ^ k * gridScale (e' + k') * gridScale e' := by ac_rfl
    _ = gridStep (e' + k') * gridScale e * gridScale e' := by rw [hleft]
    _ = gridStep (e' + k') * gridScale e' * gridScale e := Nat.mul_right_comm ..
    _ = gridStep e' * 10 ^ k' * gridScale (e' + k') * gridScale e := by rw [hright]
    _ = 10 ^ k' * gridStep e' * gridScale e * gridScale (e' + k') := by ac_rfl

/-- **Whether a magnitude reaches a power of ten does not depend on the grid.** -/
theorem grid_le_iff {units : Nat} {e e' : Int} {k k' : Nat} (h : e + k = e' + k') :
    10 ^ k * gridStep e ≤ units * gridScale e ↔ 10 ^ k' * gridStep e' ≤ units * gridScale e' := by
  rw [← Nat.mul_le_mul_right_iff (gridScale_pos e'), gridStep_cross h,
    Nat.mul_right_comm units, Nat.mul_le_mul_right_iff (gridScale_pos e)]

/-- **Zeros at the end of a numeral are as good as a larger exponent.** -/
theorem decimalMagnitude_mul_pow (digits zeros : Nat) (exponent : Int) :
    decimalMagnitude (digits * 10 ^ zeros) exponent = decimalMagnitude digits (exponent + zeros) := by
  rw [decimalMagnitude_eq, decimalMagnitude_eq]
  refine nearestMagnitude_congr (gridScale_pos _) (gridScale_pos _) ?_
  calc digits * 10 ^ zeros * gridStep exponent * gridScale (exponent + zeros)
      = digits * (gridStep exponent * 10 ^ zeros * gridScale (exponent + zeros)) := by ac_rfl
    _ = digits * (gridStep (exponent + zeros) * gridScale exponent) := by rw [gridStep_add]
    _ = digits * gridStep (exponent + zeros) * gridScale exponent := (Nat.mul_assoc ..).symm

/-- A numeral of zeros is zero. -/
theorem decimalMagnitude_zero (exponent : Int) : decimalMagnitude 0 exponent = 0 := by
  have hzero : nearestMagnitude 0 1 = 0 := nearestMagnitude_of_isSignificant isMagnitude_zero.2
  rw [decimalMagnitude_eq, Nat.zero_mul]
  exact (nearestMagnitude_congr (gridScale_pos exponent) Nat.one_pos (by simp)).trans hzero

/-! ### Neighbours on a grid -/

/-- **A grid fine enough has a neighbour that reads back:** the steps up to the magnitude are at least
`10 ^ 16`. -/
theorem readsBack?_ne_none {units : Nat} {exponent : Int} (hunits : IsSignificant units)
    (h : 10 ^ (16 : Nat) * gridStep exponent ≤ units * gridScale exponent) :
    (gridPlace units exponent).readsBack? units ≠ none := by
  have hstep := gridStep_pos exponent
  have hdiv := Nat.div_add_mod' (units * gridScale exponent) (gridStep exponent)
  have hmod := Nat.mod_lt (units * gridScale exponent) hstep
  have hnear {digits : Nat} (hdigits : IsNear (digits * gridStep exponent) (gridScale exponent) units) :
      decimalMagnitude digits exponent = units := by
    rw [decimalMagnitude_eq]
    exact nearestMagnitude_eq_of_near hunits (gridScale_pos exponent) hdigits
  rw [gridPlace_eq]
  generalize units * gridScale exponent / gridStep exponent = below at *
  generalize units * gridScale exponent % gridStep exponent = rest at *
  -- the nearer of the two neighbours
  have hread : decimalMagnitude below exponent = units
      ∨ decimalMagnitude (below + 1) exponent = units := by
    have hsucc : (below + 1) * gridStep exponent = below * gridStep exponent + gridStep exponent :=
      Nat.succ_mul ..
    rcases Nat.lt_or_ge (gridStep exponent) (2 * rest) with hfar | hclose
    · exact .inr (hnear ⟨by omega, by omega⟩)
    · exact .inl (hnear ⟨by omega, by omega⟩)
  simp only [GridPlace.readsBack?]
  split
  · split <;> simp
  · split
    · simp
    · rename_i hlow
      rw [if_pos (hread.resolve_left hlow)]
      simp

/-! ### The leading digit -/

/-- A magnitude of one has fewer parts than a power of ten has. -/
theorem unitsPerOne_le : unitsPerOne ≤ 10 ^ lowestLeadingPlace := by
  have hsixth : 2 ^ 125 ≤ 5 ^ 54 := by decide
  have hfinest : finestPlace = lowestLeadingPlace + 125 * 6 := rfl
  have hlowest : lowestLeadingPlace = 54 * 6 := rfl
  calc unitsPerOne
      = 2 ^ lowestLeadingPlace * 2 ^ (125 * 6) := by rw [unitsPerOne, hfinest, Nat.pow_add]
    _ = 2 ^ lowestLeadingPlace * (2 ^ 125) ^ 6 := congrArg _ (Nat.pow_mul ..)
    _ ≤ 2 ^ lowestLeadingPlace * (5 ^ 54) ^ 6 :=
        Nat.mul_le_mul_left _ (Nat.pow_le_pow_left hsixth 6)
    _ = 10 ^ lowestLeadingPlace := by
        rw [← Nat.pow_mul, ← hlowest, ← Nat.mul_pow]

/-- The powers of ten around a positive number. -/
theorem pow_length_repr {n : Nat} (h : 0 < n) :
    10 ^ (n.repr.length - 1) ≤ n ∧ n < 10 ^ n.repr.length := by
  have hpos : 0 < n.repr.length := Nat.length_repr_pos
  refine ⟨?_, (Nat.length_repr_le_iff hpos).1 (Nat.le_refl _)⟩
  rcases Nat.eq_zero_or_pos (n.repr.length - 1) with hzero | hmore
  · rw [hzero]
    exact h
  · rw [← Nat.not_lt, ← Nat.length_repr_le_iff hmore]
    omega

/-- **The power of ten that a magnitude begins with,** on the grid of the smallest magnitudes. -/
theorem leadingExponent_spec {units : Nat} (h : 0 < units) :
    ∃ l : Nat, leadingExponent units = -(lowestLeadingPlace : Int) + l
      ∧ 10 ^ l * unitsPerOne ≤ units * 10 ^ lowestLeadingPlace
      ∧ units * 10 ^ lowestLeadingPlace < 10 ^ (l + 1) * unitsPerOne := by
  have hpos : 0 < units * 10 ^ lowestLeadingPlace / unitsPerOne := by
    refine Nat.div_pos (Nat.le_trans unitsPerOne_le ?_) unitsPerOne_pos
    exact Nat.le_mul_of_pos_left _ h
  obtain ⟨hlow, hhigh⟩ := pow_length_repr hpos
  have hlength : 0 < (units * 10 ^ lowestLeadingPlace / unitsPerOne).repr.length :=
    Nat.length_repr_pos
  refine ⟨(units * 10 ^ lowestLeadingPlace / unitsPerOne).repr.length - 1, ?_, ?_, ?_⟩
  · unfold leadingExponent
    omega
  · exact (Nat.le_div_iff_mul_le unitsPerOne_pos).1 hlow
  · rw [Nat.sub_add_cancel hlength]
    exact (Nat.div_lt_iff_lt_mul unitsPerOne_pos).1 hhigh

/-- A magnitude reaches its leading power of ten, and not the next one. -/
theorem leadingExponent_bounds {units : Nat} (h : 0 < units) {exponent : Int} {k : Nat}
    (hk : exponent + k = leadingExponent units) :
    10 ^ k * gridStep exponent ≤ units * gridScale exponent
      ∧ units * gridScale exponent < 10 ^ (k + 1) * gridStep exponent := by
  obtain ⟨l, hl, hlow, hhigh⟩ := leadingExponent_spec h
  have hstep : gridStep (-(lowestLeadingPlace : Int)) = unitsPerOne := if_neg (by decide)
  have hscale : gridScale (-(lowestLeadingPlace : Int)) = 10 ^ lowestLeadingPlace := by
    rw [gridScale, if_neg (by decide), Int.neg_neg, Int.toNat_natCast]
  rw [← hstep, ← hscale] at hlow hhigh
  constructor
  · exact (grid_le_iff (by omega)).1 hlow
  · rw [← Nat.not_le] at hhigh ⊢
    exact fun hle => hhigh ((grid_le_iff (by omega)).1 hle)

/-! ### The search -/

/-- One step of the search. -/
theorem shortestFrom_succ (units : Nat) (leading : Int) (more digits : Nat) :
    shortestFrom units leading (more + 1) digits =
      match (gridPlace units (leading - digits)).readsBack? units with
      | some numeral => (numeral, leading - digits)
      | none => shortestFrom units leading more (digits + 1) := by
  rfl

/-- Digits found by the search read back, if some grid that it tries has a neighbour that does. -/
theorem decimalMagnitude_of_grid {units : Nat} {leading : Int} {more digits k : Nat}
    (hk : digits ≤ k ∧ k < digits + more)
    (h : (gridPlace units (leading - k)).readsBack? units ≠ none) :
    decimalMagnitude (shortestFrom units leading more digits).1
      (shortestFrom units leading more digits).2 = units := by
  induction more generalizing digits with
  | zero => exact absurd hk.1 (Nat.not_le.2 hk.2)
  | succ more ih =>
      rw [shortestFrom_succ]
      cases hread : (gridPlace units (leading - digits)).readsBack? units with
      | some numeral =>
          have hback := ofDecimal_shortestFrom hread
          rw [gridPlace_eq] at hback
          exact hback
      | none =>
          have hne : digits ≠ k := by
            rintro rfl
            exact h hread
          exact ih ⟨by omega, by omega⟩

/-- **The digits found by the search read back.** -/
theorem decimalMagnitude_shortestFrom {units : Nat} (h : 0 < units) (hunits : IsSignificant units) :
    decimalMagnitude (shortestFrom units (leadingExponent units) 17 0).1
      (shortestFrom units (leadingExponent units) 17 0).2 = units := by
  have hbounds := leadingExponent_bounds h (show leadingExponent units - (16 : Nat) + (16 : Nat)
    = leadingExponent units by omega)
  exact decimalMagnitude_of_grid ⟨Nat.zero_le 16, by decide⟩ (readsBack?_ne_none hunits hbounds.1)

/-- A neighbour is no further up than the next step. -/
theorem le_of_readsBack? {place : GridPlace} {units numeral : Nat}
    (h : place.readsBack? units = some numeral) : numeral ≤ place.below + 1 := by
  simp only [GridPlace.readsBack?] at h
  split at h
  · split at h
    · obtain rfl := Option.some.inj h
      omega
    · obtain rfl := Option.some.inj h
      omega
  · split at h
    · obtain rfl := Option.some.inj h
      omega
    · split at h
      · obtain rfl := Option.some.inj h
        omega
      · exact absurd h (by simp)

/-- The search ends on one of the grids that it tries, next to the magnitude. -/
theorem shortestFrom_bounds (units : Nat) (leading : Int) (more digits : Nat) :
    ∃ k : Nat, k ≤ digits + more ∧ (shortestFrom units leading more digits).2 = leading - k
      ∧ (shortestFrom units leading more digits).1 ≤ (gridPlace units (leading - k)).below + 1 := by
  induction more generalizing digits with
  | zero => exact ⟨digits, Nat.le_refl _, rfl, Nat.le_succ _⟩
  | succ more ih =>
      rw [shortestFrom_succ]
      cases hread : (gridPlace units (leading - digits)).readsBack? units with
      | some numeral => exact ⟨digits, by omega, rfl, le_of_readsBack? hread⟩
      | none =>
          obtain ⟨k, hk, hexponent, hnumeral⟩ := ih (digits + 1)
          exact ⟨k, by omega, hexponent, hnumeral⟩

/-! ### Significant digits -/

/-- **Digits that denote a magnitude:** as a decimal numeral they are read as it, and the point stands
in a range that is computed. -/
structure Significant.Denotes (s : Significant) (units : Nat) : Prop where
  isDigit : ∀ c ∈ s.digits, c.isDigit = true
  reads : decimalMagnitude (Nat.ofDigitChars 10 s.digits 0) (s.point - s.digits.length) = units
  point_ge : -340 ≤ s.point
  point_le : s.point ≤ 350

/-- A text is what is left without the zeros at its end, and these. -/
theorem exists_append_zeros (cs : List Char) :
    ∃ zeros, cs = (cs.reverse.dropWhile (· = '0')).reverse ++ List.replicate zeros '0' := by
  have hzeros : cs.reverse.takeWhile (· = '0')
      = List.replicate (cs.reverse.takeWhile (· = '0')).length '0' := by
    refine List.eq_replicate_iff.2 ⟨rfl, fun c hc => ?_⟩
    simpa using List.all_eq_true.1 List.all_takeWhile c hc
  refine ⟨(cs.reverse.takeWhile (· = '0')).length, ?_⟩
  rw [← List.reverse_replicate, ← hzeros, ← List.reverse_append, List.takeWhile_append_dropWhile,
    List.reverse_reverse]

/-- A power of two is below a power of ten with a third of its exponent. -/
theorem two_pow_le_ten_pow {e n : Nat} (h : e ≤ 3 * n) : 2 ^ e ≤ 10 ^ n :=
  calc 2 ^ e
      ≤ 2 ^ (3 * n) := Nat.pow_le_pow_right (by decide) h
    _ = (2 ^ 3) ^ n := Nat.pow_mul ..
    _ ≤ 10 ^ n := Nat.pow_le_pow_left (by decide) n

/-- Powers of ten that a number below a limit can reach, with the units of both written out. -/
theorem lt_of_ten_pow_mul_le {l m place units unit limit : Nat}
    (hlow : 10 ^ l * unit ≤ units * 10 ^ place) (hunits : units < limit * unit)
    (hlimit : limit ≤ 10 ^ m) : l < m + place := by
  have hpower : 10 ^ l * unit < 10 ^ (m + place) * unit :=
    calc 10 ^ l * unit
        ≤ units * 10 ^ place := hlow
      _ < limit * unit * 10 ^ place := Nat.mul_lt_mul_of_pos_right hunits (Nat.pow_pos (by decide))
      _ = limit * 10 ^ place * unit := Nat.mul_right_comm ..
      _ ≤ 10 ^ m * 10 ^ place * unit :=
          Nat.mul_le_mul_right _ (Nat.mul_le_mul_right _ hlimit)
      _ = 10 ^ (m + place) * unit := by rw [Nat.pow_add]
  exact (Nat.pow_lt_pow_iff_right (by decide)).1 (Nat.lt_of_mul_lt_mul_right hpower)

/-- A decimal place that no double reaches. -/
def highestPlace : Nat := 342

/-- The leading powers of ten of doubles. -/
theorem leadingExponent_range {units : Nat} (h : 0 < units) (hlimit : units < magnitudeLimit) :
    -324 ≤ leadingExponent units ∧ leadingExponent units < 342 := by
  obtain ⟨l, hl, hlow, _⟩ := leadingExponent_spec h
  have hlargest : 2 ^ exponentLimit ≤ 10 ^ highestPlace := two_pow_le_ten_pow (by decide)
  have hlt : l < highestPlace + lowestLeadingPlace := lt_of_ten_pow_mul_le hlow hlimit hlargest
  have hlowest : lowestLeadingPlace = 324 := rfl
  have hhighest : highestPlace = 342 := rfl
  omega

/-- The number of digits of the numeral that the search ends with, by its grid. -/
theorem length_shortestFrom {units : Nat} (h : 0 < units) :
    ∃ k : Nat, k ≤ 17 ∧ (shortestFrom units (leadingExponent units) 17 0).2 = leadingExponent units - k
      ∧ (shortestFrom units (leadingExponent units) 17 0).1.repr.length ≤ k + 2 := by
  obtain ⟨k, hk, hexponent, hnumeral⟩ := shortestFrom_bounds units (leadingExponent units) 17 0
  have hbelow : (gridPlace units (leadingExponent units - k)).below < 10 ^ (k + 1) := by
    rw [gridPlace_eq]
    exact (Nat.div_lt_iff_lt_mul (gridStep_pos _)).2
      (leadingExponent_bounds h (Int.sub_add_cancel _ _)).2
  refine ⟨k, by omega, hexponent, (Nat.length_repr_le_iff (by omega)).2 ?_⟩
  calc (shortestFrom units (leadingExponent units) 17 0).1
      ≤ 10 ^ (k + 1) := Nat.le_trans hnumeral hbelow
    _ < 10 ^ (k + 2) := Nat.pow_lt_pow_right (by decide) (by omega)

/-- A numeral without the zeros at its end denotes what it is read as. -/
theorem denotes_numeral {units numeral : Nat} {exponent : Int}
    (hreads : decimalMagnitude numeral exponent = units)
    (hmin : -340 ≤ numeral.repr.length + exponent) (hmax : numeral.repr.length + exponent ≤ 350) :
    Significant.Denotes ⟨(numeral.repr.toList.reverse.dropWhile (· = '0')).reverse,
      numeral.repr.toList.length + exponent⟩ units := by
  obtain ⟨zeros, hzeros⟩ := exists_append_zeros numeral.repr.toList
  generalize (numeral.repr.toList.reverse.dropWhile (· = '0')).reverse = digits at hzeros ⊢
  have hnumeral : Nat.ofDigitChars 10 digits 0 * 10 ^ zeros = numeral := by
    rw [Nat.mul_comm, ← Nat.ofDigitChars_replicate_zero, ← Nat.ofDigitChars_append, ← hzeros,
      Nat.toList_repr, Nat.ofDigitChars_ten_toDigits]
  have hlength := congrArg List.length hzeros
  rw [List.length_append, List.length_replicate] at hlength
  refine ⟨?_, ?_, ?_, ?_⟩
  · intro c hc
    have hmem : c ∈ Nat.toDigits 10 numeral := by
      rw [← Nat.toList_repr, hzeros]
      exact List.mem_append_left _ hc
    exact Nat.isDigit_of_mem_toDigits (by decide) (by decide) hmem
  · have hexponent : (numeral.repr.toList.length : Int) + exponent - digits.length
        = exponent + zeros := by omega
    show decimalMagnitude (Nat.ofDigitChars 10 digits 0)
      (numeral.repr.toList.length + exponent - digits.length) = units
    rw [hexponent, ← decimalMagnitude_mul_pow, hnumeral]
    exact hreads
  · rwa [String.length_toList]
  · rwa [String.length_toList]

/-- The digits by what the search ends with.  As an equation of functions, since the values are only
compared by running the search. -/
theorem shortest_eq : shortest = fun units =>
    match shortestFrom units (leadingExponent units) 17 0 with
    | (numeral, exponent) =>
        let all := numeral.repr.toList
        ⟨(all.reverse.dropWhile (· = '0')).reverse, all.length + exponent⟩ := by
  rfl

theorem shortest_of_found {units numeral : Nat} {exponent : Int}
    (h : shortestFrom units (leadingExponent units) 17 0 = (numeral, exponent)) :
    shortest units = ⟨(numeral.repr.toList.reverse.dropWhile (· = '0')).reverse,
      numeral.repr.toList.length + exponent⟩ :=
  (congrFun shortest_eq units).trans <| congrArg (fun found : Nat × Int =>
    match found with
    | (numeral, exponent) =>
        let all := numeral.repr.toList
        (⟨(all.reverse.dropWhile (· = '0')).reverse, all.length + exponent⟩ : Significant)) h

/-- **The shortest digits of a magnitude denote it.** -/
theorem denotes_shortest {units : Nat} (h : 0 < units) (hunits : IsMagnitude units) :
    (shortest units).Denotes units := by
  have hreads := decimalMagnitude_shortestFrom h hunits.2
  obtain ⟨hmin, hmax⟩ := leadingExponent_range h hunits.1
  obtain ⟨k, hk, hexponent, hlength⟩ := length_shortestFrom h
  cases hfound : shortestFrom units (leadingExponent units) 17 0 with
  | mk numeral exponent =>
      rw [hfound] at hreads hexponent hlength
      have hplace : exponent = leadingExponent units - k := hexponent
      have hmost : numeral.repr.length ≤ k + 2 := hlength
      have hpos : 0 < numeral.repr.length := Nat.length_repr_pos
      rw [shortest_of_found hfound]
      exact denotes_numeral hreads (by omega) (by omega)

end RobotShorthand
