/-
**The limits of actuators.**

An actuator never has a value that its kind does not allow.  The value of a motor or a light is cut to
its bounds, and not-a-number, which is neither above nor below anything, becomes the upper one; a servo
loses whole turns, refuses the infinities, and is the only actuator that can be set to not-a-number.
Bounds are compared exactly: both sides are whole numbers of the smallest positive double.

A bank registers an address once and keeps it for good.  What is said of single values is so a property
of banks, which registering, setting and stopping keep; and since every address stands in a bank once,
the actuators of a kind come in strictly increasing order of their numbers.

Main definitions:

* `Binary64.IsWithin`, `Binary64.IsInside` — doubles between two whole numbers;
* `ActuatorKind.Allows` — **the values that an actuator of a kind can have;**
* `Bank.addresses`, `Bank.IsSound` — the addresses of a bank, and a bank that has each of them once, with
  a value that its kind allows.

Main results:

* `exists_units_clamp` — what is cut to bounds is between them, whatever it was;
* `ActuatorKind.allows_of_accept?` — **the value that an actuator takes on is one that its kind allows**;
* `IsSound.register`, `IsSound.set`, `IsSound.stop` — operations keep banks sound;
* `IsSound.mem_ofKind`, `IsSound.pairwise_ofKind` — **a sound bank lists the actuators of a kind, each
  of them once, by number.**
-/

import Mathlib.Data.List.Nodup
import RobotShorthand.Robot.Basic

set_option relaxedAutoImplicit false
set_option autoImplicit false

namespace RobotShorthand

/-! ### Places on the line -/

namespace Number

variable {n m : Int} {x : Binary64}

theorem int_le_float_iff (h : x.extended? = some (.units m)) :
    (int n).le (float x) = true ↔ n * unitsPerOne ≤ m := by
  have hle : (int n).le (float x) = !decide (m < n * unitsPerOne) := by
    simp only [le, extended?, h, Extended.le, Extended.lt]
  rw [hle, Bool.not_eq_true', decide_eq_false_iff_not, Int.not_lt]

theorem float_le_int_iff (h : x.extended? = some (.units m)) :
    (float x).le (int n) = true ↔ m ≤ n * unitsPerOne := by
  have hle : (float x).le (int n) = !decide (n * unitsPerOne < m) := by
    simp only [le, extended?, h, Extended.le, Extended.lt]
  rw [hle, Bool.not_eq_true', decide_eq_false_iff_not, Int.not_lt]

theorem int_lt_float_iff (h : x.extended? = some (.units m)) :
    (int n).lt (float x) = true ↔ n * unitsPerOne < m := by
  have hlt : (int n).lt (float x) = decide (n * unitsPerOne < m) := by
    simp only [lt, extended?, h, Extended.lt]
  rw [hlt, decide_eq_true_eq]

theorem float_lt_int_iff (h : x.extended? = some (.units m)) :
    (float x).lt (int n) = true ↔ m < n * unitsPerOne := by
  have hlt : (float x).lt (int n) = decide (m < n * unitsPerOne) := by
    simp only [lt, extended?, h, Extended.lt]
  rw [hlt, decide_eq_true_eq]

end Number

namespace Binary64

-- Powers are those of the natural numbers themselves, as in the definition of doubles.
attribute [local instance (high)] instPowNat

/-- **What is cut to bounds is between them,** whatever it was: not-a-number is not below the upper bound
and becomes it. -/
theorem exists_units_clamp {low high : Binary64} {l h : Int} (hlow : low.extended? = some (.units l))
    (hhigh : high.extended? = some (.units h)) (hle : l ≤ h) (x : Binary64) :
    ∃ n, (clamp low high x).extended? = some (.units n) ∧ l ≤ n ∧ n ≤ h := by
  -- first the upper bound: the capped value stands below it or at it, perhaps at the very bottom
  have hcapped : (if x.lt high then x else high).extended? = some .least
      ∨ ∃ n, (if x.lt high then x else high).extended? = some (.units n) ∧ n ≤ h := by
    split
    · rename_i hlt
      unfold lt at hlt
      cases hx : x.extended? with
      | none =>
          rw [hx] at hlt
          exact absurd hlt (by simp)
      | some place =>
          rw [hx, hhigh] at hlt
          cases place with
          | least => exact .inl rfl
          | units n =>
              simp only [Extended.lt, decide_eq_true_eq] at hlt
              exact .inr ⟨n, rfl, by omega⟩
          | greatest => exact absurd hlt (by simp [Extended.lt])
    · exact .inr ⟨h, hhigh, Int.le_refl h⟩
  -- then the lower one
  unfold clamp
  simp only
  generalize (if x.lt high then x else high) = capped at hcapped
  split
  · rename_i hlt
    unfold lt at hlt
    rcases hcapped with hleast | ⟨n, hn, hnh⟩
    · rw [hlow, hleast] at hlt
      exact absurd hlt (by simp [Extended.lt])
    · rw [hlow, hn] at hlt
      simp only [Extended.lt, decide_eq_true_eq] at hlt
      exact ⟨n, hn, by omega, hnh⟩
  · exact ⟨l, hlow, Int.le_refl l, hle⟩

/-- A remainder is smaller than the divisor, on either side of zero. -/
theorem exists_units_fmod {x divisor : Binary64} {d : Int} (hd : 0 < d)
    (hdivisor : divisor.extended? = some (.units d)) :
    x.fmod divisor = nan ∨ ∃ n, (x.fmod divisor).extended? = some (.units n) ∧ -d < n ∧ n < d := by
  cases divisor with
  | nan => exact absurd hdivisor (by simp [extended?])
  | infinite negative => cases negative <;> exact absurd hdivisor (by simp [extended?])
  | finite t v hv =>
      have hsigned : signedUnits t v = d := Extended.units.inj (Option.some.inj hdivisor)
      have hvalue : d = v := by
        unfold signedUnits at hsigned
        split at hsigned <;> omega
      have hpos : 0 < v := by omega
      cases x with
      | nan => exact .inl rfl
      | infinite negative => exact .inl rfl
      | finite s u hu =>
          have hlt : u % v < v := Nat.mod_lt u hpos
          have hfmod : (finite s u hu).fmod (finite t v hv) = finite s (u % v) (hu.mod hv) := by
            rw [fmod, if_neg (by omega)]
          refine .inr ⟨signedUnits s (u % v), by rw [hfmod]; rfl, ?_, ?_⟩
          all_goals
            unfold signedUnits
            split <;> omega

/-- Between two whole numbers, or at one of them. -/
def IsWithin (low high : Int) (x : Binary64) : Prop :=
  (Number.int low).le (.float x) = true ∧ (Number.float x).le (.int high) = true

/-- Strictly between two whole numbers. -/
def IsInside (low high : Int) (x : Binary64) : Prop :=
  (Number.int low).lt (.float x) = true ∧ (Number.float x).lt (.int high) = true

section Bounds

variable {low high n : Int} {x : Binary64}

theorem isWithin_of_units (hx : x.extended? = some (.units n)) (hlow : low * unitsPerOne ≤ n)
    (hhigh : n ≤ high * unitsPerOne) : x.IsWithin low high :=
  ⟨(Number.int_le_float_iff hx).2 hlow, (Number.float_le_int_iff hx).2 hhigh⟩

theorem isInside_of_units (hx : x.extended? = some (.units n)) (hlow : low * unitsPerOne < n)
    (hhigh : n < high * unitsPerOne) : x.IsInside low high :=
  ⟨(Number.int_lt_float_iff hx).2 hlow, (Number.float_lt_int_iff hx).2 hhigh⟩

/-- What is between two numbers is a number. -/
theorem IsWithin.ne_nan (h : x.IsWithin low high) : x ≠ nan := by
  rintro rfl
  exact Bool.false_ne_true h.1

theorem IsWithin.ne_infinite (h : x.IsWithin low high) (negative : Bool) : x ≠ infinite negative := by
  rintro rfl
  cases negative with
  | false => exact Bool.false_ne_true h.2
  | true => exact Bool.false_ne_true h.1

theorem IsInside.ne_infinite (h : x.IsInside low high) (negative : Bool) : x ≠ infinite negative := by
  rintro rfl
  cases negative with
  | false => exact Bool.false_ne_true h.2
  | true => exact Bool.false_ne_true h.1

end Bounds

end Binary64

/-! ### Values of actuators -/

namespace ActuatorKind

/-- **The values that an actuator of a kind can have.** -/
def Allows : ActuatorKind → Binary64 → Prop
  | motor, x => x.IsWithin (-100) 100
  | led, x => x.IsWithin 0 100
  | servo, x => x = .nan ∨ x.IsInside (-360) 360

theorem Allows.ne_infinite {k : ActuatorKind} {x : Binary64} (h : k.Allows x) (negative : Bool) :
    x ≠ .infinite negative := by
  cases k with
  | motor => exact Binary64.IsWithin.ne_infinite h negative
  | led => exact Binary64.IsWithin.ne_infinite h negative
  | servo =>
      rcases h with rfl | hinside
      · simp
      · exact hinside.ne_infinite negative

/-- Only a servo can be set to not-a-number. -/
theorem Allows.ne_nan {k : ActuatorKind} {x : Binary64} (h : k.Allows x) (hk : k ≠ servo) :
    x ≠ .nan := by
  cases k with
  | motor => exact Binary64.IsWithin.ne_nan h
  | led => exact Binary64.IsWithin.ne_nan h
  | servo => exact absurd rfl hk

/-- A whole number between the bounds is allowed. -/
theorem allows_motor_of_units {x : Binary64} {n : Int}
    (hx : x.extended? = some (.units (n * unitsPerOne))) (hlow : -100 ≤ n) (hhigh : n ≤ 100) :
    motor.Allows x := by
  have hpos : (0 : Int) ≤ unitsPerOne := Int.natCast_nonneg _
  exact Binary64.isWithin_of_units hx (Int.mul_le_mul_of_nonneg_right hlow hpos)
    (Int.mul_le_mul_of_nonneg_right hhigh hpos)

/-- Every actuator can be at zero. -/
theorem allows_zero (k : ActuatorKind) : k.Allows (.zero false) := by
  have hzero : (Binary64.zero false).extended? = some (.units 0) := rfl
  have hpos : (0 : Int) < unitsPerOne := Int.natCast_pos.2 unitsPerOne_pos
  cases k with
  | motor => exact Binary64.isWithin_of_units hzero (by omega) (by omega)
  | led => exact Binary64.isWithin_of_units hzero (by omega) (by omega)
  | servo => exact .inr (Binary64.isInside_of_units hzero (by omega) (by omega))

/-- **The value that an actuator takes on is one that its kind allows.** -/
theorem allows_of_accept? {k : ActuatorKind} {given x : Binary64} (h : k.accept? given = some x) :
    k.Allows x := by
  have hpos : (0 : Int) < unitsPerOne := Int.natCast_pos.2 unitsPerOne_pos
  have hundred : (100 : Binary64).extended? = some (.units (100 * unitsPerOne)) :=
    Binary64.extended?_ofNat (by decide)
  cases k with
  | motor =>
      obtain rfl := Option.some.inj h
      have hminus := Binary64.extended?_neg hundred
      obtain ⟨n, hn, hlow, hhigh⟩ :=
        Binary64.exists_units_clamp hminus hundred (by omega) given
      exact Binary64.isWithin_of_units hn (by omega) (by omega)
  | led =>
      obtain rfl := Option.some.inj h
      have hzero : (0 : Binary64).extended? = some (.units (0 * unitsPerOne)) :=
        Binary64.extended?_ofNat (by decide)
      obtain ⟨n, hn, hlow, hhigh⟩ :=
        Binary64.exists_units_clamp hzero hundred (by omega) given
      exact Binary64.isWithin_of_units hn (by omega) (by omega)
  | servo =>
      have hturn : (360 : Binary64).extended? = some (.units (360 * unitsPerOne)) :=
        Binary64.extended?_ofNat (by decide)
      have hx : x = given.fmod 360 := by
        cases given with
        | infinite negative => exact absurd h (by simp [accept?])
        | nan => exact (Option.some.inj h).symm
        | finite negative units hunits => exact (Option.some.inj h).symm
      rw [hx]
      rcases Binary64.exists_units_fmod (x := given) (by omega) hturn with hnan | ⟨n, hn, hlow, hhigh⟩
      · exact .inl hnan
      · exact .inr (Binary64.isInside_of_units hn (by omega) (by omega))

/-- The powers of a move are within the limits of a motor. -/
theorem allows_movePowers (direction : Direction) :
    motor.Allows (Robot.movePowers direction).1 ∧ motor.Allows (Robot.movePowers direction).2 := by
  have hfifty : (50 : Binary64).extended? = some (.units (50 * unitsPerOne)) :=
    Binary64.extended?_ofNat (by decide)
  have hthirty : (30 : Binary64).extended? = some (.units (30 * unitsPerOne)) :=
    Binary64.extended?_ofNat (by decide)
  have hminusFifty : (-50 : Binary64).extended? = some (.units (-50 * unitsPerOne)) := by
    rw [Binary64.extended?_neg hfifty, Int.neg_mul]
  have hminusThirty : (-30 : Binary64).extended? = some (.units (-30 * unitsPerOne)) := by
    rw [Binary64.extended?_neg hthirty, Int.neg_mul]
  cases direction with
  | forward =>
      exact ⟨allows_motor_of_units hfifty (by decide) (by decide),
        allows_motor_of_units hfifty (by decide) (by decide)⟩
  | backward =>
      exact ⟨allows_motor_of_units hminusFifty (by decide) (by decide),
        allows_motor_of_units hminusFifty (by decide) (by decide)⟩
  | left =>
      exact ⟨allows_motor_of_units hminusThirty (by decide) (by decide),
        allows_motor_of_units hthirty (by decide) (by decide)⟩
  | right =>
      exact ⟨allows_motor_of_units hthirty (by decide) (by decide),
        allows_motor_of_units hminusThirty (by decide) (by decide)⟩

end ActuatorKind

/-! ### Banks -/

namespace Bank

/-- The addresses of a bank, in the order in which they were first addressed. -/
def addresses (b : Bank) : List Address := b.entries.map Prod.fst

theorem mem_addresses {b : Bank} {a : Address} : a ∈ b.addresses ↔ ∃ x, b.find? a = some x := by
  rw [← Option.isSome_iff_exists, find?, List.lookup_isSome_iff, addresses, List.mem_map]
  simp only [beq_iff_eq, eq_comm (a := a)]

theorem addresses_register (b : Bank) (a : Address) :
    (b.register a).addresses = if a ∈ b.addresses then b.addresses else b.addresses ++ [a] := by
  unfold register
  split
  · rename_i x hx
    rw [if_pos (mem_addresses.2 ⟨x, hx⟩)]
  · rename_i hnone
    have hnew : a ∉ b.addresses := by
      rw [mem_addresses, hnone]
      simp
    rw [if_neg hnew]
    simp [addresses]

theorem map_fst_store (a : Address) (x : Actuator) (es : List (Address × Actuator)) :
    (store a x es).map Prod.fst
      = if a ∈ es.map Prod.fst then es.map Prod.fst else es.map Prod.fst ++ [a] := by
  induction es with
  | nil => simp [store]
  | cons e es ih =>
      obtain ⟨k, y⟩ := e
      by_cases hk : k = a
      · simp [store, hk]
      · have hk' : ¬ a = k := fun h => hk h.symm
        by_cases hm : a ∈ es.map Prod.fst <;> simp [store, hk, hk', ih, hm]

theorem addresses_set (b : Bank) (a : Address) (x : Binary64) :
    (b.set a x).addresses = if a ∈ b.addresses then b.addresses else b.addresses ++ [a] :=
  map_fst_store a _ b.entries

@[simp] theorem addresses_stop (b : Bank) : b.stop.addresses = b.addresses := by
  simp [addresses, stop]

/-- **A sound bank** has every address once, and at each of them a value that its kind allows. -/
structure IsSound (b : Bank) : Prop where
  nodup : b.addresses.Nodup
  allows : ∀ a x, b.get? a = some x → a.kind.Allows x

/-- An address that is added if it is new stands there once. -/
theorem nodup_insertNew {as : List Address} (h : as.Nodup) (a : Address) :
    (if a ∈ as then as else as ++ [a]).Nodup := by
  split
  · exact h
  · rename_i hnew
    refine List.nodup_append.2 ⟨h, by simp, ?_⟩
    rintro k hk k' hk' rfl
    exact hnew (List.mem_singleton.1 hk' ▸ hk)

namespace IsSound

variable {b : Bank}

theorem register (h : b.IsSound) (a : Address) : (b.register a).IsSound where
  nodup := by
    rw [addresses_register]
    exact nodup_insertNew h.nodup a
  allows := by
    intro k x hx
    by_cases hk : k = a
    · subst hk
      rw [get?_register] at hx
      obtain rfl := Option.some.inj hx
      cases hold : b.get? k with
      | none => exact k.kind.allows_zero
      | some y => exact h.allows k y hold
    · rw [get?_register_of_ne b hk] at hx
      exact h.allows k x hx

theorem set (h : b.IsSound) {a : Address} {x : Binary64} (hx : a.kind.Allows x) :
    (b.set a x).IsSound where
  nodup := by
    rw [addresses_set]
    exact nodup_insertNew h.nodup a
  allows := by
    intro k y hy
    by_cases hk : k = a
    · subst hk
      rw [get?_set_self] at hy
      obtain rfl := Option.some.inj hy
      exact hx
    · rw [get?_set_of_ne b x hk] at hy
      exact h.allows k y hy

theorem stop (h : b.IsSound) : b.stop.IsSound where
  nodup := by
    rw [addresses_stop]
    exact h.nodup
  allows := by
    intro a x hx
    rw [get?_stop] at hx
    obtain ⟨y, _, rfl⟩ := Option.map_eq_some_iff.1 hx
    exact a.kind.allows_zero

/-- The bank that every robot begins with is sound. -/
theorem initial : Bank.initial.IsSound := by
  have hempty : Bank.empty.IsSound := ⟨List.nodup_nil, by simp [get?, find?, empty]⟩
  exact List.foldlRecOn Bank.standard Bank.register hempty fun _ hb a _ => hb.register a

/-! ### Actuators of a kind -/

/-- What is registered at an address stands there as an entry, since no address stands there twice. -/
theorem find?_eq_some_iff (h : b.IsSound) {a : Address} {x : Actuator} :
    b.find? a = some x ↔ (a, x) ∈ b.entries := by
  constructor
  · intro hx
    obtain ⟨before, after, hentries, _⟩ := List.lookup_eq_some_iff.1 hx
    rw [hentries]
    exact List.mem_append_right _ List.mem_cons_self
  · intro hmem
    obtain ⟨y, hy⟩ := mem_addresses.1 (List.mem_map_of_mem hmem : a ∈ b.addresses)
    obtain ⟨before, after, hentries, _⟩ := List.lookup_eq_some_iff.1 hy
    have hmem' : (a, y) ∈ b.entries := by
      rw [hentries]
      exact List.mem_append_right _ List.mem_cons_self
    have hsame : (a, x) = (a, y) := List.inj_on_of_nodup_map h.nodup hmem hmem' rfl
    rw [hy, (Prod.mk.inj hsame).2]

/-- **Every registered actuator of a kind is listed,** and nothing else is. -/
theorem mem_ofKind (h : b.IsSound) {kind : ActuatorKind} {i : Int} {x : Actuator} :
    b.find? ⟨kind, i⟩ = some x ↔ x ∈ b.ofKind kind ∧ x.number = i := by
  rw [h.find?_eq_some_iff, ofKind, List.mem_mergeSort, List.mem_map]
  constructor
  · intro hentry
    have hnumber : x.number = i := congrArg Address.number (b.keyed _ hentry)
    exact ⟨⟨(⟨kind, i⟩, x), List.mem_filter.2 ⟨hentry, decide_eq_true rfl⟩, rfl⟩, hnumber⟩
  · rintro ⟨⟨⟨a, x'⟩, hmem, rfl⟩, rfl⟩
    obtain ⟨hentry, hkind⟩ := List.mem_filter.1 hmem
    have haddress : x'.address = a := b.keyed _ hentry
    obtain rfl := haddress
    obtain rfl := of_decide_eq_true hkind
    exact hentry

/-- The actuators of a kind have different numbers. -/
theorem nodup_ofKind (h : b.IsSound) (kind : ActuatorKind) :
    ((b.ofKind kind).map Actuator.number).Nodup := by
  refine ((List.mergeSort_perm _ _).map Actuator.number).nodup_iff.2 ?_
  have haddresses : ((b.entries.filter fun e => e.1.kind = kind).map Prod.fst).Nodup :=
    h.nodup.sublist (List.filter_sublist.map Prod.fst)
  have hnumbers := haddresses.map_on (f := Address.number) ?_
  · -- the number of an actuator is that of its address
    have hsame : ((b.entries.filter fun e => e.1.kind = kind).map Prod.snd).map Actuator.number
        = ((b.entries.filter fun e => e.1.kind = kind).map Prod.fst).map Address.number := by
      rw [List.map_map, List.map_map]
      refine List.map_congr_left ?_
      intro e he
      exact congrArg Address.number (b.keyed e (List.mem_filter.1 he).1)
    rwa [hsame]
  · -- of two addresses of one kind the number makes the difference
    intro a ha a' ha' hnumber
    have hkind (k : Address) (hk : k ∈ (b.entries.filter fun e => e.1.kind = kind).map Prod.fst) :
        k.kind = kind := by
      obtain ⟨e, he, rfl⟩ := List.mem_map.1 hk
      exact of_decide_eq_true (List.mem_filter.1 he).2
    calc a = ⟨a.kind, a.number⟩ := rfl
      _ = ⟨a'.kind, a'.number⟩ := by rw [hkind a ha, hkind a' ha', hnumber]

/-- **Actuators of a kind are listed by number,** each of them once. -/
theorem pairwise_ofKind (h : b.IsSound) (kind : ActuatorKind) :
    (b.ofKind kind).Pairwise fun x y => x.number < y.number := by
  have hsorted : (b.ofKind kind).Pairwise fun x y => decide (x.number ≤ y.number) = true := by
    refine List.pairwise_mergeSort ?_ ?_ _
    · intro x y z hxy hyz
      simp only [decide_eq_true_eq] at hxy hyz ⊢
      omega
    · intro x y
      simp only [Bool.or_eq_true, decide_eq_true_eq]
      omega
  have hdistinct : (b.ofKind kind).Pairwise fun x y => x.number ≠ y.number :=
    List.pairwise_map.1 (h.nodup_ofKind kind)
  refine hsorted.imp₂ ?_ hdistinct
  intro x y hle hne
  have := of_decide_eq_true hle
  omega

end IsSound

end Bank

end RobotShorthand
