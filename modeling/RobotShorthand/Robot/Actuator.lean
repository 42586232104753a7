/-
**Actuators.**

Motors, servos and lights, each with a number and a value.  A motor takes values from −100 to 100 and a
light from 0 to 100, and other values are cut to these bounds; a servo takes every finite angle, less
whole turns.  An actuator knows its own kind and number, and takes values as its kind does; a new one is
set to zero in the same way.

A robot keeps its actuators under their addresses, in the order in which they were first addressed.  An
actuator that is addressed for the first time is made for its address, and stands there for good.

Main definitions:

* `ActuatorKind`, `ActuatorKind.accept?` — the kinds, and the value that an actuator takes on;
* `Actuator`, `Actuator.new` — actuators, and a new one of a kind;
* `Bank` — actuators under their addresses;
* `Bank.register`, `Bank.set`, `Bank.stop` — addressing, setting, and setting all to zero;
* `Bank.ofKind` — the actuators of a kind by number.

Main results:

* `Actuator.new_eq` — **a new actuator is of the kind and number that it is made for, and at zero**;
* `Bank.get?_register`, `Bank.get?_set_self`, `Bank.get?_set_of_ne` — **an operation changes the
  addressed actuator only**.
-/

import RobotShorthand.Number.Basic

set_option relaxedAutoImplicit false
set_option autoImplicit false

namespace RobotShorthand

/-! ### Kinds -/

/-- The kinds of actuators. -/
inductive ActuatorKind
  | motor
  | servo
  | led
  deriving DecidableEq, Inhabited

namespace ActuatorKind

/-- The name of a kind. -/
def name : ActuatorKind → String
  | motor => "motor"
  | servo => "servo"
  | led => "led"

/-- All kinds. -/
def all : List ActuatorKind := [motor, servo, led]

/-- The kind of a name. -/
def ofName? (name : String) : Option ActuatorKind := all.find? (·.name = name)

/-- **The value that an actuator takes on when it is set.**  A servo refuses the infinities. -/
def accept? : ActuatorKind → Binary64 → Option Binary64
  | motor, x => some (Binary64.clamp (-100) 100 x)
  | led, x => some (Binary64.clamp 0 100 x)
  | servo, .infinite _ => none
  | servo, x => some (x.fmod 360)

section

-- Powers are those of the natural numbers themselves, as in the definition of doubles.
attribute [local instance (high)] instPowNat

/-- Every kind takes zero as it is. -/
theorem accept?_zero (k : ActuatorKind) : k.accept? (.zero false) = some (.zero false) := by
  have hpos : (0 : Int) < unitsPerOne := Int.natCast_pos.2 unitsPerOne_pos
  have hzero : (Binary64.zero false).extended? = some (.units 0) := rfl
  have hundred : (100 : Binary64).extended? = some (.units (100 * unitsPerOne)) :=
    Binary64.extended?_ofNat (by decide)
  have hbelow : (Binary64.zero false).lt 100 = true := by
    rw [Binary64.lt_eq_decide hzero hundred, decide_eq_true_eq]
    omega
  cases k with
  | motor =>
      have habove : (-100 : Binary64).lt (.zero false) = true := by
        rw [Binary64.lt_eq_decide (Binary64.extended?_neg hundred) hzero, decide_eq_true_eq]
        omega
      exact congrArg some (Binary64.clamp_of_lt habove hbelow)
  | led =>
      have hsame : (0 : Binary64) = .zero false := Binary64.ofNat_zero
      have hnot : (0 : Binary64).lt (.zero false) = false := by
        rw [hsame, Binary64.lt_eq_decide hzero hzero, decide_eq_false_iff_not]
        omega
      exact congrArg some ((Binary64.clamp_of_not_lt hnot hbelow).trans hsame)
  | servo => exact congrArg some (Binary64.zero_fmod false (by decide) (by decide))

end

end ActuatorKind

/-- The address of an actuator. -/
structure Address where
  kind : ActuatorKind
  number : Int
  deriving DecidableEq

/-! ### Actuators -/

/-- An actuator, with its kind and its number. -/
structure Actuator where
  kind : ActuatorKind
  number : Int
  value : Binary64
  deriving DecidableEq

namespace Actuator

/-- The address that an actuator is made for. -/
def address (x : Actuator) : Address := ⟨x.kind, x.number⟩

/-- The value that an actuator takes on when it is set. -/
def accept? (x : Actuator) (value : Binary64) : Option Binary64 := x.kind.accept? value

/-- The actuator set to zero, as its kind takes it. -/
def cleared (x : Actuator) : Actuator :=
  match x.accept? (.zero false) with
  | some value => { x with value := value }
  | none => x

/-- **A new actuator,** set to zero as its kind takes it. -/
def new (kind : ActuatorKind) (number : Int) : Actuator := cleared ⟨kind, number, .zero false⟩

theorem cleared_eq (x : Actuator) : x.cleared = { x with value := .zero false } := by
  rw [cleared, accept?, ActuatorKind.accept?_zero]

@[simp] theorem address_cleared (x : Actuator) : x.cleared.address = x.address := by
  rw [cleared_eq]
  rfl

/-- **A new actuator is of the kind and number that it is made for, and at zero.** -/
theorem new_eq (kind : ActuatorKind) (number : Int) :
    new kind number = ⟨kind, number, .zero false⟩ := cleared_eq _

@[simp] theorem address_new (a : Address) : (new a.kind a.number).address = a := by
  rw [new_eq]
  rfl

end Actuator

/-! ### Banks -/

/-- Actuators under their addresses, in the order in which they were first addressed.  Each of them is
made for the address that it stands under. -/
structure Bank where
  entries : List (Address × Actuator)
  keyed : ∀ e ∈ entries, e.2.address = e.1
  deriving DecidableEq

namespace Bank

/-- A bank without actuators. -/
def empty : Bank := ⟨[], by simp⟩

/-- The actuator under an address, if one is registered. -/
def find? (b : Bank) (a : Address) : Option Actuator := b.entries.lookup a

/-- The value of an actuator, if it is registered. -/
def get? (b : Bank) (a : Address) : Option Binary64 := (b.find? a).map Actuator.value

/-- **The actuator that is addressed:** the registered one, or else a new one. -/
def actuator (b : Bank) (a : Address) : Actuator := (b.find? a).getD (.new a.kind a.number)

/-- What stands under an address is made for it. -/
theorem address_of_find? {b : Bank} {a : Address} {x : Actuator} (h : b.find? a = some x) :
    x.address = a := by
  obtain ⟨before, after, hentries, _⟩ := List.lookup_eq_some_iff.1 h
  exact b.keyed (a, x) (hentries ▸ List.mem_append_right _ List.mem_cons_self)

/-- What is addressed is made for its address. -/
@[simp] theorem address_actuator (b : Bank) (a : Address) : (b.actuator a).address = a := by
  unfold actuator
  cases h : b.find? a with
  | none => exact Actuator.address_new a
  | some x => exact address_of_find? h

/-- What is addressed is of the kind that was asked for. -/
@[simp] theorem kind_actuator (b : Bank) (a : Address) : (b.actuator a).kind = a.kind :=
  congrArg Address.kind (b.address_actuator a)

/-- Registers an actuator, a new one unless there is one. -/
def register (b : Bank) (a : Address) : Bank :=
  match b.find? a with
  | some _ => b
  | none =>
      { entries := b.entries ++ [(a, .new a.kind a.number)]
        keyed := by
          intro e he
          rcases List.mem_append.1 he with hold | hnew
          · exact b.keyed e hold
          · obtain rfl := List.mem_singleton.1 hnew
            exact Actuator.address_new a }

/-- Stores an actuator among entries: in the place of its address, or else at the end. -/
def store (a : Address) (x : Actuator) : List (Address × Actuator) → List (Address × Actuator)
  | [] => [(a, x)]
  | (a', y) :: rest => if a' = a then (a, x) :: rest else (a', y) :: store a x rest

theorem eq_or_mem_of_mem_store {a : Address} {x : Actuator} {es : List (Address × Actuator)}
    {e : Address × Actuator} (h : e ∈ store a x es) : e = (a, x) ∨ e ∈ es := by
  induction es with
  | nil => exact .inl (List.mem_singleton.1 h)
  | cons e' es ih =>
      rw [store] at h
      split at h
      · rcases List.mem_cons.1 h with rfl | hrest
        · exact .inl rfl
        · exact .inr (List.mem_cons_of_mem _ hrest)
      · rcases List.mem_cons.1 h with rfl | hrest
        · exact .inr List.mem_cons_self
        · exact (ih hrest).imp_right (List.mem_cons_of_mem _)

/-- Gives the actuator under an address a value. -/
def set (b : Bank) (a : Address) (x : Binary64) : Bank :=
  { entries := store a { b.actuator a with value := x } b.entries
    keyed := by
      intro e he
      rcases eq_or_mem_of_mem_store he with rfl | hold
      · exact b.address_actuator a
      · exact b.keyed e hold }

/-- Sets every actuator to zero. -/
def stop (b : Bank) : Bank :=
  { entries := b.entries.map fun e => (e.1, e.2.cleared)
    keyed := by
      intro e he
      obtain ⟨e', he', rfl⟩ := List.mem_map.1 he
      exact (Actuator.address_cleared e'.2).trans (b.keyed e' he') }

/-- The actuators of a kind, by number. -/
def ofKind (b : Bank) (kind : ActuatorKind) : List Actuator :=
  ((b.entries.filter fun e => e.1.kind = kind).map Prod.snd).mergeSort fun x y => x.number ≤ y.number

/-- The addresses of the actuators that every robot has: two motors, two servos and three lights. -/
def standard : List Address :=
  [⟨.motor, 0⟩, ⟨.motor, 1⟩, ⟨.servo, 0⟩, ⟨.servo, 1⟩, ⟨.led, 0⟩, ⟨.led, 1⟩, ⟨.led, 2⟩]

/-- The bank of a robot at the beginning: the standard actuators are registered, and no others. -/
def initial : Bank := standard.foldl register empty

/-! ### Look-up after an operation -/

theorem lookup_store (a k : Address) (x : Actuator) (es : List (Address × Actuator)) :
    (store a x es).lookup k = if k = a then some x else es.lookup k := by
  induction es with
  | nil =>
      by_cases h : k = a
      · subst h; simp [store]
      · have : (k == a) = false := by simpa using h
        simp [store, List.lookup_cons, this, h]
  | cons e es ih =>
      obtain ⟨a', y⟩ := e
      by_cases ha : a' = a
      · subst ha
        by_cases h : k = a'
        · subst h; simp [store]
        · have : (k == a') = false := by simpa using h
          simp [store, List.lookup_cons, this, h]
      · by_cases h : k = a'
        · subst h; simp [store, ha]
        · have : (k == a') = false := by simpa using h
          simp [store, ha, List.lookup_cons, this, ih]

/-- A value is found at its address once set. -/
@[simp] theorem get?_set_self (b : Bank) (a : Address) (x : Binary64) :
    (b.set a x).get? a = some x := by
  simp [get?, find?, set, lookup_store]

/-- **Setting leaves every other actuator alone.** -/
theorem get?_set_of_ne (b : Bank) {a k : Address} (x : Binary64) (h : k ≠ a) :
    (b.set a x).get? k = b.get? k := by
  simp [get?, find?, set, lookup_store, h]

theorem entries_register_of_some {b : Bank} {a : Address} {x : Actuator} (h : b.find? a = some x) :
    (b.register a).entries = b.entries := by
  unfold register
  split
  · rfl
  · rename_i hnone
    exact absurd (h.symm.trans hnone) (by simp)

theorem entries_register_of_none {b : Bank} {a : Address} (h : b.find? a = none) :
    (b.register a).entries = b.entries ++ [(a, .new a.kind a.number)] := by
  unfold register
  split
  · rename_i hsome
    exact absurd (h.symm.trans hsome) (by simp)
  · rfl

/-- **What is addressed stands under its address once it is registered,** as it was or as new. -/
theorem find?_register (b : Bank) (a : Address) : (b.register a).find? a = some (b.actuator a) := by
  unfold register actuator
  cases h : b.find? a with
  | some x => exact h
  | none =>
      rw [find?] at h
      simp [find?, List.lookup_append, h]

/-- Registering leaves every other actuator alone. -/
theorem find?_register_of_ne (b : Bank) {a k : Address} (h : k ≠ a) :
    (b.register a).find? k = b.find? k := by
  have hk : (k == a) = false := by simpa using h
  unfold register
  split
  · rfl
  · simp [find?, List.lookup_append, List.lookup_cons, hk]

theorem get?_register_of_ne (b : Bank) {a k : Address} (h : k ≠ a) :
    (b.register a).get? k = b.get? k := by
  rw [get?, find?_register_of_ne b h, get?]

/-- The value of what is addressed is zero if it is new. -/
theorem value_actuator (b : Bank) (a : Address) :
    (b.actuator a).value = (b.get? a).getD (.zero false) := by
  unfold actuator get?
  cases b.find? a with
  | none => exact congrArg Actuator.value (Actuator.new_eq a.kind a.number)
  | some x => rfl

/-- A registered actuator keeps its value, and a new one has the value zero. -/
theorem get?_register (b : Bank) (a : Address) :
    (b.register a).get? a = some ((b.get? a).getD (.zero false)) := by
  rw [get?, find?_register, Option.map_some, value_actuator]

/-- Stopping sets every actuator to zero, and registers none. -/
theorem get?_stop (b : Bank) (a : Address) : b.stop.get? a = (b.get? a).map fun _ => .zero false := by
  obtain ⟨entries, keyed⟩ := b
  simp only [get?, find?, stop]
  clear keyed
  induction entries with
  | nil => rfl
  | cons e entries ih =>
      obtain ⟨k, x⟩ := e
      simp only [List.map_cons, List.lookup_cons]
      cases a == k with
      | true => simp only [Option.map_some, Actuator.cleared_eq]
      | false => exact ih

/-! ### Actuators that stay -/

/-- Registering an actuator keeps all others registered. -/
theorem exists_get?_register (b : Bank) (a : Address) {k : Address} {x : Binary64}
    (h : b.get? k = some x) : ∃ y, (b.register a).get? k = some y := by
  by_cases hk : k = a
  · subst hk
    exact ⟨_, b.get?_register k⟩
  · exact ⟨x, (b.get?_register_of_ne hk).trans h⟩

/-- What is registered is not touched by registering. -/
theorem get?_register_of_some {b : Bank} {a k : Address} {x : Binary64} (h : b.get? a = some x) :
    (b.register k).get? a = some x := by
  by_cases ha : a = k
  · subst ha
    rw [get?_register, h, Option.getD_some]
  · rw [get?_register_of_ne b ha, h]

/-- Setting an actuator keeps all others registered. -/
theorem exists_get?_set (b : Bank) (a : Address) (x : Binary64) {k : Address} {y : Binary64}
    (h : b.get? k = some y) : ∃ z, (b.set a x).get? k = some z := by
  by_cases hk : k = a
  · subst hk
    exact ⟨x, b.get?_set_self k x⟩
  · exact ⟨y, (b.get?_set_of_ne x hk).trans h⟩

/-- Stopping keeps every actuator registered. -/
theorem exists_get?_stop (b : Bank) {k : Address} {x : Binary64} (h : b.get? k = some x) :
    ∃ y, b.stop.get? k = some y :=
  ⟨.zero false, by rw [get?_stop, h, Option.map_some]⟩

/-- Addresses that are registered one after another, in a bank where all that is registered is at zero,
leave it so, and are registered. -/
theorem get?_foldl_register (as : List Address) {b : Bank} (a : Address)
    (h : ∀ k x, b.get? k = some x → x = .zero false) :
    (as.foldl register b).get? a = if a ∈ as then some (.zero false) else b.get? a := by
  induction as generalizing b with
  | nil => simp
  | cons k as ih =>
      have hregister (k' : Address) :
          (b.register k).get? k' = if k' = k then some (.zero false) else b.get? k' := by
        split
        · rename_i hk
          subst hk
          rw [get?_register]
          cases hx : b.get? k' with
          | none => rfl
          | some x => exact congrArg some (h k' x hx)
        · rename_i hk
          exact b.get?_register_of_ne hk
      have hzero : ∀ k' x, (b.register k).get? k' = some x → x = .zero false := by
        intro k' x hx
        rw [hregister] at hx
        split at hx
        · exact (Option.some.inj hx).symm
        · exact h k' x hx
      rw [List.foldl_cons, ih hzero, hregister]
      by_cases hk : a = k <;> by_cases ha : a ∈ as <;> simp [hk, ha]

/-- **A bank at the beginning** has the standard actuators at zero, and no others. -/
theorem get?_initial (a : Address) :
    initial.get? a = if a ∈ standard then some (.zero false) else none :=
  get?_foldl_register standard a (b := empty) (by simp [get?, find?, empty])

end Bank

end RobotShorthand
