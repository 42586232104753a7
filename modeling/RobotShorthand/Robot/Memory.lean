/-
**Memory.**

The readings a robot has stored, each under a key.  Keys keep the order in which they were first
stored; storing under a key again replaces its reading in place.

Main definitions:

* `Memory` — keys with their readings, oldest key first;
* `Memory.get?`, `Memory.set` — look-up and storing;
* `Memory.sorted` — the entries by key, in the order of code points.

Main results:

* `Memory.get?_set_self`, `Memory.get?_set_of_ne` — **storing changes the reading of its key only**;
* `Memory.keys_set` — storing forgets no key and adds at most its own.
-/

import RobotShorthand.Number.Basic

set_option relaxedAutoImplicit false
set_option autoImplicit false

namespace RobotShorthand

/-- Stored readings with their keys, in the order in which the keys were first stored. -/
structure Memory where
  entries : List (String × Number)
  deriving DecidableEq

namespace Memory

/-- The memory without readings. -/
def empty : Memory := ⟨[]⟩

instance : Inhabited Memory := ⟨empty⟩

/-- The reading stored under a key. -/
def get? (m : Memory) (key : String) : Option Number := m.entries.lookup key

/-- Stores a reading among entries: in the place of its key, or else at the end. -/
def store (key : String) (reading : Number) : List (String × Number) → List (String × Number)
  | [] => [(key, reading)]
  | (k, r) :: rest => if k = key then (key, reading) :: rest else (k, r) :: store key reading rest

/-- Stores a reading under a key. -/
def set (m : Memory) (key : String) (reading : Number) : Memory := ⟨store key reading m.entries⟩

/-- The keys, oldest first. -/
def keys (m : Memory) : List String := m.entries.map Prod.fst

/-- The entries by key, in the order of code points. -/
def sorted (m : Memory) : List (String × Number) := m.entries.mergeSort fun x y => x.1 ≤ y.1

theorem lookup_store (key k : String) (reading : Number) (es : List (String × Number)) :
    (store key reading es).lookup k = if k = key then some reading else es.lookup k := by
  induction es with
  | nil =>
      by_cases h : k = key
      · subst h; simp [store]
      · have : (k == key) = false := by simpa using h
        simp [store, List.lookup_cons, this, h]
  | cons e es ih =>
      obtain ⟨k', r⟩ := e
      by_cases hk : k' = key
      · subst hk
        by_cases h : k = k'
        · subst h; simp [store]
        · have : (k == k') = false := by simpa using h
          simp [store, List.lookup_cons, this, h]
      · by_cases h : k = k'
        · subst h
          simp [store, hk]
        · have : (k == k') = false := by simpa using h
          simp [store, hk, List.lookup_cons, this, ih]

/-- A reading is found under its key once stored. -/
@[simp] theorem get?_set_self (m : Memory) (key : String) (reading : Number) :
    (m.set key reading).get? key = some reading := by
  simp [get?, set, lookup_store]

/-- **Storing leaves every other key alone.** -/
theorem get?_set_of_ne (m : Memory) {key k : String} (reading : Number) (h : k ≠ key) :
    (m.set key reading).get? k = m.get? k := by
  simp [get?, set, lookup_store, h]

/-- Storing forgets no key and adds at most its own. -/
theorem keys_set (m : Memory) (key : String) (reading : Number) :
    (m.set key reading).keys = if key ∈ m.keys then m.keys else m.keys ++ [key] := by
  obtain ⟨es⟩ := m
  simp only [keys, set]
  induction es with
  | nil => simp [store]
  | cons e es ih =>
      obtain ⟨k, r⟩ := e
      by_cases hk : k = key
      · subst hk; simp [store]
      · have hk' : ¬ key = k := fun h => hk h.symm
        by_cases hm : key ∈ es.map Prod.fst
        · simp [store, hk, hk', ih, hm]
        · simp [store, hk, hk', ih, hm]

end Memory

end RobotShorthand
