/-
**Documents up to the order of members.**

The members of an object have no order, so two documents may differ in their texts and be the same for
all that: an object of the one has the members of the other in another order, at any depth.  The
canonical form is made to bring such documents together.  This module says what it is to be the same in
this sense, without sorting anything, and proves that canonical texts are equal exactly for documents
that are the same.

Sorting puts members that have been rearranged into one order again only if no two of them have the same
key, since it looks at nothing but the keys; this is where distinct keys are needed.  The other way round
nothing is needed: a canonical text determines the canonical form, and sorting only rearranges.

Main definitions:

* `Value.HasDistinctKeys` — no object of a document has a key twice;
* `Value.Same` — **the same document up to the order of members in every object**;
* `Value.sortedText` — the compact text that sorts the members of every object as it is written.

Main results:

* `sortByKey_eq_of_perm` — sorting removes every rearrangement of members with distinct keys;
* `canonical_eq_of_same`, `same_of_canonical_eq` — canonical forms are equal exactly for documents that
  are the same;
* `canonical_canonical` — the canonical form is its own canonical form;
* `sortedText_eq_compact` — to sort while writing is to write the canonical form;
* `canonicalText_eq_iff_same` — **canonical texts are normal forms of documents up to the order of
  members.**
-/

import Mathlib.Data.List.Nodup
import Mathlib.Data.List.Perm.Basic
import RobotShorthand.Proofs.Document.Text

set_option relaxedAutoImplicit false
set_option autoImplicit false

namespace RobotShorthand

namespace Value

/-! ### Distinct keys -/

mutual

/-- No object of the document has a key twice. -/
def HasDistinctKeys : Value → Prop
  | list elements => ElementsHaveDistinctKeys elements
  | object members => (members.map Prod.fst).Nodup ∧ MembersHaveDistinctKeys members
  | _ => True

/-- No object of the elements has a key twice. -/
def ElementsHaveDistinctKeys : List Value → Prop
  | [] => True
  | v :: vs => v.HasDistinctKeys ∧ ElementsHaveDistinctKeys vs

/-- No object of the members has a key twice. -/
def MembersHaveDistinctKeys : List (String × Value) → Prop
  | [] => True
  | (_, v) :: rest => v.HasDistinctKeys ∧ MembersHaveDistinctKeys rest

end

/-! ### The same document -/

mutual

/-- **The same document up to the order of members in every object.**  Lists keep their order; numbers
of the two kinds are never the same, and neither are a number and a truth value. -/
inductive Same : Value → Value → Prop
  | null : Same null null
  | bool (b : Bool) : Same (bool b) (bool b)
  | int (n : Int) : Same (int n) (int n)
  | float {x y : Binary64} : x.text .listing = y.text .listing → Same (float x) (float y)
  | string (s : String) : Same (string s) (string s)
  | list {vs ws : List Value} : SameElements vs ws → Same (list vs) (list ws)
  | object {ms ns ns' : List (String × Value)} :
      SameMembers ms ns' → ns'.Perm ns → Same (object ms) (object ns)

/-- The same elements, one by one. -/
inductive SameElements : List Value → List Value → Prop
  | nil : SameElements [] []
  | cons {v w : Value} {vs ws : List Value} :
      Same v w → SameElements vs ws → SameElements (v :: vs) (w :: ws)

/-- The same values under the same keys, one by one. -/
inductive SameMembers : List (String × Value) → List (String × Value) → Prop
  | nil : SameMembers [] []
  | cons {key : String} {v w : Value} {ms ns : List (String × Value)} :
      Same v w → SameMembers ms ns → SameMembers ((key, v) :: ms) ((key, w) :: ns)

end

/-! ### Sorting members -/

section Sorting

variable {α : Type}

/-- Whatever stands under their keys, members are sorted by their keys. -/
def sortByKey (ms : List (String × α)) : List (String × α) := ms.mergeSort fun x y => x.1 ≤ y.1

theorem sortByKey_perm (ms : List (String × α)) : (sortByKey ms).Perm ms := List.mergeSort_perm ..

theorem pairwise_sortByKey (ms : List (String × α)) :
    (sortByKey ms).Pairwise fun x y => x.1 ≤ y.1 := by
  have h : (sortByKey ms).Pairwise fun x y => decide (x.1 ≤ y.1) = true := by
    refine List.pairwise_mergeSort ?_ ?_ ms
    · intro x y z hxy hyz
      rw [decide_eq_true_eq] at hxy hyz ⊢
      exact String.le_trans hxy hyz
    · intro x y
      rw [Bool.or_eq_true, decide_eq_true_eq, decide_eq_true_eq]
      exact String.le_total x.1 y.1
  exact h.imp fun hxy => of_decide_eq_true hxy

/-- **Sorting removes every rearrangement** of members whose keys are distinct. -/
theorem sortByKey_eq_of_perm {ms ns : List (String × α)} (h : ms.Perm ns)
    (hkeys : (ms.map Prod.fst).Nodup) : sortByKey ms = sortByKey ns := by
  have hperm : (sortByKey ms).Perm (sortByKey ns) :=
    (sortByKey_perm ms).trans (h.trans (sortByKey_perm ns).symm)
  refine List.Perm.eq_of_pairwise ?_ (pairwise_sortByKey ms) (pairwise_sortByKey ns) hperm
  intro x y hx hy hxy hyx
  -- two members of equal keys are one member
  have hxms : x ∈ ms := (sortByKey_perm ms).mem_iff.1 hx
  have hyms : y ∈ ms := h.mem_iff.2 ((sortByKey_perm ns).mem_iff.1 hy)
  exact List.inj_on_of_nodup_map hkeys hxms hyms (String.le_antisymm hxy hyx)

/-- What is sorted stays as it is. -/
theorem sortByKey_sortByKey (ms : List (String × α)) : sortByKey (sortByKey ms) = sortByKey ms := by
  refine List.mergeSort_of_pairwise ?_
  exact (pairwise_sortByKey ms).imp fun hxy => decide_eq_true hxy

/-- What is done to the values under the keys may be done before sorting or after it. -/
theorem map_sortByKey {β : Type} (f : α → β) (ms : List (String × α)) :
    (sortByKey ms).map (fun m => (m.1, f m.2)) = sortByKey (ms.map fun m => (m.1, f m.2)) := by
  refine List.map_mergeSort ?_
  intro x _ y _
  rfl

end Sorting

theorem sortMembers_eq_sortByKey (ms : List (String × Value)) : sortMembers ms = sortByKey ms := rfl

/-! ### Canonical forms of the same document -/

theorem map_fst_canonicalMembers (ms : List (String × Value)) :
    (canonicalMembers ms).map Prod.fst = ms.map Prod.fst := by
  rw [canonicalMembers_eq_map, List.map_map]
  rfl

-- Along the derivation that two documents are the same: at an object the members are the same one by
-- one in some order of theirs, and sorting undoes the rearrangement.
mutual

/-- **The same documents have the same canonical form.** -/
theorem canonical_eq_of_same {v w : Value} (h : Same v w) (hv : v.HasDistinctKeys) :
    v.canonical = w.canonical := by
  match h with
  | .null => rfl
  | .bool b => rfl
  | .int n => rfl
  | .float htext => rw [Binary64.text_injective (.inl rfl) htext]
  | .string s => rfl
  | .list helements =>
      rw [canonical, canonical, canonicalList_eq_of_same helements hv]
  | @Same.object ms ns ns' hmembers hperm =>
      have hsame : canonicalMembers ms = canonicalMembers ns' :=
        canonicalMembers_eq_of_same hmembers hv.2
      have hcanonical : (canonicalMembers ms).Perm (canonicalMembers ns) := by
        rw [hsame, canonicalMembers_eq_map, canonicalMembers_eq_map]
        exact hperm.map _
      have hkeys : ((canonicalMembers ms).map Prod.fst).Nodup := by
        rw [map_fst_canonicalMembers]
        exact hv.1
      rw [canonical, canonical, sortMembers_eq_sortByKey, sortMembers_eq_sortByKey,
        sortByKey_eq_of_perm hcanonical hkeys]

theorem canonicalList_eq_of_same {vs ws : List Value} (h : SameElements vs ws)
    (hvs : ElementsHaveDistinctKeys vs) : canonicalList vs = canonicalList ws := by
  match h with
  | .nil => rfl
  | .cons hhead htail =>
      rw [canonicalList, canonicalList, canonical_eq_of_same hhead hvs.1,
        canonicalList_eq_of_same htail hvs.2]

theorem canonicalMembers_eq_of_same {ms ns : List (String × Value)} (h : SameMembers ms ns)
    (hms : MembersHaveDistinctKeys ms) : canonicalMembers ms = canonicalMembers ns := by
  match h with
  | .nil => rfl
  | .cons hhead htail =>
      rw [canonicalMembers, canonicalMembers, canonical_eq_of_same hhead hms.1,
        canonicalMembers_eq_of_same htail hms.2]

end

/-- Members whose canonical forms are a rearrangement of others are, in some order of the others, the
same one by one in their canonical forms. -/
theorem exists_perm_of_canonicalMembers {ms ns : List (String × Value)}
    (h : (canonicalMembers ms).Perm (canonicalMembers ns)) :
    ∃ ns', canonicalMembers ms = canonicalMembers ns' ∧ ns'.Perm ns := by
  let toCanonical : String × Value → String × Value := fun m => (m.1, m.2.canonical)
  rw [canonicalMembers_eq_map ns] at h
  have hcomp := congrFun (congrFun (List.eq_map_comp_perm toCanonical) (canonicalMembers ms)) ns
  obtain ⟨ns', heq, hperm⟩ := hcomp.mpr h
  exact ⟨ns', heq.trans (canonicalMembers_eq_map ns').symm, hperm⟩

-- Along the first document: the canonical form of the second one tells what kind of document it is, and
-- its parts are compared with those of the first.
mutual

/-- **Documents with the same canonical form are the same,** whatever their keys. -/
theorem same_of_canonical_eq (v w : Value) (h : v.canonical = w.canonical) : Same v w := by
  match v with
  | null =>
      cases w with
      | null => exact .null
      | _ => simp [canonical] at h
  | bool b =>
      cases w with
      | bool c =>
          obtain rfl : b = c := by simpa [canonical] using h
          exact .bool b
      | _ => simp [canonical] at h
  | int m =>
      cases w with
      | int n =>
          obtain rfl : m = n := by simpa [canonical] using h
          exact .int m
      | _ => simp [canonical] at h
  | float x =>
      cases w with
      | float y =>
          obtain rfl : x = y := by simpa [canonical] using h
          exact .float rfl
      | _ => simp [canonical] at h
  | string s =>
      cases w with
      | string t =>
          obtain rfl : s = t := by simpa [canonical] using h
          exact .string s
      | _ => simp [canonical] at h
  | list vs =>
      cases w with
      | list ws =>
          have helements : canonicalList vs = canonicalList ws := by simpa [canonical] using h
          exact .list (sameElements_of_canonicalList_eq vs ws helements)
      | _ => simp [canonical] at h
  | object ms =>
      cases w with
      | object ns =>
          have hsorted : sortMembers (canonicalMembers ms) = sortMembers (canonicalMembers ns) := by
            simpa [canonical] using h
          have hperm : (canonicalMembers ms).Perm (canonicalMembers ns) := by
            refine (sortByKey_perm (canonicalMembers ms)).symm.trans ?_
            rw [← sortMembers_eq_sortByKey, hsorted]
            exact sortByKey_perm (canonicalMembers ns)
          obtain ⟨ns', hmembers, hns⟩ := exists_perm_of_canonicalMembers hperm
          exact .object (sameMembers_of_canonicalMembers_eq ms ns' hmembers) hns
      | _ => simp [canonical] at h

theorem sameElements_of_canonicalList_eq (vs ws : List Value)
    (h : canonicalList vs = canonicalList ws) : SameElements vs ws := by
  match vs with
  | [] =>
      cases ws with
      | nil => exact .nil
      | cons w ws => simp [canonicalList] at h
  | v :: vs =>
      cases ws with
      | nil => simp [canonicalList] at h
      | cons w ws =>
          obtain ⟨hhead, htail⟩ := List.cons.inj h
          exact .cons (same_of_canonical_eq v w hhead)
            (sameElements_of_canonicalList_eq vs ws htail)

theorem sameMembers_of_canonicalMembers_eq (ms ns : List (String × Value))
    (h : canonicalMembers ms = canonicalMembers ns) : SameMembers ms ns := by
  match ms with
  | [] =>
      cases ns with
      | nil => exact .nil
      | cons n ns => simp [canonicalMembers] at h
  | (key, v) :: ms =>
      cases ns with
      | nil => simp [canonicalMembers] at h
      | cons n ns =>
          obtain ⟨key', w⟩ := n
          obtain ⟨hhead, htail⟩ := List.cons.inj h
          obtain ⟨rfl, hvalue⟩ := Prod.mk.inj hhead
          exact .cons (same_of_canonical_eq v w hvalue)
            (sameMembers_of_canonicalMembers_eq ms ns htail)

end

/-! ### Sorting again -/

mutual

/-- **The canonical form is its own canonical form.** -/
theorem canonical_canonical (v : Value) : v.canonical.canonical = v.canonical := by
  match v with
  | null | bool _ | int _ | float _ | string _ => rfl
  | list vs => rw [canonical, canonical, canonicalList_canonicalList vs]
  | object ms =>
      have hsort : canonicalMembers (sortMembers (canonicalMembers ms))
          = sortMembers (canonicalMembers (canonicalMembers ms)) := by
        rw [canonicalMembers_eq_map (sortMembers _), canonicalMembers_eq_map (canonicalMembers ms)]
        exact map_sortByKey canonical (canonicalMembers ms)
      rw [canonical, canonical, hsort, canonicalMembers_canonicalMembers ms,
        sortMembers_eq_sortByKey, sortMembers_eq_sortByKey, sortByKey_sortByKey]

theorem canonicalList_canonicalList (vs : List Value) :
    canonicalList (canonicalList vs) = canonicalList vs := by
  match vs with
  | [] => rfl
  | v :: vs =>
      rw [canonicalList, canonicalList, canonical_canonical v, canonicalList_canonicalList vs]

theorem canonicalMembers_canonicalMembers (ms : List (String × Value)) :
    canonicalMembers (canonicalMembers ms) = canonicalMembers ms := by
  match ms with
  | [] => rfl
  | (key, v) :: ms =>
      rw [canonicalMembers, canonicalMembers, canonical_canonical v,
        canonicalMembers_canonicalMembers ms]

end

/-! ### Sorting while writing -/

/-- The texts of members with their keys in front and commas between them. -/
def joinMembers (isFirst : Bool) : List (String × List Char) → List Char
  | [] => []
  | (key, text) :: rest =>
      (if isFirst then [] else [',']) ++ stringText key ++ ':' :: text ++ joinMembers false rest

mutual

/-- **The compact text of a document that sorts the members of every object as it is written,** by
their keys and behind their texts. -/
def sortedText : Value → List Char
  | list elements => '[' :: sortedElements true elements ++ [']']
  | object members => '{' :: joinMembers true (sortByKey (memberTexts members)) ++ ['}']
  | v => v.scalarText

/-- Elements with commas between them. -/
def sortedElements (isFirst : Bool) : List Value → List Char
  | [] => []
  | v :: vs => (if isFirst then [] else [',']) ++ v.sortedText ++ sortedElements false vs

/-- The texts of members under their keys. -/
def memberTexts : List (String × Value) → List (String × List Char)
  | [] => []
  | (key, v) :: rest => (key, v.sortedText) :: memberTexts rest

end

theorem compactMembers_eq_joinMembers (isFirst : Bool) (ms : List (String × Value)) :
    compactMembers isFirst ms = joinMembers isFirst (ms.map fun m => (m.1, m.2.compact)) := by
  induction ms generalizing isFirst with
  | nil => rfl
  | cons m ms ih =>
      obtain ⟨key, v⟩ := m
      rw [compactMembers, List.map_cons, joinMembers, ih]

mutual

/-- **To sort while writing is to write the canonical form.** -/
theorem sortedText_eq_compact (v : Value) : v.sortedText = v.canonical.compact := by
  match v with
  | null | bool _ | int _ | float _ | string _ => rfl
  | list vs => rw [sortedText, canonical, compact, sortedElements_eq_compactList true vs]
  | object ms =>
      rw [sortedText, canonical, compact, compactMembers_eq_joinMembers, sortMembers_eq_sortByKey,
        map_sortByKey, memberTexts_eq_map ms]

theorem sortedElements_eq_compactList (isFirst : Bool) (vs : List Value) :
    sortedElements isFirst vs = compactList isFirst (canonicalList vs) := by
  match vs with
  | [] => rfl
  | v :: vs =>
      rw [sortedElements, canonicalList, compactList, sortedText_eq_compact v,
        sortedElements_eq_compactList false vs]

theorem memberTexts_eq_map (ms : List (String × Value)) :
    memberTexts ms = (canonicalMembers ms).map fun m => (m.1, m.2.compact) := by
  match ms with
  | [] => rfl
  | (key, v) :: ms =>
      rw [memberTexts, canonicalMembers, List.map_cons, sortedText_eq_compact v,
        memberTexts_eq_map ms]

end

/-! ### Normal forms -/

/-- **Canonical texts are normal forms of documents up to the order of members:** the texts of two
documents are equal exactly if the documents are the same; it is enough that the objects of one of them
have distinct keys.  The canonical form is its own canonical form, and the text that is hashed stays the
same when the members of the canonical form are sorted once more as it is written. -/
theorem canonicalText_eq_iff_same {v : Value} (hv : v.HasDistinctKeys) (w : Value) :
    (v.canonicalText = w.canonicalText ↔ v.Same w)
      ∧ v.canonical.canonical = v.canonical
      ∧ String.ofList v.canonical.sortedText = v.canonicalText
      ∧ v.digest = Sha256.hex (String.ofList v.canonical.sortedText) := by
  have hsorted : String.ofList v.canonical.sortedText = v.canonicalText := by
    rw [sortedText_eq_compact, canonical_canonical, canonicalText]
  refine ⟨?_, canonical_canonical v, hsorted, ?_⟩
  · rw [canonicalText_inj]
    constructor
    · intro h
      exact same_of_canonical_eq v w h
    · intro h
      exact canonical_eq_of_same h hv
  · rw [hsorted, digest]

/-- Two documents that differ in the order of their members, at two depths, have the same text, and a
third one has another: it has the number `1` in the place of `true`. -/
theorem canonicalText_eq_iff_same_station :
    let v : Value := object [("b", list [bool true, object [("y", int 1), ("x", float (.ofNat 1))]]),
      ("a", null)]
    let w : Value := object [("a", null),
      ("b", list [bool true, object [("x", float (.ofNat 1)), ("y", int 1)]])]
    let u : Value := object [("b", list [int 1, object [("y", int 1), ("x", float (.ofNat 1))]]),
      ("a", null)]
    v.HasDistinctKeys ∧ v.canonicalText = w.canonicalText ∧ v.canonicalText ≠ u.canonicalText := by
  intro v w u
  have hv : v.HasDistinctKeys := by
    simp [v, HasDistinctKeys, ElementsHaveDistinctKeys, MembersHaveDistinctKeys]
  refine ⟨hv, (canonicalText_eq_iff_same hv w).1.2 ?_, ?_⟩
  · have hinner : Same (object [("y", int 1), ("x", float (.ofNat 1))])
        (object [("x", float (.ofNat 1)), ("y", int 1)]) :=
      .object (.cons (.int 1) (.cons (.float rfl) .nil)) (.swap ..)
    exact .object (.cons (.list (.cons (.bool true) (.cons hinner .nil))) (.cons .null .nil))
      (.swap ..)
  · intro htext
    have hsame := (canonicalText_eq_iff_same hv u).1.1 htext
    simp only [v, u] at hsame
    cases hsame with
    | object hmembers hperm =>
        cases hmembers with
        | @cons _ _ b' _ _ hb hrest =>
            -- what stands under the key `b` is a list that begins with a truth value
            have hmem := hperm.subset (List.mem_cons_self ..)
            obtain rfl : b' = list [int 1, object [("y", int 1), ("x", float (.ofNat 1))]] := by
              simpa using hmem
            cases hb with
            | list helements =>
                cases helements with
                | cons hhead htail => cases hhead

end Value

end RobotShorthand
