/-
**Documents.**

A document is a tree of lists and objects over texts, numbers, truth values and null.  The order of
the members of an object carries no meaning, so a document has a canonical form with the members of
every object in the order of their keys, and a canonical text, which is the compact text of that form
in ASCII.

Main definitions:

* `Value` — documents;
* `Value.canonical` — **the document with the members of every object sorted by key;**
* `Value.compact` — the compact text of a document;
* `Value.canonicalText`, `Value.digest` — the text of the canonical form, and its SHA-256 digest;
* `Value.indented` — the text with each member on a line of its own.

Main results:

* `canonicalList_eq_map`, `canonicalMembers_eq_map` — sorting goes into every list and every object.
-/

import RobotShorthand.Digest.Sha256
import RobotShorthand.Number.Basic

set_option relaxedAutoImplicit false
set_option autoImplicit false

namespace RobotShorthand

/-- Documents. -/
inductive Value
  | null
  | bool (b : Bool)
  | int (n : Int)
  | float (x : Binary64)
  | string (s : String)
  | list (elements : List Value)
  | object (members : List (String × Value))

namespace Value

instance : Inhabited Value := ⟨null⟩

/-- A number as a document. -/
def ofNumber : Number → Value
  | .int n => int n
  | .float x => float x

/-! ### The canonical form -/

/-- Members in the order of their keys, by code point. -/
def sortMembers (members : List (String × Value)) : List (String × Value) :=
  members.mergeSort fun x y => x.1 ≤ y.1

mutual

/-- **The document with the members of every object sorted by key.** -/
def canonical : Value → Value
  | list elements => list (canonicalList elements)
  | object members => object (sortMembers (canonicalMembers members))
  | v => v

/-- The canonical forms of elements. -/
def canonicalList : List Value → List Value
  | [] => []
  | v :: vs => v.canonical :: canonicalList vs

/-- Members with canonical values. -/
def canonicalMembers : List (String × Value) → List (String × Value)
  | [] => []
  | (key, v) :: rest => (key, v.canonical) :: canonicalMembers rest

end

theorem canonicalList_eq_map (vs : List Value) : canonicalList vs = vs.map canonical := by
  induction vs with
  | nil => rfl
  | cons v vs ih => simp [canonicalList, ih]

theorem canonicalMembers_eq_map (ms : List (String × Value)) :
    canonicalMembers ms = ms.map fun m => (m.1, m.2.canonical) := by
  induction ms with
  | nil => rfl
  | cons m ms ih => obtain ⟨k, v⟩ := m; simp [canonicalMembers, ih]

/-! ### Text -/

/-- A character number as an escape of four hexadecimal digits. -/
def unitEscape (n : Nat) : List Char := '\\' :: 'u' :: Text.hexFixed 4 n

/-- A character of a text between quotes: ASCII as it is unless it must be escaped, all others as one
or two units of sixteen bits. -/
def escapeChar (c : Char) : List Char :=
  if c = '"' then ['\\', '"']
  else if c = '\\' then ['\\', '\\']
  else if c = '\n' then ['\\', 'n']
  else if c = '\r' then ['\\', 'r']
  else if c = '\t' then ['\\', 't']
  else if c = '\x08' then ['\\', 'b']
  else if c = '\x0c' then ['\\', 'f']
  else if 0x20 ≤ c.toNat ∧ c.toNat < 0x7F then [c]
  else if c.toNat < 0x10000 then unitEscape c.toNat
  else
    let offset := c.toNat - 0x10000
    unitEscape (0xD800 + offset / 0x400) ++ unitEscape (0xDC00 + offset % 0x400)

/-- A text between double quotes. -/
def stringText (s : String) : List Char := '"' :: s.toList.flatMap escapeChar ++ ['"']

/-- A value without parts, as it is written; nothing for lists and objects. -/
def scalarText : Value → List Char
  | null => "null".toList
  | bool b => (if b then "true" else "false").toList
  | int n => (toString n).toList
  | float x => (x.text .document).toList
  | string s => stringText s
  | list _ => []
  | object _ => []

mutual

/-- **The compact text of a document.** -/
def compact : Value → List Char
  | list elements => '[' :: compactList true elements ++ [']']
  | object members => '{' :: compactMembers true members ++ ['}']
  | v => v.scalarText

/-- Elements with commas between them. -/
def compactList (isFirst : Bool) : List Value → List Char
  | [] => []
  | v :: vs => (if isFirst then [] else [',']) ++ v.compact ++ compactList false vs

/-- Members with commas between them. -/
def compactMembers (isFirst : Bool) : List (String × Value) → List Char
  | [] => []
  | (key, v) :: rest =>
      (if isFirst then [] else [',']) ++ stringText key ++ ':' :: v.compact
        ++ compactMembers false rest

end

/-- The compact text of the canonical form. -/
def canonicalText (v : Value) : String := String.ofList v.canonical.compact

/-- **The digest of a document:** that of its canonical text. -/
def digest (v : Value) : String := Sha256.hex v.canonicalText

/-! ### Indented text -/

/-- A new line with two blanks for every level. -/
def newLine (level : Nat) : List Char := '\n' :: List.replicate (2 * level) ' '

mutual

/-- The text of a document that stands at a level, each part of a list or an object on a line of its
own. -/
def indentedAt (level : Nat) : Value → List Char
  | list [] => ['[', ']']
  | list (v :: vs) =>
      '[' :: newLine (level + 1) ++ v.indentedAt (level + 1) ++ indentedList (level + 1) vs
        ++ newLine level ++ [']']
  | object [] => ['{', '}']
  | object ((key, v) :: rest) =>
      '{' :: newLine (level + 1) ++ stringText key ++ ':' :: ' ' :: v.indentedAt (level + 1)
        ++ indentedMembers (level + 1) rest ++ newLine level ++ ['}']
  | v => v.scalarText

/-- The elements behind the first one. -/
def indentedList (level : Nat) : List Value → List Char
  | [] => []
  | v :: vs => ',' :: newLine level ++ v.indentedAt level ++ indentedList level vs

/-- The members behind the first one. -/
def indentedMembers (level : Nat) : List (String × Value) → List Char
  | [] => []
  | (key, v) :: rest =>
      ',' :: newLine level ++ stringText key ++ ':' :: ' ' :: v.indentedAt level
        ++ indentedMembers level rest

end

/-- The text of a document with each part on a line of its own. -/
def indented (v : Value) : String := String.ofList (v.indentedAt 0)

end Value

end RobotShorthand
