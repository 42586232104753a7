/-
**What the digest of a program is taken of.**

The digest of a program is that of the canonical text of its nameless document.  This text determines
the instructions, with all their fields, blocks and nesting, except for one thing: a predicate that is
no threshold has no document of its own, so that which one it is does not show.  The text depends on
nothing else.

The text determines the canonical form of the document.  Sorting moves the members of an object but
changes none, so that the values under a key can be compared; the word under `op` tells the kind of an
instruction and with it the keys of its fields.

Main definitions:

* `Value.valuesAt` — the values that an object has under a key;
* `Kind.op?` — the word that the document of an instruction is tagged with;
* `Predicate.anonymous`, `Instruction.anonymous`, `anonymousBlock` — **the parts of a program with one
  predicate in the place of all that are no thresholds.**

Main results:

* `valuesAt_perm` — equal canonical forms have the same values under every key;
* `kind_eq_of_canonical` — the document of an instruction tells its kind;
* `anonymous_eq_of_canonical` — **the document of an instruction tells all but such predicates**;
* `Program.hashedText_eq_iff` — **two programs have the same text exactly if their instructions are
  equal but for such predicates.**
-/

import RobotShorthand.Document.Program
import RobotShorthand.Proofs.Document.Text

set_option relaxedAutoImplicit false
set_option autoImplicit false

namespace RobotShorthand

/-! ### The values of an object -/

namespace Value

/-- The values that an object has under a key. -/
def valuesAt (key : String) : Value → List Value
  | object members => (members.filter (·.1 = key)).map (·.2)
  | _ => []

/-- The canonical form of an object has the canonical forms of its values, under the same keys. -/
theorem valuesAt_canonical (key : String) (v : Value) :
    (v.canonical.valuesAt key).Perm ((v.valuesAt key).map canonical) := by
  cases v with
  | object ms =>
      have hsort : (sortMembers (canonicalMembers ms)).Perm (canonicalMembers ms) :=
        List.mergeSort_perm ..
      have hvalues : ((canonicalMembers ms).filter (·.1 = key)).map (·.2)
          = ((ms.filter (·.1 = key)).map (·.2)).map canonical := by
        rw [canonicalMembers_eq_map, List.filter_map, List.map_map, List.map_map]
        rfl
      rw [canonical]
      simp only [valuesAt]
      rw [← hvalues]
      exact (hsort.filter _).map _
  | _ => simp [canonical, valuesAt]

/-- **Documents with the same canonical form have the same values under every key.** -/
theorem valuesAt_perm {v w : Value} (h : v.canonical = w.canonical) (key : String) :
    ((v.valuesAt key).map canonical).Perm ((w.valuesAt key).map canonical) :=
  (valuesAt_canonical key v).symm.trans (h ▸ valuesAt_canonical key w)

/-- The document of a number is its own canonical form. -/
theorem canonical_ofNumber (n : Number) : (ofNumber n).canonical = ofNumber n := by
  cases n <;> simp [ofNumber, canonical]

/-- A number keeps its kind and its value in a document. -/
theorem ofNumber_injective {m n : Number} (h : ofNumber m = ofNumber n) : m = n := by
  cases m <;> cases n <;> simp_all [ofNumber]

end Value

/-! ### Predicates without names -/

/-- A predicate, where all that are no thresholds are one. -/
def Predicate.anonymous : Predicate → Predicate
  | threshold t => threshold t
  | leftBrighter => external 0
  | external _ => external 0

mutual

/-- An instruction with anonymous predicates. -/
def Instruction.anonymous : Instruction → Instruction
  | .cond predicate thenBranch elseBranch =>
      .cond predicate.anonymous (anonymousBlock thenBranch) (anonymousBlock elseBranch)
  | .loop count body => .loop count (anonymousBlock body)
  | .repeatWhile predicate body => .repeatWhile predicate.anonymous (anonymousBlock body)
  | .parallel branches => .parallel (anonymousBranches branches)
  | i => i

/-- A block with anonymous predicates. -/
def anonymousBlock : List Instruction → List Instruction
  | [] => []
  | i :: is => i.anonymous :: anonymousBlock is

/-- Blocks with anonymous predicates. -/
def anonymousBranches : List (List Instruction) → List (List Instruction)
  | [] => []
  | b :: bs => anonymousBlock b :: anonymousBranches bs

end

theorem Predicate.document_anonymous (p : Predicate) : p.anonymous.document = p.document := by
  cases p <;> rfl

mutual

/-- The document of an instruction does not show what is anonymous. -/
theorem Instruction.document_anonymous (i : Instruction) : i.anonymous.document = i.document := by
  match i with
  | .cond predicate thenBranch elseBranch =>
      simp only [Instruction.anonymous, Instruction.document]
      rw [predicate.document_anonymous, itemDocuments_anonymous thenBranch,
        itemDocuments_anonymous elseBranch]
  | .loop count body =>
      simp only [Instruction.anonymous, Instruction.document]
      rw [itemDocuments_anonymous body]
  | .repeatWhile predicate body =>
      simp only [Instruction.anonymous, Instruction.document]
      rw [predicate.document_anonymous, itemDocuments_anonymous body]
  | .parallel branches =>
      simp only [Instruction.anonymous, Instruction.document]
      rw [branchDocuments_anonymous branches]
  | .move .. | .turn _ | .sense .. | .actuate .. | .wait _ | .log _ | .halt | .foreign _ =>
      simp only [Instruction.anonymous]

theorem itemDocuments_anonymous (is : List Instruction) :
    itemDocuments (anonymousBlock is) = itemDocuments is := by
  match is with
  | [] => rfl
  | i :: is =>
      simp only [anonymousBlock, itemDocuments]
      rw [i.document_anonymous, itemDocuments_anonymous is]

theorem branchDocuments_anonymous (bs : List (List Instruction)) :
    branchDocuments (anonymousBranches bs) = branchDocuments bs := by
  match bs with
  | [] => rfl
  | b :: bs =>
      simp only [anonymousBranches, branchDocuments]
      rw [itemDocuments_anonymous b, branchDocuments_anonymous bs]

end

/-! ### What documents tell -/

/-- The word that the document of an instruction is tagged with. -/
def Kind.op? : Kind → Option String
  | move => some "move"
  | turn => some "turn"
  | sense => some "sense"
  | actuate => some "actuate"
  | cond => some "cond"
  | loop => some "loop"
  | .repeatWhile => some "while"
  | parallel => some "parallel"
  | wait => some "wait"
  | log => some "log"
  | halt => some "halt"
  | foreign _ => none

theorem Kind.eq_of_op? {k l : Kind} (hk : k.op? ≠ none) (h : k.op? = l.op?) : k = l := by
  cases k <;> cases l <;> first | rfl | exact absurd rfl hk | exact absurd h (by simp [op?])

theorem Instruction.op?_ne_none {i : Instruction} (hi : i.foreign? = none) : i.kind.op? ≠ none := by
  cases i <;> simp_all [foreign?, kind, Kind.op?]

theorem Instruction.valuesAt_op (i : Instruction) :
    i.document.valuesAt "op" = i.kind.op?.toList.map .string := by
  cases i <;> simp [document, Value.valuesAt, kind, Kind.op?]

/-- **The document of an instruction tells its kind.** -/
theorem Instruction.kind_eq_of_canonical {i j : Instruction} (hi : i.kind.op? ≠ none)
    (h : i.document.canonical = j.document.canonical) : i.kind = j.kind := by
  have hop := Value.valuesAt_perm h "op"
  rw [i.valuesAt_op, j.valuesAt_op] at hop
  refine Kind.eq_of_op? hi ?_
  cases hi : i.kind.op? <;> cases hj : j.kind.op? <;>
    simp_all [Value.canonical]

/-- Kinds of instructions that hold no blocks. -/
def Kind.isSimple : Kind → Bool
  | cond | loop | .repeatWhile | parallel | foreign _ => false
  | _ => true

theorem Kind.op?_ne_none {k : Kind} (hk : k.isSimple = true) : k.op? ≠ none := by
  cases k <;> simp_all [isSimple, op?]

theorem Direction.name_injective {d e : Direction} (h : d.name = e.name) : d = e := by
  cases d <;> cases e <;> first | rfl | exact absurd h (by decide)

theorem Comparison.symbol_injective {c d : Comparison} (h : c.symbol = d.symbol) : c = d := by
  cases c <;> cases d <;> first | rfl | exact absurd h (by decide)

/-- The document of a threshold tells all its fields. -/
theorem Threshold.eq_of_canonical {s t : Threshold}
    (h : (Predicate.threshold s).document.canonical = (Predicate.threshold t).document.canonical) :
    s = t := by
  have hkey : s.key = t.key := by
    simpa [Predicate.document, Value.valuesAt, Value.canonical] using Value.valuesAt_perm h "key"
  have hthreshold : Value.ofNumber s.threshold = Value.ofNumber t.threshold := by
    simpa [Predicate.document, Value.valuesAt, Value.canonical_ofNumber]
      using Value.valuesAt_perm h "threshold"
  have hcomparison : s.comparison.symbol = t.comparison.symbol := by
    simpa [Predicate.document, Value.valuesAt, Value.canonical]
      using Value.valuesAt_perm h "comparison"
  obtain ⟨key, threshold, comparison⟩ := s
  obtain ⟨key', threshold', comparison'⟩ := t
  obtain rfl : key = key' := hkey
  obtain rfl : threshold = threshold' := Value.ofNumber_injective hthreshold
  obtain rfl : comparison = comparison' := Comparison.symbol_injective hcomparison
  rfl

/-- The document of a predicate tells whether it is a threshold, and which one. -/
theorem Predicate.anonymous_eq_of_canonical {p q : Predicate}
    (h : p.document.canonical = q.document.canonical) : p.anonymous = q.anonymous := by
  have hkind := Value.valuesAt_perm h "kind"
  cases p with
  | threshold s =>
      cases q with
      | threshold t => rw [Threshold.eq_of_canonical h]
      | _ => simp [document, Value.valuesAt, Value.canonical] at hkind
  | _ =>
      cases q with
      | threshold t => simp [document, Value.valuesAt, Value.canonical] at hkind
      | _ => rfl

/-- **The document of an instruction without blocks tells the instruction.** -/
theorem Instruction.eq_of_canonical {i j : Instruction} (hi : i.kind.isSimple = true)
    (h : i.document.canonical = j.document.canonical) : i = j := by
  have hkind := Instruction.kind_eq_of_canonical (Kind.op?_ne_none hi) h
  have hfield := Value.valuesAt_perm h
  cases i with
  | move direction distance =>
      cases j with
      | move direction' distance' =>
          have hdirection : direction.name = direction'.name := by
            simpa [document, Value.valuesAt, Value.canonical] using hfield "direction"
          have hdistance : (distance : Int) = distance' := by
            simpa [document, Value.valuesAt, Value.canonical] using hfield "distance"
          rw [Direction.name_injective hdirection, Int.natCast_inj.1 hdistance]
      | _ => exact absurd hkind (by simp [kind])
  | turn degrees =>
      cases j with
      | turn degrees' =>
          have hdegrees : Value.ofNumber degrees = Value.ofNumber degrees' := by
            simpa [document, Value.valuesAt, Value.canonical_ofNumber] using hfield "degrees"
          rw [Value.ofNumber_injective hdegrees]
      | _ => exact absurd hkind (by simp [kind])
  | sense name sensor target =>
      cases j with
      | sense name' sensor' target' =>
          have hname : name = name' := by
            simpa [document, Value.valuesAt, Value.canonical] using hfield "kind"
          have hsensor : sensor.toInt = sensor'.toInt := by
            simpa [document, Value.valuesAt, Value.canonical] using hfield "sensor_id"
          have htarget : target = target' := by
            simpa [document, Value.valuesAt, Value.canonical] using hfield "target"
          rw [hname, Int8.toInt_inj.1 hsensor, htarget]
      | _ => exact absurd hkind (by simp [kind])
  | actuate name actuator value =>
      cases j with
      | actuate name' actuator' value' =>
          have hname : name = name' := by
            simpa [document, Value.valuesAt, Value.canonical] using hfield "kind"
          have hactuator : actuator.toInt = actuator'.toInt := by
            simpa [document, Value.valuesAt, Value.canonical] using hfield "actuator_id"
          have hvalue : value = value' := by
            simpa [document, Value.valuesAt, Value.canonical] using hfield "value"
          rw [hname, Int8.toInt_inj.1 hactuator, hvalue]
      | _ => exact absurd hkind (by simp [kind])
  | wait milliseconds =>
      cases j with
      | wait milliseconds' =>
          have hmilliseconds : (milliseconds : Int) = milliseconds' := by
            simpa [document, Value.valuesAt, Value.canonical] using hfield "duration_ms"
          rw [Int.natCast_inj.1 hmilliseconds]
      | _ => exact absurd hkind (by simp [kind])
  | log message =>
      cases j with
      | log message' =>
          have hmessage : message = message' := by
            simpa [document, Value.valuesAt, Value.canonical] using hfield "message"
          rw [hmessage]
      | _ => exact absurd hkind (by simp [kind])
  | halt =>
      cases j with
      | halt => rfl
      | _ => exact absurd hkind (by simp [kind])
  | _ => exact absurd hi (by simp [kind, Kind.isSimple])

-- The two documents are of one kind, and so are the instructions: their fields are compared one by one,
-- and their blocks by the same argument.
mutual

/-- **The document of an instruction tells all but its anonymous predicates.** -/
theorem Instruction.anonymous_eq_of_canonical (i j : Instruction) (hi : i.foreign? = none)
    (h : i.document.canonical = j.document.canonical) : i.anonymous = j.anonymous := by
  by_cases hsimple : i.kind.isSimple = true
  · rw [Instruction.eq_of_canonical hsimple h]
  have hkind := Instruction.kind_eq_of_canonical (Instruction.op?_ne_none hi) h
  have hfield := Value.valuesAt_perm h
  match i with
  | .cond predicate thenBranch elseBranch =>
      cases j with
      | cond predicate' thenBranch' elseBranch' =>
          obtain ⟨hthen, helse⟩ := Option.or_eq_none_iff.1 hi
          have hpredicate : predicate.document.canonical = predicate'.document.canonical := by
            simpa [Instruction.document, Value.valuesAt] using hfield "predicate"
          have hthenBranch : Value.canonicalList (itemDocuments thenBranch)
              = Value.canonicalList (itemDocuments thenBranch') := by
            simpa [Instruction.document, Value.valuesAt, Value.canonical] using hfield "then"
          have helseBranch : Value.canonicalList (itemDocuments elseBranch)
              = Value.canonicalList (itemDocuments elseBranch') := by
            simpa [Instruction.document, Value.valuesAt, Value.canonical] using hfield "else"
          simp only [Instruction.anonymous]
          rw [Predicate.anonymous_eq_of_canonical hpredicate,
            anonymousBlock_eq_of_canonical _ _ hthen hthenBranch,
            anonymousBlock_eq_of_canonical _ _ helse helseBranch]
      | _ => exact absurd hkind (by simp [Instruction.kind])
  | .loop count body =>
      cases j with
      | loop count' body' =>
          have hcount : (count : Int) = count' := by
            simpa [Instruction.document, Value.valuesAt, Value.canonical] using hfield "count"
          have hbody : Value.canonicalList (itemDocuments body)
              = Value.canonicalList (itemDocuments body') := by
            simpa [Instruction.document, Value.valuesAt, Value.canonical] using hfield "body"
          simp only [Instruction.anonymous]
          rw [Int.natCast_inj.1 hcount, anonymousBlock_eq_of_canonical _ _ hi hbody]
      | _ => exact absurd hkind (by simp [Instruction.kind])
  | .repeatWhile predicate body =>
      cases j with
      | repeatWhile predicate' body' =>
          have hpredicate : predicate.document.canonical = predicate'.document.canonical := by
            simpa [Instruction.document, Value.valuesAt] using hfield "predicate"
          have hbody : Value.canonicalList (itemDocuments body)
              = Value.canonicalList (itemDocuments body') := by
            simpa [Instruction.document, Value.valuesAt, Value.canonical] using hfield "body"
          simp only [Instruction.anonymous]
          rw [Predicate.anonymous_eq_of_canonical hpredicate,
            anonymousBlock_eq_of_canonical _ _ hi hbody]
      | _ => exact absurd hkind (by simp [Instruction.kind])
  | .parallel branches =>
      cases j with
      | parallel branches' =>
          have hbranches : Value.canonicalList (branchDocuments branches)
              = Value.canonicalList (branchDocuments branches') := by
            simpa [Instruction.document, Value.valuesAt, Value.canonical] using hfield "branches"
          simp only [Instruction.anonymous]
          rw [anonymousBranches_eq_of_canonical _ _ hi hbranches]
      | _ => exact absurd hkind (by simp [Instruction.kind])
  | .foreign item => exact absurd hi (by simp [Instruction.foreign?])
  | .move .. | .turn _ | .sense .. | .actuate .. | .wait _ | .log _ | .halt =>
      exact absurd rfl hsimple

/-- The documents of a block tell all but its anonymous predicates. -/
theorem anonymousBlock_eq_of_canonical (is js : List Instruction) (hi : foreignIn? is = none)
    (h : Value.canonicalList (itemDocuments is) = Value.canonicalList (itemDocuments js)) :
    anonymousBlock is = anonymousBlock js := by
  match is with
  | [] =>
      cases js with
      | nil => rfl
      | cons j js => simp [itemDocuments, Value.canonicalList] at h
  | i :: is =>
      cases js with
      | nil => simp [itemDocuments, Value.canonicalList] at h
      | cons j js =>
          obtain ⟨hhead, htail⟩ := Option.or_eq_none_iff.1 hi
          simp only [itemDocuments, Value.canonicalList] at h
          obtain ⟨hdocument, hdocuments⟩ := List.cons.inj h
          simp only [anonymousBlock]
          rw [Instruction.anonymous_eq_of_canonical i j hhead hdocument,
            anonymousBlock_eq_of_canonical is js htail hdocuments]

/-- The documents of branches tell all but their anonymous predicates. -/
theorem anonymousBranches_eq_of_canonical (bs cs : List (List Instruction))
    (hb : foreignAmong? bs = none)
    (h : Value.canonicalList (branchDocuments bs) = Value.canonicalList (branchDocuments cs)) :
    anonymousBranches bs = anonymousBranches cs := by
  match bs with
  | [] =>
      cases cs with
      | nil => rfl
      | cons c cs => simp [branchDocuments, Value.canonicalList] at h
  | b :: bs =>
      cases cs with
      | nil => simp [branchDocuments, Value.canonicalList] at h
      | cons c cs =>
          obtain ⟨hhead, htail⟩ := Option.or_eq_none_iff.1 hb
          simp only [branchDocuments, Value.canonicalList, Value.canonical] at h
          obtain ⟨hlist, hdocuments⟩ := List.cons.inj h
          simp only [anonymousBranches]
          rw [anonymousBlock_eq_of_canonical b c hhead (Value.list.inj hlist),
            anonymousBranches_eq_of_canonical bs cs htail hdocuments]

end

/-! ### The text that is hashed -/

/-- A program without foreign items has a nameless document. -/
theorem Program.namelessDocument_eq_ok {p : Program} (h : foreignIn? p.instructions = none) :
    p.namelessDocument = .ok (.object [("coconut_version", .string documentVersion),
      ("instructions", .list (itemDocuments p.instructions))]) := by
  simp only [namelessDocument, tree, h]
  rfl

/-- **The text that is hashed identifies the instructions of a program and nothing else:** two programs
without foreign items have the same text exactly if their instructions are equal, except that
predicates that are no thresholds all count as one. -/
theorem Program.hashedText_eq_iff {p q : Program} (hp : foreignIn? p.instructions = none)
    (hq : foreignIn? q.instructions = none) :
    ∃ v w, p.namelessDocument = .ok v ∧ q.namelessDocument = .ok w
      ∧ p.digest = .ok (Sha256.hex v.canonicalText) ∧ q.digest = .ok (Sha256.hex w.canonicalText)
      ∧ (v.canonicalText = w.canonicalText
        ↔ anonymousBlock p.instructions = anonymousBlock q.instructions) := by
  have hpdocument := namelessDocument_eq_ok hp
  have hqdocument := namelessDocument_eq_ok hq
  refine ⟨_, _, hpdocument, hqdocument, ?_, ?_, ?_⟩
  · rw [digest, hpdocument]
    rfl
  · rw [digest, hqdocument]
    rfl
  · rw [Value.canonicalText_inj]
    constructor
    · intro h
      have hinstructions : Value.canonicalList (itemDocuments p.instructions)
          = Value.canonicalList (itemDocuments q.instructions) := by
        simpa [Value.valuesAt, Value.canonical] using Value.valuesAt_perm h "instructions"
      exact anonymousBlock_eq_of_canonical _ _ hp hinstructions
    · intro h
      have hdocuments := congrArg itemDocuments h
      rw [itemDocuments_anonymous, itemDocuments_anonymous] at hdocuments
      rw [hdocuments]

/-- Two programs that differ in their names and in one predicate without a document have the same text,
and a third one has another: it has the number `5.0` in the place of `5`. -/
theorem Program.hashedText_eq_iff_patrol :
    let body : Number → List Instruction := fun degrees => [.turn degrees, .parallel [[.halt], []]]
    let p : Program := ⟨"patrol", [.cond (.external 3) (body (.int 5)) [.log "é"]]⟩
    let q : Program := ⟨"guard", [.cond .leftBrighter (body (.int 5)) [.log "é"]]⟩
    let r : Program := ⟨"patrol", [.cond (.external 3) (body (.float (.ofNat 5))) [.log "é"]]⟩
    (foreignIn? p.instructions = none ∧ foreignIn? q.instructions = none
        ∧ foreignIn? r.instructions = none)
      ∧ (∃ v w, p.namelessDocument = .ok v ∧ q.namelessDocument = .ok w
        ∧ v.canonicalText = w.canonicalText)
      ∧ ∃ v w, p.namelessDocument = .ok v ∧ r.namelessDocument = .ok w
        ∧ v.canonicalText ≠ w.canonicalText := by
  intro body p q r
  refine ⟨⟨rfl, rfl, rfl⟩, ?_, ?_⟩
  · obtain ⟨v, w, hv, hw, _, _, hiff⟩ := @hashedText_eq_iff p q rfl rfl
    refine ⟨v, w, hv, hw, hiff.2 ?_⟩
    simp [p, q, anonymousBlock, Instruction.anonymous, Predicate.anonymous]
  · obtain ⟨v, w, hv, hw, _, _, hiff⟩ := @hashedText_eq_iff p r rfl rfl
    refine ⟨v, w, hv, hw, fun htext => ?_⟩
    have h := hiff.1 htext
    simp [p, r, body, anonymousBlock, Instruction.anonymous] at h

end RobotShorthand
