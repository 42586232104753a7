/-
**Brackets around code, and the limit to their nesting.**

A bracket holds the reading of the code inside it, and that code may be anything.  In a loop it need only
close the square brackets that it opens and not run into the count; in a conditional the branches need
only close the braces that they open and have no colon.  What the code inside means, and what is reported
of it, is what it would mean and report by itself one level deeper.

Brackets beyond the greatest depth are skipped.  Compared with reading that knows no such limit, skipping
has one effect: the loops and conditionals below the limit are missing from the tree, with everything in
them.  It cannot have another, since a bracket ends where it ends whether its code is read or not, and a
malformed conditional gives no instruction on either side of the limit.

Main definitions:

* `pruneBlock` — **a tree without the loops and conditionals below some levels of them;**
* `Reading.IsWithinLimit` — readings that report no bracket beyond the limit;
* `LeavesRoom` — limits that leave a number of levels or more.

Main results:

* `readAt_loop`, `readAt_conditional` — the two brackets at a depth below the limit;
* `readAt_brackets` — **a bracket holds what its code is read as;**
* `instructions_read_some` — reading with some levels left prunes the tree that is read without a limit;
* `read_of_isWithinLimit` — where no bracket is beyond the limit, more levels change nothing;
* `readAt_eq_prune` — **the limit prunes and does nothing else.**
-/

import RobotShorthand.Proofs.Dense.Accounting

set_option relaxedAutoImplicit false
set_option autoImplicit false

namespace RobotShorthand

namespace Dense

/-! ### Code in brackets -/

section Brackets

variable {depth : Int}

/-- Below the greatest depth there is a level more than one level deeper. -/
theorem roomAt_of_lt (h : depth < maxNesting) : roomAt depth = roomAt (depth + 1) + 1 := by
  unfold roomAt
  omega

theorem atLeastOne_eq (n : Int) : atLeastOne n = (max n 1).toNat := by
  unfold atLeastOne
  omega

theorem instructions_readAt (depth position : Int) (cs : List Char) :
    (readAt depth position cs).instructions = (readAt depth 0 cs).instructions :=
  instructions_read _ position cs

/-- A loop below the greatest depth. -/
theorem readAt_loop (hdepth : depth < maxNesting) (position : Int) (rest : List Char) {n : Int}
    {body : List Char} (hn : isInt32 n = true) (hbody : EndsLiteral body)
    (hbalanced : Balanced '[' ']' body) :
    readAt depth position ('[' :: (Text.decimal n ++ body ++ ']' :: rest)) =
      ⟨.loop (max n 1).toNat (readAt (depth + 1) 0 body).instructions
          :: (readAt depth 0 rest).instructions,
        (readAt (depth + 1) (position + 1 + (Text.decimal n).length) body).diagnostics
          ++ (readAt depth (position + (Text.decimal n ++ body).length + 2) rest).diagnostics⟩ := by
  have hread := @read_loop_decimal position (roomAt (depth + 1)) n body rest hn hbody hbalanced
  rw [← roomAt_of_lt hdepth] at hread
  rw [← atLeastOne_eq,
    ← instructions_readAt (depth + 1) (position + 1 + (Text.decimal n).length) body,
    ← instructions_readAt depth (position + (Text.decimal n ++ body).length + 2) rest]
  exact hread

/-- A conditional below the greatest depth. -/
theorem readAt_conditional (hdepth : depth < maxNesting) (position : Int) (rest : List Char) {t : Int}
    {a b : List Char} (ht : isInt32 t = true) (ha : ':' ∉ a) (hb : ':' ∉ b)
    (hne : ¬ (a = [] ∧ b = [])) (hbalanced : Balanced '{' '}' (a ++ ':' :: b)) :
    readAt depth position ('{' :: (Text.decimal t ++ ':' :: (a ++ ':' :: b) ++ '}' :: rest)) =
      ⟨.cond (.threshold ⟨"s0", .int t, .above⟩) (readAt (depth + 1) 0 a).instructions
          (readAt (depth + 1) 0 b).instructions :: (readAt depth 0 rest).instructions,
        (readAt (depth + 1) (position + 1 + (Text.decimal t).length + 1) a).diagnostics
          ++ (readAt (depth + 1) (position + 1 + (Text.decimal t).length + 1 + a.length + 1)
              b).diagnostics
          ++ (readAt depth (position + (Text.decimal t ++ ':' :: (a ++ ':' :: b)).length + 2)
              rest).diagnostics⟩ := by
  have hread :=
    @read_conditional_decimal position (roomAt (depth + 1)) t a b rest ht ha hb hne hbalanced
  rw [← roomAt_of_lt hdepth] at hread
  rw [← instructions_readAt (depth + 1) (position + 1 + (Text.decimal t).length + 1) a,
    ← instructions_readAt (depth + 1) (position + 1 + (Text.decimal t).length + 1 + a.length + 1) b,
    ← instructions_readAt depth (position + (Text.decimal t ++ ':' :: (a ++ ':' :: b)).length + 2)
      rest]
  exact hread

/-- **A bracket holds what its code is read as.**  A loop with a decimal count holds its body, and a
conditional with a decimal threshold its branches, read by themselves one level deeper; what follows is
read by itself at the same depth.  The problems are those of the parts where they stand, in order.
Nothing is asked of the code but what keeps the count, the branches and the closer apart. -/
theorem readAt_brackets (hdepth : depth < maxNesting) (position : Int) (rest : List Char) :
    (∀ (n : Int) (body : List Char),
      isInt32 n = true → EndsLiteral body → Balanced '[' ']' body →
      readAt depth position ('[' :: (Text.decimal n ++ body ++ ']' :: rest)) =
        ⟨.loop (max n 1).toNat (readAt (depth + 1) 0 body).instructions
            :: (readAt depth 0 rest).instructions,
          (readAt (depth + 1) (position + 1 + (Text.decimal n).length) body).diagnostics
            ++ (readAt depth (position + (Text.decimal n ++ body).length + 2) rest).diagnostics⟩)
      ∧ ∀ (t : Int) (a b : List Char),
        isInt32 t = true → ':' ∉ a → ':' ∉ b → ¬ (a = [] ∧ b = []) →
        Balanced '{' '}' (a ++ ':' :: b) →
        readAt depth position ('{' :: (Text.decimal t ++ ':' :: (a ++ ':' :: b) ++ '}' :: rest)) =
          ⟨.cond (.threshold ⟨"s0", .int t, .above⟩) (readAt (depth + 1) 0 a).instructions
              (readAt (depth + 1) 0 b).instructions :: (readAt depth 0 rest).instructions,
            (readAt (depth + 1) (position + 1 + (Text.decimal t).length + 1) a).diagnostics
              ++ (readAt (depth + 1) (position + 1 + (Text.decimal t).length + 1 + a.length + 1)
                  b).diagnostics
              ++ (readAt depth (position + (Text.decimal t ++ ':' :: (a ++ ':' :: b)).length + 2)
                  rest).diagnostics⟩ :=
  ⟨fun _ _ hn hbody hbalanced => readAt_loop hdepth position rest hn hbody hbalanced,
    fun _ _ _ ht ha hb hne hbalanced =>
      readAt_conditional hdepth position rest ht ha hb hne hbalanced⟩

/-- Code with a quote that is never closed, and with a bracket that closes nothing: both stay inside the
bracket around them. -/
theorem readAt_brackets_open_quote :
    let body := ['@', '[', '}', '"', ']']
    let a := ['{', '"']
    let b := ['}']
    ((98 : Int) < maxNesting
        ∧ (isInt32 (-2) = true ∧ EndsLiteral body ∧ Balanced '[' ']' body)
        ∧ isInt32 (-5) = true ∧ ':' ∉ a ∧ ':' ∉ b ∧ ¬ (a = [] ∧ b = [])
        ∧ Balanced '{' '}' (a ++ ':' :: b))
      ∧ readAt 98 3 ('[' :: '-' :: '2' :: (body ++ [']', '#']))
        = ⟨[.loop 1 [.turn (.int 0), .loop 1 []], .halt],
            [⟨8, .unmatchedCloser '}'⟩, ⟨9, .unclosedMessage⟩]⟩
      ∧ readAt 98 3 ('{' :: '-' :: '5' :: ':' :: (a ++ ':' :: (b ++ ['}', '>', '1'])))
        = ⟨[.cond (.threshold ⟨"s0", .int (-5), .above⟩) [] [], .move .forward 1],
            [⟨7, .unclosedConditional⟩, ⟨8, .malformedConditional ['"']⟩,
              ⟨10, .unmatchedCloser '}'⟩]⟩ := by
  intro body a b
  have hdepth : (98 : Int) < maxNesting := by decide
  have hends : EndsLiteral body := endsLiteral_cons (by decide)
  have hloop : enclosedBy '[' ']' (body ++ [']']) = ⟨body, some []⟩ := rfl
  have hcond : enclosedBy '{' '}' (a ++ ':' :: b ++ ['}']) = ⟨a ++ ':' :: b, some []⟩ := rfl
  have hbody := ((enclosedBy_eq_some_iff (by decide)).1 hloop).2
  have hbranches := ((enclosedBy_eq_some_iff (by decide)).1 hcond).2
  refine ⟨⟨hdepth, ⟨by decide, hends, hbody⟩, by decide, by decide, by decide, by decide,
    hbranches⟩, ?_, ?_⟩
  · refine ((readAt_brackets hdepth 3 ['#']).1 (-2) body (by decide) hends hbody).trans ?_
    with_unfolding_all rfl
  · refine ((readAt_brackets hdepth 3 ['>', '1']).2 (-5) a b (by decide) (by decide) (by decide)
      (by decide) hbranches).trans ?_
    with_unfolding_all rfl

end Brackets

/-! ### Trees without what is too deep -/

mutual

/-- What is left of an instruction when no more than `levels` loops and conditionals may stand around
each other. -/
def pruneInstruction (levels : Nat) : Instruction → List Instruction
  | .cond predicate thenBranch elseBranch =>
      match levels with
      | 0 => []
      | levels + 1 => [.cond predicate (pruneBlock levels thenBranch) (pruneBlock levels elseBranch)]
  | .loop count body =>
      match levels with
      | 0 => []
      | levels + 1 => [.loop count (pruneBlock levels body)]
  | .repeatWhile predicate body => [.repeatWhile predicate (pruneBlock levels body)]
  | .parallel branches => [.parallel (pruneBranches levels branches)]
  | i => [i]

/-- **A block without the loops and conditionals below `levels` of them,** with all else in place. -/
def pruneBlock (levels : Nat) : List Instruction → List Instruction
  | [] => []
  | i :: is => pruneInstruction levels i ++ pruneBlock levels is

/-- Several blocks without what is too deep. -/
def pruneBranches (levels : Nat) : List (List Instruction) → List (List Instruction)
  | [] => []
  | b :: bs => pruneBlock levels b :: pruneBranches levels bs

end

theorem pruneBlock_append (levels : Nat) (is js : List Instruction) :
    pruneBlock levels (is ++ js) = pruneBlock levels is ++ pruneBlock levels js := by
  induction is with
  | nil => rfl
  | cons i is ih => rw [List.cons_append, pruneBlock, pruneBlock, ih, List.append_assoc]

theorem pruneBlock_singleton (levels : Nat) (i : Instruction) :
    pruneBlock levels [i] = pruneInstruction levels i := List.append_nil _

/-- The instructions with a literal behind their symbol have no body. -/
theorem pruneInstruction_operand (levels : Nat) (c : Char) (n : Int) :
    pruneInstruction levels (operandInstruction c n) = [operandInstruction c n] := by
  unfold operandInstruction
  cases Symbol.ofChar c <;> rfl

/-- The instructions of a character by itself have no body. -/
theorem pruneBlock_singleReading (levels : Nat) (position : Int) (c : Char) :
    pruneBlock levels (singleReading position c).instructions
      = (singleReading position c).instructions := by
  unfold singleReading
  cases Symbol.ofChar c <;> rfl

section Pruning

variable {inner : List Char}

theorem noRoom_none : noRoom none = false := rfl

theorem noRoom_succ (levels : Nat) : noRoom (some (levels + 1)) = false := by simp [noRoom]

theorem oneLess_succ (levels : Nat) : oneLess (some (levels + 1)) = some levels := rfl

theorem oneLess_none : oneLess none = none := rfl

/-- Without a level left a loop bracket is skipped. -/
theorem readLoop_none_left (position : Int) :
    readLoop (some 0) position inner = .problem position .tooDeep := if_pos rfl

/-- Without a level left a conditional bracket is skipped. -/
theorem readConditional_none_left (position : Int) :
    readConditional (some 0) position inner = .problem position .tooDeep := if_pos rfl

/-- The one instruction of a loop bracket that is not skipped. -/
theorem instructions_readLoop {room : Option Nat} (hroom : noRoom room = false) (position : Int) :
    (readLoop room position inner).instructions
      = [.loop (atLeastOne (Literal.scan inner).value)
          (read (oneLess room) 0 (inner.drop (Literal.scan inner).length)).instructions] := by
  rw [readLoop, if_neg (by simp [hroom])]
  simp only [Reading.instructions_append, instructions_reading, List.nil_append]
  rw [instructions_read]

/-- The instruction of a conditional bracket that is not skipped, if it has its parts. -/
theorem instructions_readConditional {room : Option Nat} (hroom : noRoom room = false)
    (position : Int) :
    (readConditional room position inner).instructions
      = match Conditional.ofText? inner with
        | none => []
        | some parts =>
            [.cond (conditionOf ((thresholdOf? parts.threshold).getD defaultThreshold))
              (read (oneLess room) 0 parts.thenBranch).instructions
              (read (oneLess room) 0 parts.elseBranch).instructions] := by
  rw [readConditional, if_neg (by simp [hroom])]
  cases Conditional.ofText? inner with
  | none => rfl
  | some parts =>
      simp only [Reading.instructions_append, instructions_problemIf, List.nil_append]
      rw [instructions_read, instructions_read _ _ parts.elseBranch]

/-- A loop bracket gives its loop without what is too deep in it, or nothing at all. -/
theorem instructions_readLoop_some
    (hbody : ∀ levels position,
      (read (some levels) position (inner.drop (Literal.scan inner).length)).instructions
        = pruneBlock levels
            (read none position (inner.drop (Literal.scan inner).length)).instructions)
    (levels : Nat) (position : Int) :
    (readLoop (some levels) position inner).instructions
      = pruneBlock levels (readLoop none position inner).instructions := by
  rw [instructions_readLoop noRoom_none, pruneBlock_singleton]
  cases levels with
  | zero =>
      rw [readLoop_none_left]
      rfl
  | succ levels =>
      rw [instructions_readLoop (noRoom_succ levels), pruneInstruction, oneLess_succ, oneLess_none,
        hbody]

/-- A conditional bracket gives its conditional without what is too deep in it, or nothing at all. -/
theorem instructions_readConditional_some
    (hbranches : ∀ parts, Conditional.ofText? inner = some parts →
      (∀ levels position, (read (some levels) position parts.thenBranch).instructions
          = pruneBlock levels (read none position parts.thenBranch).instructions)
        ∧ ∀ levels position, (read (some levels) position parts.elseBranch).instructions
          = pruneBlock levels (read none position parts.elseBranch).instructions)
    (levels : Nat) (position : Int) :
    (readConditional (some levels) position inner).instructions
      = pruneBlock levels (readConditional none position inner).instructions := by
  rw [instructions_readConditional noRoom_none]
  cases levels with
  | zero =>
      rw [readConditional_none_left]
      cases Conditional.ofText? inner <;> rfl
  | succ levels =>
      rw [instructions_readConditional (noRoom_succ levels)]
      cases hparts : Conditional.ofText? inner with
      | none => rfl
      | some parts =>
          obtain ⟨hthen, helse⟩ := hbranches parts hparts
          rw [pruneBlock_singleton, pruneInstruction, oneLess_succ, oneLess_none]
          simp only [hthen, helse]

/-- **Reading with some levels left prunes the tree that is read without a limit.** -/
theorem instructions_read_some (cs : List Char) (levels : Nat) (position : Int) :
    (read (some levels) position cs).instructions
      = pruneBlock levels (read none position cs).instructions := by
  induction cs using item_induction generalizing levels position with
  | nil =>
      rw [read_nil, read_nil]
      rfl
  | operand c cs hc ih =>
      rw [read_operand hc, read_operand hc]
      simp only [Reading.instructions_append, instructions_reading, instructions_instruction,
        List.nil_append, List.singleton_append, pruneBlock, pruneInstruction_operand, ih]
  | actuate cs ih =>
      rw [read_actuate rfl, read_actuate rfl, actuatorDigit_snd]
      simp only [Reading.instructions_append, instructions_reading, instructions_instruction,
        List.nil_append, List.singleton_append, pruneBlock, ih]
      rfl
  | loop inner rest hb ihBody ih =>
      rw [read_loop_balanced hb, read_loop_balanced hb]
      simp only [Reading.instructions_append, pruneBlock_append, instructions_readLoop_some ihBody, ih]
  | openLoop cs hopen ihBody =>
      rw [read_openLoop hopen, read_openLoop hopen]
      exact instructions_readLoop_some ihBody levels position
  | conditional inner rest hb ihBranches ih =>
      rw [read_conditional_balanced hb, read_conditional_balanced hb]
      simp only [Reading.instructions_append, pruneBlock_append,
        instructions_readConditional_some ihBranches, ih]
  | openConditional cs hopen ihBranches =>
      rw [read_openConditional hopen, read_openConditional hopen]
      exact instructions_readConditional_some ihBranches levels position
  | message text rest ht ih =>
      rw [read_message_closed ht, read_message_closed ht]
      simp only [Reading.instructions_append, instructions_instruction, List.singleton_append,
        pruneBlock, ih]
      rfl
  | openMessage cs hq ih =>
      rw [read_openMessage hq, read_openMessage hq]
      exact ih levels (position + 1)
  | single c cs hc ih =>
      rw [read_single hc, read_single hc]
      simp only [Reading.instructions_append, pruneBlock_append, pruneBlock_singleReading, ih]

end Pruning

/-! ### Readings within the limit -/

namespace Reading

/-- A reading that reports no bracket beyond the greatest depth. -/
def IsWithinLimit (r : Reading) : Prop :=
  ∀ d ∈ r.diagnostics, d.problem.kind ≠ "NestingTooDeep"

theorem isWithinLimit_append {r s : Reading} :
    (r ++ s).IsWithinLimit ↔ r.IsWithinLimit ∧ s.IsWithinLimit := List.forall_mem_append

theorem isWithinLimit_problem {position : Int} {p : Problem} :
    (problem position p).IsWithinLimit ↔ p.kind ≠ "NestingTooDeep" := by
  simp [IsWithinLimit, problem]

/-- A bracket that is skipped is beyond the limit. -/
theorem not_isWithinLimit_tooDeep (position : Int) :
    ¬ (problem position .tooDeep).IsWithinLimit := fun h => isWithinLimit_problem.1 h rfl

theorem isWithinLimit_empty : empty.IsWithinLimit := fun _ hd => absurd hd List.not_mem_nil

theorem isWithinLimit_instruction (i : Instruction) : (instruction i).IsWithinLimit :=
  isWithinLimit_empty

theorem isWithinLimit_problemIf {p : Problem} (h : p.kind ≠ "NestingTooDeep") (condition : Bool)
    (position : Int) : (problemIf condition position p).IsWithinLimit := by
  cases condition with
  | true => exact isWithinLimit_problem.2 h
  | false => exact isWithinLimit_empty

end Reading

/-- A limit that leaves `levels` levels for brackets or more of them, as no limit does. -/
def LeavesRoom (levels : Nat) (room : Option Nat) : Prop := ∀ n ∈ room, levels ≤ n

theorem LeavesRoom.oneLess {levels : Nat} {room : Option Nat} (h : LeavesRoom (levels + 1) room) :
    LeavesRoom levels (oneLess room) := by
  intro n hn
  obtain ⟨m, hm, rfl⟩ := Option.map_eq_some_iff.1 hn
  have hle := h m hm
  omega

theorem LeavesRoom.noRoom {levels : Nat} {room : Option Nat} (h : LeavesRoom (levels + 1) room) :
    noRoom room = false := by
  cases room with
  | none => rfl
  | some n =>
      have hle := h n rfl
      simp only [Dense.noRoom, beq_eq_false_iff_ne, ne_eq, Option.some.injEq]
      omega

section Limits

variable {inner : List Char}

theorem readLoop_of_isWithinLimit
    (hbody : ∀ levels room position, LeavesRoom levels room →
      (read (some levels) position (inner.drop (Literal.scan inner).length)).IsWithinLimit →
      read room position (inner.drop (Literal.scan inner).length)
        = read (some levels) position (inner.drop (Literal.scan inner).length))
    {levels : Nat} {room : Option Nat} {position : Int} (hroom : LeavesRoom levels room)
    (h : (readLoop (some levels) position inner).IsWithinLimit) :
    readLoop room position inner = readLoop (some levels) position inner := by
  cases levels with
  | zero =>
      rw [readLoop_none_left] at h
      exact absurd h (Reading.not_isWithinLimit_tooDeep position)
  | succ levels =>
      unfold readLoop at h ⊢
      have hinside := (Reading.isWithinLimit_append.1 h).2
      simp only [hroom.noRoom, hbody levels (oneLess room) _ hroom.oneLess hinside]
      rfl

theorem readConditional_of_isWithinLimit
    (hbranches : ∀ parts, Conditional.ofText? inner = some parts →
      (∀ levels room position, LeavesRoom levels room →
          (read (some levels) position parts.thenBranch).IsWithinLimit →
          read room position parts.thenBranch = read (some levels) position parts.thenBranch)
        ∧ ∀ levels room position, LeavesRoom levels room →
          (read (some levels) position parts.elseBranch).IsWithinLimit →
          read room position parts.elseBranch = read (some levels) position parts.elseBranch)
    {levels : Nat} {room : Option Nat} {position : Int} (hroom : LeavesRoom levels room)
    (h : (readConditional (some levels) position inner).IsWithinLimit) :
    readConditional room position inner = readConditional (some levels) position inner := by
  cases levels with
  | zero =>
      rw [readConditional_none_left] at h
      exact absurd h (Reading.not_isWithinLimit_tooDeep position)
  | succ levels =>
      unfold readConditional at h ⊢
      rw [hroom.noRoom]
      cases hparts : Conditional.ofText? inner with
      | none => rfl
      | some parts =>
          rw [hparts] at h
          obtain ⟨hthen, helse⟩ := hbranches parts hparts
          obtain ⟨ha, hb⟩ := List.forall_mem_append.1 (Reading.isWithinLimit_append.1 h).2
          simp only [hthen levels (oneLess room) _ hroom.oneLess ha,
            helse levels (oneLess room) _ hroom.oneLess hb]
          rfl

/-- **Where no bracket is beyond the limit, more levels change nothing,** and no limit at all changes
nothing. -/
theorem read_of_isWithinLimit {cs : List Char} {levels : Nat} {room : Option Nat} {position : Int}
    (hroom : LeavesRoom levels room) (h : (read (some levels) position cs).IsWithinLimit) :
    read room position cs = read (some levels) position cs := by
  induction cs using item_induction generalizing levels room position with
  | nil => rw [read_nil, read_nil]
  | operand c cs hc ih =>
      rw [read_operand hc] at h ⊢
      rw [read_operand hc, ih hroom (Reading.isWithinLimit_append.1 h).2]
  | actuate cs ih =>
      rw [read_actuate rfl, actuatorDigit_snd] at h ⊢
      rw [read_actuate rfl, actuatorDigit_snd, ih hroom (Reading.isWithinLimit_append.1 h).2]
  | loop inner rest hb ihBody ih =>
      rw [read_loop_balanced hb] at h ⊢
      obtain ⟨hloop, hrest⟩ := Reading.isWithinLimit_append.1 h
      rw [read_loop_balanced hb, ih hroom hrest,
        readLoop_of_isWithinLimit (fun _ _ _ => ihBody) hroom hloop]
  | openLoop cs hopen ihBody =>
      rw [read_openLoop hopen] at h ⊢
      rw [read_openLoop hopen, readLoop_of_isWithinLimit (fun _ _ _ => ihBody) hroom
        (Reading.isWithinLimit_append.1 h).2]
  | conditional inner rest hb ihBranches ih =>
      rw [read_conditional_balanced hb] at h ⊢
      obtain ⟨hcond, hrest⟩ := Reading.isWithinLimit_append.1 h
      rw [read_conditional_balanced hb, ih hroom hrest,
        readConditional_of_isWithinLimit
          (fun parts hparts => ⟨fun _ _ _ => (ihBranches parts hparts).1,
            fun _ _ _ => (ihBranches parts hparts).2⟩) hroom hcond]
  | openConditional cs hopen ihBranches =>
      rw [read_openConditional hopen] at h ⊢
      rw [read_openConditional hopen,
        readConditional_of_isWithinLimit
          (fun parts hparts => ⟨fun _ _ _ => (ihBranches parts hparts).1,
            fun _ _ _ => (ihBranches parts hparts).2⟩) hroom
          (Reading.isWithinLimit_append.1 h).2]
  | message text rest ht ih =>
      rw [read_message_closed ht] at h ⊢
      rw [read_message_closed ht, ih hroom (Reading.isWithinLimit_append.1 h).2]
  | openMessage cs hq ih =>
      rw [read_openMessage hq] at h ⊢
      rw [read_openMessage hq, ih hroom (Reading.isWithinLimit_append.1 h).2]
  | single c cs hc ih =>
      rw [read_single hc] at h ⊢
      rw [read_single hc, ih hroom (Reading.isWithinLimit_append.1 h).2]

theorem isWithinLimit_reading (l : Literal) (position : Int) : (l.reading position).IsWithinLimit :=
  Reading.isWithinLimit_problemIf (by simp [Problem.kind]) _ _

theorem isWithinLimit_singleReading (position : Int) (c : Char) :
    (singleReading position c).IsWithinLimit := by
  unfold singleReading
  cases Symbol.ofChar c with
  | closer => exact Reading.isWithinLimit_problem.2 (by simp [Problem.kind])
  | unknown => exact Reading.isWithinLimit_problem.2 (by simp [Problem.kind])
  | _ => exact Reading.isWithinLimit_empty

theorem isWithinLimit_readLoop_none
    (hbody : ∀ position,
      (read none position (inner.drop (Literal.scan inner).length)).IsWithinLimit)
    (position : Int) : (readLoop none position inner).IsWithinLimit := by
  rw [readLoop, if_neg (by simp [noRoom_none]), Reading.isWithinLimit_append]
  exact ⟨isWithinLimit_reading _ _, hbody _⟩

theorem isWithinLimit_readConditional_none
    (hbranches : ∀ parts, Conditional.ofText? inner = some parts →
      (∀ position, (read none position parts.thenBranch).IsWithinLimit)
        ∧ ∀ position, (read none position parts.elseBranch).IsWithinLimit)
    (position : Int) : (readConditional none position inner).IsWithinLimit := by
  rw [readConditional, if_neg (by simp [noRoom_none])]
  cases hparts : Conditional.ofText? inner with
  | none => exact Reading.isWithinLimit_problem.2 (by simp [Problem.kind])
  | some parts =>
      obtain ⟨hthen, helse⟩ := hbranches parts hparts
      exact Reading.isWithinLimit_append.2
        ⟨Reading.isWithinLimit_problemIf (by simp [Problem.kind]) _ _,
          List.forall_mem_append.2 ⟨hthen _, helse _⟩⟩

/-- Reading without a limit finds no bracket beyond it. -/
theorem isWithinLimit_read_none (cs : List Char) (position : Int) :
    (read none position cs).IsWithinLimit := by
  induction cs using item_induction generalizing position with
  | nil =>
      rw [read_nil]
      exact Reading.isWithinLimit_empty
  | operand c cs hc ih =>
      rw [read_operand hc]
      simp only [Reading.isWithinLimit_append]
      exact ⟨⟨isWithinLimit_reading _ _, Reading.isWithinLimit_instruction _⟩, ih _⟩
  | actuate cs ih =>
      rw [read_actuate rfl, actuatorDigit_snd]
      simp only [Reading.isWithinLimit_append]
      exact ⟨⟨isWithinLimit_reading _ _, Reading.isWithinLimit_instruction _⟩, ih _⟩
  | loop inner rest hb ihBody ih =>
      rw [read_loop_balanced hb, Reading.isWithinLimit_append]
      exact ⟨isWithinLimit_readLoop_none ihBody _, ih _⟩
  | openLoop cs hopen ihBody =>
      rw [read_openLoop hopen, Reading.isWithinLimit_append]
      exact ⟨Reading.isWithinLimit_problem.2 (by simp [Problem.kind]),
        isWithinLimit_readLoop_none ihBody _⟩
  | conditional inner rest hb ihBranches ih =>
      rw [read_conditional_balanced hb, Reading.isWithinLimit_append]
      exact ⟨isWithinLimit_readConditional_none ihBranches _, ih _⟩
  | openConditional cs hopen ihBranches =>
      rw [read_openConditional hopen, Reading.isWithinLimit_append]
      exact ⟨Reading.isWithinLimit_problem.2 (by simp [Problem.kind]),
        isWithinLimit_readConditional_none ihBranches _⟩
  | message text rest ht ih =>
      rw [read_message_closed ht, Reading.isWithinLimit_append]
      exact ⟨Reading.isWithinLimit_instruction _, ih _⟩
  | openMessage cs hq ih =>
      rw [read_openMessage hq, Reading.isWithinLimit_append]
      exact ⟨Reading.isWithinLimit_problem.2 (by simp [Problem.kind]), ih _⟩
  | single c cs hc ih =>
      rw [read_single hc, Reading.isWithinLimit_append]
      exact ⟨isWithinLimit_singleReading _ _, ih _⟩

end Limits

/-- **The limit prunes and does nothing else.**  What is read at a depth is the tree that is read without
a limit, less the loops and conditionals beyond it.  Just where none is reported to be beyond it, all is
read as without a limit, problems included; and then all is read so at any lesser depth as well. -/
theorem readAt_eq_prune (depth : Nat) (position : Int) (cs : List Char) :
    (readAt depth position cs).instructions
        = pruneBlock (maxNesting - depth) (read none position cs).instructions
      ∧ ((readAt depth position cs).IsWithinLimit
        ↔ readAt depth position cs = read none position cs)
      ∧ ((readAt depth position cs).IsWithinLimit → ∀ lesser ≤ depth,
        readAt lesser position cs = readAt depth position cs) := by
  have hlevels : roomAt depth = maxNesting - depth := by
    unfold roomAt
    omega
  refine ⟨?_, ⟨fun h => ?_, fun h => ?_⟩, fun h lesser hle => ?_⟩
  · rw [readAt, hlevels]
    exact instructions_read_some cs (maxNesting - depth) position
  · exact (read_of_isWithinLimit (fun _ hn => absurd hn (by simp)) h).symm
  · rw [h]
    exact isWithinLimit_read_none cs position
  · refine read_of_isWithinLimit (fun n hn => ?_) h
    obtain rfl := Option.some.inj hn
    unfold roomAt
    omega

/-- A loop in a loop fits where two levels are left, and loses the inner one where one is. -/
theorem readAt_eq_prune_inner_loop :
    (readAt (98 : Nat) 0 "[2>1[3<4]@9]".toList).IsWithinLimit
      ∧ readAt (7 : Nat) 0 "[2>1[3<4]@9]".toList = readAt (98 : Nat) 0 "[2>1[3<4]@9]".toList
      ∧ (readAt (99 : Nat) 0 "[2>1[3<4]@9]".toList).instructions
        = [.loop 2 [.move .forward 1, .turn (.int 9)]]
      ∧ ¬ (readAt (99 : Nat) 0 "[2>1[3<4]@9]".toList).IsWithinLimit := by
  have hwithin : (readAt (98 : Nat) 0 "[2>1[3<4]@9]".toList).IsWithinLimit := by
    unfold Reading.IsWithinLimit
    decide +kernel
  have hread : (read none 0 "[2>1[3<4]@9]".toList).instructions
      = [.loop 2 [.move .forward 1, .loop 3 [.move .backward 4], .turn (.int 9)]] := by
    with_unfolding_all rfl
  refine ⟨hwithin, (readAt_eq_prune 98 0 _).2.2 hwithin 7 (by decide), ?_, ?_⟩
  · rw [(readAt_eq_prune 99 0 _).1, hread]
    rfl
  · unfold Reading.IsWithinLimit
    decide +kernel

end Dense

end RobotShorthand
