/-
**The modes a robot goes through.**

A checked change of mode names both ends of the transition, and both come from the caller.  The check is
made on the pair of names; the mode that the robot holds is not looked at.  So a caller who is mistaken
about the mode held moves the robot along a transition that is not legal, and the trace gets a line of a
change that did not happen.

What a robot goes through is recorded here line by line: a change is entered with the mode that was held
and the two modes that were named, and a line that a program said is entered as it is, whatever its
words.  The record gives the trace, and two paths can be read from it, the one the robot went and the
one it wrote down.  Both are paths of legal transitions, from the mode of a new robot to the mode held at
the end, exactly as long as callers name the mode that is held.

Main definitions:

* `LegalPath` — paths of legal transitions;
* `Call`, `performAll` — checked changes of mode and runs of programs, one after another;
* `Entry`, `record` — what the lines of the trace come from;
* `KeepsToMachine` — **calls that leave the robot on its state machine,** step by step and in its trace;
* `NamesModeHeld` — calls whose legal changes name the mode that is held.

Main results:

* `Call.perform_cases` — what a single call does;
* `trace_performAll` — the trace is the text of the record;
* `legalPath_written_iff` — **the changes written down are a path exactly if callers name the mode that
  is held**;
* `keepsToMachine_iff` — **calls leave a new robot on its state machine exactly if they name the mode
  that is held**;
* `mistaken_source_accepted` — a call that moves a robot along a transition that is not legal.
-/

import RobotShorthand.Proofs.Run.Renewal

set_option relaxedAutoImplicit false
set_option autoImplicit false

namespace RobotShorthand

/-! ### Paths -/

/-- **A path of legal transitions** from one mode to another, each beginning where the one before it
ends. -/
def LegalPath : Mode → List (Mode × Mode) → Mode → Prop
  | m, [], n => m = n
  | m, e :: es, n => e.1 = m ∧ e.1.mayBecome e.2 = true ∧ LegalPath e.2 es n

namespace Run

variable {ω : Type}

/-! ### Calls -/

/-- What is done with a robot: a checked change of mode, or the run of a program. -/
inductive Call
  | transition (source target : Mode)
  | run (p : Program)

/-- A call as one of the operations on a robot. -/
def Call.operation : Call → Operation
  | transition source target => .transition source target
  | run p => .run p

/-- What a call leaves, whether it fails or not. -/
def Call.perform (env : Surroundings ω) (c : Call) (s : RunState ω) : RunState ω :=
  c.operation.perform env s

/-- What calls leave, one after another. -/
def performAll (env : Surroundings ω) : List Call → RunState ω → RunState ω
  | [], s => s
  | c :: cs, s => performAll env cs (c.perform env s)

@[simp] theorem performAll_cons (env : Surroundings ω) (c : Call) (cs : List Call) (s : RunState ω) :
    performAll env (c :: cs) s = performAll env cs (c.perform env s) := rfl

/-! ### Records -/

/-- What a line of the trace comes from. -/
inductive Entry
  /-- a change of mode, by the mode that was held and the modes that were named -/
  | change (held source target : Mode)
  /-- a line that a program said -/
  | said (line : String)

namespace Entry

/-- The line of an entry in the trace of a robot with a name. -/
def text (name : String) : Entry → String
  | change _ source target => "[" ++ name ++ "] " ++ Robot.modeLine source target
  | said line => line

/-- The transition that the robot made. -/
def went? : Entry → Option (Mode × Mode)
  | change held _ target => some (held, target)
  | said _ => none

/-- The transition that its line tells. -/
def written? : Entry → Option (Mode × Mode)
  | change _ source target => some (source, target)
  | said _ => none

/-- Lines that are said are left out where changes are collected. -/
theorem filterMap_said {f : Entry → Option (Mode × Mode)} (h : ∀ line, f (said line) = none)
    (lines : List String) : (lines.map said).filterMap f = [] := by
  rw [List.filterMap_eq_nil_iff]
  intro e he
  obtain ⟨line, _, rfl⟩ := List.mem_map.1 he
  exact h line

@[simp] theorem map_text_said (name : String) (lines : List String) :
    (lines.map said).map (text name) = lines := by
  rw [List.map_map]
  exact List.map_id lines

end Entry

/-- What a call enters in the record: a change if it is accepted, and of a run the lines it has added. -/
def Call.entries (env : Surroundings ω) (s : RunState ω) : Call → List Entry
  | transition source target =>
      match s.robot.transition source target with
      | .ok _ => [.change s.robot.mode source target]
      | .error _ => []
  | run p =>
      let t := (runProgram env p s).2.robot.trace
      (t.extract s.robot.trace.size t.size).toList.map .said

/-- **The record of calls,** one after another. -/
def record (env : Surroundings ω) : List Call → RunState ω → List Entry
  | [], _ => []
  | c :: cs, s => c.entries env s ++ record env cs (c.perform env s)

/-- The transitions that the robot makes during calls. -/
def went (env : Surroundings ω) (calls : List Call) (s : RunState ω) : List (Mode × Mode) :=
  (record env calls s).filterMap Entry.went?

/-- The transitions that are written in the trace during calls. -/
def written (env : Surroundings ω) (calls : List Call) (s : RunState ω) : List (Mode × Mode) :=
  (record env calls s).filterMap Entry.written?

/-! ### The state machine -/

/-- **Calls that leave the robot on its state machine.** -/
structure KeepsToMachine (env : Surroundings ω) (s : RunState ω) (calls : List Call) : Prop where
  /-- a change that is accepted is a legal transition from the mode held to the mode named -/
  accepted : ∀ before source target after r, calls = before ++ .transition source target :: after →
    (performAll env before s).robot.transition source target = .ok r →
      (performAll env before s).robot.mode.mayBecome target = true ∧ r.mode = target
  /-- a change that is refused leaves everything as it was -/
  refused : ∀ before source target after t, calls = before ++ .transition source target :: after →
    (performAll env before s).robot.transition source target = .error t →
      (Call.transition source target).perform env (performAll env before s) = performAll env before s
  /-- the transitions made so far lead from the idle mode to the mode held, at any time -/
  reached : ∀ before after, calls = before ++ after →
    LegalPath .idle (went env before s) (performAll env before s).robot.mode
  /-- the trace is the text of the record -/
  trace_eq : (performAll env calls s).robot.trace.toList
    = s.robot.trace.toList ++ (record env calls s).map (Entry.text s.robot.name)
  /-- the transitions written in it lead from the idle mode to the mode held -/
  connected : LegalPath .idle (written env calls s) (performAll env calls s).robot.mode

/-- **Calls whose legal changes name the mode that is held** when they are made. -/
def NamesModeHeld (env : Surroundings ω) (s : RunState ω) (calls : List Call) : Prop :=
  ∀ before source target after, calls = before ++ .transition source target :: after →
    source.mayBecome target = true → (performAll env before s).robot.mode = source

/-! ### Single calls -/

section Calls

variable {env : Surroundings ω} {s : RunState ω}

/-- What a call does that is a legal change: it moves the robot, from whichever mode it holds, and writes
what was named. -/
structure Changes (env : Surroundings ω) (s : RunState ω) (c : Call) (source target : Mode) : Prop where
  eq : c = .transition source target
  legal : source.mayBecome target = true
  mode_eq : (c.perform env s).robot.mode = target
  trace_eq : (c.perform env s).robot.trace.toList
    = s.robot.trace.toList ++ [Entry.text s.robot.name (.change s.robot.mode source target)]
  entries_eq : c.entries env s = [.change s.robot.mode source target]

/-- What a call does that is refused, or that runs a program: the mode stays, and lines are said. -/
structure Stays (env : Surroundings ω) (s : RunState ω) (c : Call) : Prop where
  illegal : ∀ source target, c = .transition source target → source.mayBecome target = false
  mode_eq : (c.perform env s).robot.mode = s.robot.mode
  exists_lines : ∃ lines : List String,
    (c.perform env s).robot.trace.toList = s.robot.trace.toList ++ lines
      ∧ c.entries env s = lines.map .said

/-- A refused change leaves the state as it was. -/
theorem perform_transition_of_error {source target : Mode} {t : IllegalTransition}
    (h : s.robot.transition source target = .error t) :
    (Call.transition source target).perform env s = s := by
  simp only [Call.perform, Call.operation, Operation.perform, h]

/-- **What a single call does.** -/
theorem Call.perform_cases (env : Surroundings ω) (c : Call) (hs : s.robot.IsEquipped) :
    (∃ source target, Changes env s c source target) ∨ Stays env s c := by
  cases c with
  | transition source target =>
      cases hr : s.robot.transition source target with
      | ok r =>
          obtain ⟨hlegal, rfl⟩ := (Robot.transition_eq_ok_iff s.robot r source target).1 hr
          refine .inl ⟨source, target, rfl, hlegal, ?_, ?_, ?_⟩
          · simp only [Call.perform, Call.operation, Operation.perform, hr]
            rfl
          · simp only [Call.perform, Call.operation, Operation.perform, hr]
            exact Array.toList_push
          · simp only [Call.entries, hr]
      | error t =>
          refine .inr ⟨?_, ?_, [], ?_, ?_⟩
          · rintro source target ⟨⟩
            cases hlegal : source.mayBecome target with
            | false => rfl
            | true =>
                have hok := (Robot.transition_eq_ok_iff s.robot _ source target).2 ⟨hlegal, rfl⟩
                exact absurd (hok.symm.trans hr) (by simp)
          · rw [perform_transition_of_error hr]
          · rw [perform_transition_of_error hr, List.append_nil]
          · simp only [Call.entries, hr, List.map_nil]
  | run p =>
      have hprint := footprint_of_program env p hs
      obtain ⟨lines, htrace, _, _⟩ := hprint.exists_lines
      refine .inr ⟨fun source target h => absurd h (by simp), hprint.mode_eq, lines.toList, ?_, ?_⟩
      · show (runProgram env p s).2.robot.trace.toList = _
        rw [htrace, Array.toList_append]
      · simp only [Call.entries, htrace, Array.size_append, Array.extract_append_right,
          Array.extract_size]

theorem Call.intact (c : Call) {name : String} (h : Intact name s.robot) :
    Intact name (c.perform env s).robot := h.perform c.operation

end Calls

/-! ### Traces and paths -/

section Paths

variable {env : Surroundings ω}

/-- **The trace is the text of the record.** -/
theorem trace_performAll {name : String} (calls : List Call) {s : RunState ω}
    (h : Intact name s.robot) :
    (performAll env calls s).robot.trace.toList
      = s.robot.trace.toList ++ (record env calls s).map (Entry.text name) := by
  induction calls generalizing s with
  | nil => simp [performAll, record]
  | cons c cs ih =>
      rw [performAll_cons, ih (c.intact h), record, List.map_append]
      rcases c.perform_cases env h.isEquipped with ⟨source, target, hc⟩ | hc
      · rw [hc.trace_eq, hc.entries_eq, h.name_eq, List.append_assoc]
        rfl
      · obtain ⟨lines, htrace, hentries⟩ := hc.exists_lines
        rw [htrace, hentries, Entry.map_text_said, List.append_assoc]

/-- The first call names the mode held if it is a legal change, and so do those that follow. -/
theorem namesModeHeld_cons {c : Call} {cs : List Call} {s : RunState ω} :
    NamesModeHeld env s (c :: cs)
      ↔ (∀ source target, c = .transition source target → source.mayBecome target = true →
          s.robot.mode = source)
        ∧ NamesModeHeld env (c.perform env s) cs := by
  constructor
  · intro h
    refine ⟨?_, ?_⟩
    · rintro source target rfl hlegal
      exact h [] source target cs rfl hlegal
    · rintro before source target after rfl hlegal
      exact h (c :: before) source target after rfl hlegal
  · rintro ⟨hfirst, hrest⟩ before source target after hcalls hlegal
    cases before with
    | nil =>
        obtain ⟨rfl, rfl⟩ := List.cons.inj hcalls
        exact hfirst source target rfl hlegal
    | cons b before =>
        obtain ⟨rfl, rfl⟩ := List.cons.inj hcalls
        exact hrest before source target after rfl hlegal

/-- **The changes written down are a path exactly if callers name the mode that is held.** -/
theorem legalPath_written_iff {name : String} (calls : List Call) {s : RunState ω}
    (h : Intact name s.robot) :
    LegalPath s.robot.mode (written env calls s) (performAll env calls s).robot.mode
      ↔ NamesModeHeld env s calls := by
  induction calls generalizing s with
  | nil =>
      refine ⟨fun _ before _ _ _ hcalls => ?_, fun _ => rfl⟩
      exact absurd hcalls.symm (by simp)
  | cons c cs ih =>
      have hintact : Intact name (c.perform env s).robot := c.intact h
      have hrest := ih hintact
      rw [performAll_cons, namesModeHeld_cons, ← hrest, written, record, List.filterMap_append]
      rcases c.perform_cases env h.isEquipped with ⟨source, target, hc⟩ | hc
      · rw [hc.entries_eq, hc.mode_eq]
        constructor
        · rintro ⟨hsource, _, hpath⟩
          refine ⟨?_, hpath⟩
          rintro source' target' hc' _
          obtain ⟨rfl, rfl⟩ := Call.transition.inj (hc.eq.symm.trans hc')
          exact hsource.symm
        · rintro ⟨hfirst, hpath⟩
          exact ⟨(hfirst source target hc.eq hc.legal).symm, hc.legal, hpath⟩
      · obtain ⟨lines, _, hentries⟩ := hc.exists_lines
        rw [hentries, Entry.filterMap_said fun _ => rfl, List.nil_append, hc.mode_eq]
        refine ⟨fun hpath => ⟨?_, hpath⟩, And.right⟩
        intro source target hc' hlegal
        exact absurd hlegal (by simp [hc.illegal source target hc'])

/-- Callers that name the mode held write down the transitions that are made. -/
theorem went_eq_written {name : String} (calls : List Call) {s : RunState ω}
    (h : Intact name s.robot) (hnames : NamesModeHeld env s calls) :
    went env calls s = written env calls s := by
  induction calls generalizing s with
  | nil => rfl
  | cons c cs ih =>
      obtain ⟨hfirst, hrest⟩ := namesModeHeld_cons.1 hnames
      have htail : went env cs (c.perform env s) = written env cs (c.perform env s) :=
        ih (c.intact h) hrest
      unfold went written at htail ⊢
      rw [record, List.filterMap_append, List.filterMap_append, htail]
      rcases c.perform_cases env h.isEquipped with ⟨source, target, hc⟩ | hc
      · rw [hc.entries_eq, hfirst source target hc.eq hc.legal]
        rfl
      · obtain ⟨lines, _, hentries⟩ := hc.exists_lines
        rw [hentries, Entry.filterMap_said fun _ => rfl, Entry.filterMap_said fun _ => rfl]

/-- What holds of all calls holds of the first ones. -/
theorem NamesModeHeld.of_append {before after : List Call} {s : RunState ω}
    (h : NamesModeHeld env s (before ++ after)) : NamesModeHeld env s before := by
  rintro first source target rest rfl hlegal
  exact h first source target (rest ++ after) (by simp) hlegal

/-- **Calls leave a new robot on its state machine exactly if they name the mode that is held** whenever
the transition they name is legal.  The check itself does not see to that, since it does not look at the
mode that is held. -/
theorem keepsToMachine_iff (env : Surroundings ω) (name : String) (world : ω) (calls : List Call) :
    KeepsToMachine env (.start (.new name) world) calls
      ↔ NamesModeHeld env (.start (.new name) world) calls := by
  have hnew : Intact name (RunState.start (Robot.new name) world).robot :=
    ⟨rfl, Robot.isEquipped_new name⟩
  constructor
  · intro h
    exact (legalPath_written_iff calls hnew).1 h.connected
  · intro hnames
    refine ⟨?_, ?_, ?_, trace_performAll calls hnew, (legalPath_written_iff calls hnew).2 hnames⟩
    · intro before source target after r hcalls hr
      obtain ⟨hlegal, rfl⟩ := (Robot.transition_eq_ok_iff _ r source target).1 hr
      rw [hnames before source target after hcalls hlegal]
      exact ⟨hlegal, rfl⟩
    · intro before source target after t _ ht
      exact perform_transition_of_error ht
    · rintro before after rfl
      rw [went_eq_written before hnew hnames.of_append]
      exact (legalPath_written_iff before hnew).2 hnames.of_append

/-- **A change that is accepted although it is not legal.**  A new robot is idle.  Asked to go from
moving to turning it does so, although an idle robot may not turn, and says that it was moving. -/
theorem mistaken_source_accepted :
    let s : RunState Bench := .start (.new "R") (.ofSensors (.scripted []))
    let t := performAll Bench.surroundings [.transition .moving .turning] s
    ¬ KeepsToMachine Bench.surroundings s [.transition .moving .turning]
      ∧ Mode.mayBecome s.robot.mode t.robot.mode = false
      ∧ t.robot.mode = .turning
      ∧ t.robot.trace = #["[R] State: Moving -> Turning"] := by
  intro s t
  refine ⟨fun h => ?_, by decide, rfl, by decide⟩
  have hlegal := (h.accepted [] .moving .turning [] _ rfl rfl).1
  exact absurd hlegal (by decide)

end Paths

end Run

end RobotShorthand
