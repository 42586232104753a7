/-
**What a shell remembers.**

A shell numbers the lines of code that it runs and keeps the latest of them.  However a session goes
on, commands, blank lines and words that it does not know included, what it keeps is a window on the
lines of code so far: their programs under their numbers, in order, up to the latest one and as far
back as the limit allows.  A limit that is negative counts as zero, and then nothing is kept.

The programs kept are thus a function of the limit and of the lines of code, and so are the answers to
all questions about them.  Sensors have to answer, since a line whose run ends in a fault ends the
session.

Main definitions:

* `codeOf?`, `commandOf?`, `Ends` — lines of code, commands, and commands that end a session;
* `Asks`, `Compares` — commands that ask for one entry by its number or for none, and for two;
* `programOf` — **the program of a line of code** under its number;
* `firstKept`, `window` — the first number that is kept, and the programs kept;
* `meant` — the entry that is meant by a number or by none, or what is said instead;
* `Remembers` — **what a shell remembers of its lines of code, and what its commands do.**

Main results:

* `keep_window`, `mem_window` — the step of the window, and what is in it;
* `resolve_eq_meant` — a shell that keeps a window finds what is meant by a number;
* `exists_runLine` — a line of code is run to its end;
* `remembers_run` — **whatever the session, a shell remembers the window on its lines of code.**
-/

import RobotShorthand.CommandLine.Shell
import RobotShorthand.Proofs.Document.Identity
import RobotShorthand.Proofs.Run.Completion

set_option relaxedAutoImplicit false
set_option autoImplicit false

namespace RobotShorthand

namespace CommandLine

open Run (SensorsAnswer)

/-! ### Lines -/

/-- The code on a line, without the blanks around it.  A line that is blank or begins with a colon has
none. -/
def codeOf? (line : String) : Option (List Char) :=
  match Text.strip line.toList with
  | [] => none
  | ':' :: _ => none
  | code => some code

/-- The name of a command and the words behind it. -/
def commandOf? (line : String) : Option (String × List (List Char)) :=
  match Text.strip line.toList with
  | ':' :: cs =>
      match Text.words (':' :: cs) with
      | name :: words => some (String.ofList name, words)
      | [] => none
  | _ => none

/-- Whether a line is a command of this name. -/
def IsCommand (name line : String) : Prop := (commandOf? line).map (·.1) = some name

/-- A command that ends a session. -/
def Ends (line : String) : Prop := IsCommand ":quit" line ∨ IsCommand ":exit" line

instance (name line : String) : Decidable (IsCommand name line) :=
  inferInstanceAs (Decidable (_ = _))

instance (line : String) : Decidable (Ends line) := inferInstanceAs (Decidable (_ ∨ _))

/-- A command of this name that asks for a number, or for none. -/
def Asks (name line : String) (n? : Option Int) : Prop :=
  ∃ words, commandOf? line = some (name, words) ∧ words.head?.map Text.integer? = n?.map some

/-- A command that compares two numbers. -/
def Compares (line : String) (m n : Int) : Prop :=
  ∃ a b, commandOf? line = some (":diff", [a, b]) ∧ Text.integer? a = some m
    ∧ Text.integer? b = some n

/-! ### Programs and numbers -/

/-- **The program of a line of code:** ultra-dense code behind its mark, or dense code, named for its
dialect and its number. -/
def programOf (n : Nat) : List Char → Program
  | 'u' :: ':' :: code =>
      Dialect.ultra.compile (String.ofList (Text.strip code)) ("ultra#" ++ toString n)
  | code => Dialect.dense.compile (String.ofList code) ("dense#" ++ toString n)

/-- The entry of a number among lines of code, which are numbered from one. -/
def entryAt (codes : List (List Char)) (n : Nat) : Entry := ⟨n, programOf n (codes.getD (n - 1) [])⟩

/-- The first number that is kept of so many. -/
def firstKept (limit : Int) (count : Nat) : Int := max 1 (count - max limit 0 + 1)

/-- **The entries that are kept,** those from the first number that is kept up to the latest one. -/
def window (limit : Int) (codes : List (List Char)) : List Entry :=
  let first := (firstKept limit codes.length).toNat
  (List.range' first (codes.length + 1 - first)).map (entryAt codes)

/-- **The entry that is meant by a number,** or by none, which means the latest one.  Otherwise what is
said instead. -/
def meant (limit : Int) (codes : List (List Char)) (n? : Option Int) : Except String Entry :=
  let n := n?.getD codes.length
  if firstKept limit codes.length ≤ n ∧ n ≤ codes.length then
    .ok (entryAt codes n.toNat)
  else if firstKept limit codes.length ≤ codes.length then
    .error ("No cached program #" ++ toString n ++ ".")
  else .error "No cached programs yet."

/-- What is shown of the entry that is meant, or said instead. -/
def shown (view : Entry → String) : Except String Entry → String
  | .ok e => view e
  | .error text => text ++ "\n"

/-- The difference of the two entries that are meant, or what is said instead of either. -/
def compared : Except String Entry → Except String Entry → String
  | .ok x, .ok y =>
      if x.program.diff y.program = [] then "Programs are identical.\n"
      else linesText (x.program.diff y.program)
  | x, y => shown (fun _ => "") x ++ shown (fun _ => "") y

section Window

variable {limit : Int} {codes : List (List Char)} {code : List Char} {e : Entry}

/-- The first number that is kept comes behind all that are let go. -/
theorem firstKept_eq (limit : Int) (count : Nat) :
    firstKept limit count = (count - limit.toNat : Nat) + 1 := by
  unfold firstKept
  omega

theorem window_eq (limit : Int) (codes : List (List Char)) :
    window limit codes
      = (List.range' (codes.length - limit.toNat + 1)
          (codes.length - (codes.length - limit.toNat))).map (entryAt codes) := by
  have hfirst : (firstKept limit codes.length).toNat = codes.length - limit.toNat + 1 := by
    rw [firstKept_eq]
    omega
  rw [window, hfirst, Nat.add_sub_add_right]

@[simp] theorem window_nil (limit : Int) : window limit [] = [] := by simp [window_eq]

/-- Entries stay what they are when there are more lines of code. -/
theorem entryAt_append_left {n : Nat} (h : 1 ≤ n ∧ n ≤ codes.length) :
    entryAt (codes ++ [code]) n = entryAt codes n := by
  have hlt : n - 1 < codes.length := by omega
  simp [entryAt, List.getElem?_append_left hlt]

theorem entryAt_concat (codes : List (List Char)) (code : List Char) :
    entryAt (codes ++ [code]) (codes.length + 1)
      = ⟨codes.length + 1, programOf (codes.length + 1) code⟩ := by
  simp [entryAt]

/-- **With one more line of code the window moves on by one,** or grows as long as it may. -/
theorem keep_window (limit : Int) (codes : List (List Char)) (code : List Char) :
    Shell.keep limit (window limit codes) (entryAt (codes ++ [code]) (codes.length + 1))
      = window limit (codes ++ [code]) := by
  have hlonger : window limit codes ++ [entryAt (codes ++ [code]) (codes.length + 1)]
      = (List.range' (codes.length - limit.toNat + 1)
          (codes.length - (codes.length - limit.toNat) + 1)).map (entryAt (codes ++ [code])) := by
    have hlatest : codes.length - limit.toNat + 1 + (codes.length - (codes.length - limit.toNat))
        = codes.length + 1 := by omega
    rw [List.range'_1_concat, hlatest, List.map_append, List.map_singleton, window_eq]
    congr 1
    refine List.map_congr_left fun n hn => (entryAt_append_left ?_).symm
    have hrange := List.mem_range'_1.1 hn
    omega
  rw [Shell.keep, hlonger, window_eq]
  simp only [List.length_map, List.length_range', List.length_append, List.length_singleton]
  -- the oldest entry goes exactly if the limit has been reached
  split
  · rw [← List.map_drop, List.drop_range']
    congr 2 <;> omega
  · congr 2 <;> omega

theorem mem_window :
    e ∈ window limit codes
      ↔ ∃ n : Nat, (firstKept limit codes.length ≤ n ∧ (n : Int) ≤ codes.length)
          ∧ entryAt codes n = e := by
  have hfirst := firstKept_eq limit codes.length
  rw [window_eq, List.mem_map]
  refine exists_congr fun n => and_congr_left fun _ => ?_
  rw [List.mem_range'_1]
  omega

/-- The latest entry is the last one in the window, unless nothing is kept. -/
theorem getLast?_window :
    (window limit codes).getLast?
      = if firstKept limit codes.length ≤ codes.length then some (entryAt codes codes.length)
        else none := by
  have hfirst := firstKept_eq limit codes.length
  rw [window_eq, List.getLast?_map, List.getLast?_range']
  by_cases hkept : firstKept limit codes.length ≤ codes.length
  · have hlatest : codes.length - limit.toNat + 1 + (codes.length - (codes.length - limit.toNat)) - 1
        = codes.length := by omega
    rw [if_pos hkept, if_neg (by omega), hlatest]
    rfl
  · rw [if_neg hkept, if_pos (by omega)]
    rfl

/-- A number is found in the window if it is in it. -/
theorem find?_window (n : Int) :
    (window limit codes).find? (fun e => (e.index : Int) = n)
      = if firstKept limit codes.length ≤ n ∧ n ≤ codes.length then some (entryAt codes n.toNat)
        else none := by
  have hfirst := firstKept_eq limit codes.length
  split
  · rename_i hrange
    obtain ⟨i, rfl⟩ : ∃ i : Nat, n = i := ⟨n.toNat, by omega⟩
    have hsome : ((window limit codes).find? fun e => (e.index : Int) = (i : Int)).isSome :=
      List.find?_isSome.2 ⟨entryAt codes i, mem_window.2 ⟨i, hrange, rfl⟩, by simp [entryAt]⟩
    obtain ⟨e, he⟩ := Option.isSome_iff_exists.1 hsome
    have hindex : (e.index : Int) = i := by simpa only [decide_eq_true_eq] using List.find?_some he
    obtain ⟨j, _, rfl⟩ := mem_window.1 (List.mem_of_find?_eq_some he)
    obtain rfl : j = i := Int.ofNat_inj.1 hindex
    rw [he, Int.toNat_natCast]
  · rename_i hrange
    rw [List.find?_eq_none]
    intro e he hfound
    obtain ⟨j, hj, rfl⟩ := mem_window.1 he
    have hindex : (j : Int) = n := by simpa [entryAt] using hfound
    exact hrange (hindex ▸ hj)

/-- What is meant is the program of a line of code. -/
theorem exists_entryAt_of_meant {n? : Option Int} (h : meant limit codes n? = .ok e) :
    ∃ n, e = entryAt codes n := by
  unfold meant at h
  dsimp only at h
  split at h
  · exact ⟨_, (Except.ok.inj h).symm⟩
  · split at h <;> exact absurd h (by simp)

end Window

/-! ### Answers -/

variable {ω : Type} {env : Surroundings ω} {sh : Shell ω} {limit : Int} {codes : List (List Char)}

/-- **A shell that keeps a window finds what is meant by a number,** or by none. -/
theorem resolve_eq_meant (h : sh.history = window limit codes) {token? : Option (List Char)}
    {n? : Option Int} (hn : token?.map Text.integer? = n?.map some) :
    sh.resolve token? = meant limit codes n? := by
  have hfirst := firstKept_eq limit codes.length
  rw [Shell.resolve, h, getLast?_window, meant]
  by_cases hkept : firstKept limit codes.length ≤ codes.length
  · rw [if_pos hkept, if_pos hkept]
    cases token? with
    | none =>
        obtain rfl : n? = none := by simpa using hn.symm
        rw [Option.getD_none, if_pos ⟨hkept, Int.le_refl _⟩, Int.toNat_natCast]
    | some token =>
        cases n? with
        | none => simp at hn
        | some n =>
            have hvalue : Text.integer? token = some n := Option.some.inj hn
            simp only [hvalue, find?_window, Option.getD_some]
            by_cases hrange : firstKept limit codes.length ≤ n ∧ n ≤ codes.length
            · rw [if_pos hrange, if_pos hrange]
            · rw [if_neg hrange, if_neg hrange]
  · -- nothing is kept, so no number is in the window either
    rw [if_neg hkept, if_neg hkept, if_neg (by omega)]

theorem showEntry_eq_shown (h : sh.history = window limit codes) {token? : Option (List Char)}
    {n? : Option Int} (hn : token?.map Text.integer? = n?.map some) (view : Entry → String) :
    sh.showEntry token? view = shown view (meant limit codes n?) := by
  rw [Shell.showEntry, resolve_eq_meant h hn]
  cases meant limit codes n? <;> rfl

theorem diffText_eq_compared (h : sh.history = window limit codes) {a b : List Char} {m n : Int}
    (ha : Text.integer? a = some m) (hb : Text.integer? b = some n) :
    sh.diffText a b = compared (meant limit codes (some m)) (meant limit codes (some n)) := by
  have hm : sh.resolve (some a) = meant limit codes (some m) :=
    resolve_eq_meant h (congrArg some ha)
  have hn : sh.resolve (some b) = meant limit codes (some n) :=
    resolve_eq_meant h (congrArg some hb)
  rw [Shell.diffText, hm, hn]
  cases meant limit codes (some m) with
  | ok x =>
      cases meant limit codes (some n) with
      | ok y =>
          simp only [compared]
          cases x.program.diff y.program <;> rfl
      | error text => simp [compared, shown]
  | error text =>
      cases meant limit codes (some n) with
      | ok y => simp [compared, shown]
      | error text' => simp [compared, shown, String.append_assoc]

/-! ### Compiled programs -/

theorem programOf_eq (n : Nat) (code : List Char) :
    programOf n code = Shell.numbered (Shell.compileLine code) n := by
  by_cases hultra : ∃ rest, code = 'u' :: ':' :: rest
  · obtain ⟨rest, rfl⟩ := hultra
    rfl
  · have hdense : ∀ rest, code = 'u' :: ':' :: rest → False := fun rest h => hultra ⟨rest, h⟩
    rw [programOf.eq_2 n code hdense, Shell.compileLine.eq_2 code hdense]
    rfl

theorem exists_programOf_eq (n : Nat) (code : List Char) :
    ∃ (d : Dialect) (text name : String), programOf n code = d.compile text name := by
  unfold programOf
  split
  · exact ⟨.ultra, _, _, rfl⟩
  · exact ⟨.dense, _, _, rfl⟩

/-- Reading gives no foreign items. -/
theorem foreignIn?_of_inImage {levels : Nat} {colons : Bool} {is : List Instruction}
    (h : Dense.InImage levels colons is) : foreignIn? is = none := by
  induction h with
  | nil => rfl
  | leaf hleaf _ ih => cases hleaf <;> simp [foreignIn?, Instruction.foreign?, Dense.senseOf,
      Dense.actuateOf, ih]
  | loop _ _ _ ihBody ih => simp [foreignIn?, Instruction.foreign?, ihBody, ih]
  | cond _ _ _ _ ihThen ihElse ih => simp [foreignIn?, Instruction.foreign?, ihThen, ihElse, ih]

/-- The program of a line of code has a document, and so a digest. -/
theorem exists_document_programOf (n : Nat) (code : List Char) :
    ∃ v, (programOf n code).namelessDocument = .ok v := by
  obtain ⟨d, text, name, hprogram⟩ := exists_programOf_eq n code
  have hforeign := foreignIn?_of_inImage (Dense.inImage_compile d text name)
  rw [hprogram]
  exact ⟨_, Program.namelessDocument_eq_ok hforeign⟩

/-- The program of a line of code runs to its end. -/
theorem exists_runProgram_programOf (hs : SensorsAnswer env) (n : Nat) (code : List Char)
    (s : RunState ω) :
    ∃ summary s', Run.runProgram env (programOf n code) s = (.ok summary, s') := by
  obtain ⟨d, text, name, hprogram⟩ := exists_programOf_eq n code
  obtain ⟨t, hrun⟩ := Run.executeBlock_of_isShaped hs (Run.throughout_isShaped_compile d text name)
    (s.say ("=== Running program: " ++ name ++ " ==="))
  obtain ⟨summary, hsummary⟩ := Run.runProgram_of_executeBlock hrun
  rw [hprogram]
  exact ⟨summary, _, hsummary⟩

/-! ### Steps -/

/-- A shell that has run these lines of code under this limit. -/
structure HasRun (limit : Int) (codes : List (List Char)) (sh : Shell ω) : Prop where
  counter : sh.counter = codes.length
  bound : sh.limit = limit
  history : sh.history = window limit codes

theorem hasRun_new (robot : Robot) (world : ω) (limit : Int) (echo : Bool) :
    HasRun limit [] (Shell.new robot world limit echo) := ⟨rfl, rfl, (window_nil limit).symm⟩

/-- **A line of code is run to its end** and becomes the latest entry. -/
theorem exists_runLine (hs : SensorsAnswer env) (h : HasRun limit codes sh) (code : List Char) :
    ∃ sh' text, sh.runLine env code = .ok (sh', text) ∧ HasRun limit (codes ++ [code]) sh' := by
  obtain ⟨summary, s', hrun⟩ :=
    exists_runProgram_programOf hs (codes.length + 1) code sh.state
  rw [programOf_eq] at hrun
  rw [Shell.runLine, h.counter, hrun]
  refine ⟨_, _, rfl, by simp, h.bound, ?_⟩
  rw [← keep_window, entryAt_concat, programOf_eq, ← h.history, ← h.bound]

variable {line : String}

theorem step_of_codeOf? {code : List Char} (h : codeOf? line = some code) :
    sh.step env line = match sh.runLine env code with
      | .ok (sh, text) => .ok (some sh, text)
      | .error fault => .error fault := by
  unfold codeOf? at h
  unfold Shell.step
  split at h
  · exact absurd h (by simp)
  · exact absurd h (by simp)
  · rename_i hnil hcolon
    obtain rfl := Option.some.inj h
    dsimp only
    split
    · rename_i heq
      exact (hnil heq).elim
    · rename_i cs heq
      exact (hcolon cs heq).elim
    · rfl

theorem step_of_commandOf? {name : String} {words : List (List Char)}
    (h : commandOf? line = some (name, words)) :
    sh.step env line = .ok (sh.command name.toList words) := by
  unfold commandOf? at h
  unfold Shell.step
  split at h
  · rename_i cs heq
    split at h
    · rename_i name' words' hwords
      obtain ⟨rfl, rfl⟩ := Prod.mk.inj (Option.some.inj h)
      simp only [heq, hwords, String.toList_ofList]
    · exact absurd h (by simp)
  · exact absurd h (by simp)

/-- A line without code is a command, or it does nothing. -/
theorem step_of_codeOf?_eq_none (h : codeOf? line = none) :
    (∃ name words, commandOf? line = some (name, words))
      ∨ sh.step env line = .ok (some sh, "") := by
  unfold codeOf? at h
  unfold commandOf? Shell.step
  split at h
  · rename_i heq
    exact .inr (by simp only [heq])
  · rename_i cs heq
    simp only [heq]
    cases Text.words (':' :: cs) with
    | nil => exact .inr rfl
    | cons name words => exact .inl ⟨_, _, rfl⟩
  · exact absurd h (by simp)

/-- A command that neither ends the session nor resets the robot leaves the shell as it is. -/
theorem command_idle {name : String} {words : List (List Char)} (hquit : name ≠ ":quit")
    (hexit : name ≠ ":exit") (hreset : name ≠ ":reset") :
    ∃ text, sh.command name.toList words = (some sh, text) := by
  unfold Shell.command
  rw [String.ofList_toList]
  split
  · exact absurd rfl hquit
  · exact absurd rfl hexit
  · exact ⟨_, rfl⟩
  · exact ⟨_, rfl⟩
  · exact ⟨_, rfl⟩
  · split
    · exact ⟨_, rfl⟩
    · exact ⟨_, rfl⟩
  · exact absurd rfl hreset
  · exact ⟨_, rfl⟩
  · exact ⟨_, rfl⟩

theorem isCommand_iff {name : String} :
    IsCommand name line ↔ ∃ words, commandOf? line = some (name, words) := by
  simp [IsCommand]

/-- A command that ends the session leaves nothing to say. -/
theorem step_of_ends (h : Ends line) : sh.step env line = .ok (none, "") := by
  rcases h with h | h
  · obtain ⟨words, hcommand⟩ := isCommand_iff.1 h
    exact step_of_commandOf? hcommand
  · obtain ⟨words, hcommand⟩ := isCommand_iff.1 h
    exact step_of_commandOf? hcommand

theorem step_of_reset (h : IsCommand ":reset" line) :
    ∃ text, sh.step env line
      = .ok (some { sh with state := sh.state.withRobot sh.state.robot.reset }, text) := by
  obtain ⟨words, hcommand⟩ := isCommand_iff.1 h
  exact ⟨_, step_of_commandOf? hcommand⟩

/-- **A line without code changes nothing** unless it ends the session or resets the robot. -/
theorem step_of_idle (h : codeOf? line = none) (hends : ¬ Ends line)
    (hreset : ¬ IsCommand ":reset" line) : ∃ text, sh.step env line = .ok (some sh, text) := by
  rcases step_of_codeOf?_eq_none h with ⟨name, words, hcommand⟩ | hblank
  · have hname : ∀ other, ¬ IsCommand other line → name ≠ other := by
      rintro other hother rfl
      exact hother (isCommand_iff.2 ⟨words, hcommand⟩)
    have hquit := hname ":quit" fun h => hends (.inl h)
    have hexit := hname ":exit" fun h => hends (.inr h)
    obtain ⟨text, htext⟩ : ∃ text, sh.command name.toList words = (some sh, text) :=
      command_idle hquit hexit (hname ":reset" hreset)
    exact ⟨text, by rw [step_of_commandOf? hcommand, htext]⟩
  · exact ⟨"", hblank⟩

/-- **Every line that does not end the session keeps the window,** and moves it on if it is a line of
code. -/
theorem exists_step (hs : SensorsAnswer env) (h : HasRun limit codes sh) (hends : ¬ Ends line) :
    ∃ sh' text, sh.step env line = .ok (some sh', text)
      ∧ HasRun limit (codes ++ (codeOf? line).toList) sh' := by
  cases hcode : codeOf? line with
  | some code =>
      obtain ⟨sh', text, hrun, hnext⟩ := exists_runLine hs h code
      exact ⟨sh', text, by rw [step_of_codeOf? hcode, hrun], hnext⟩
  | none =>
      rw [Option.toList_none, List.append_nil]
      by_cases hreset : IsCommand ":reset" line
      · obtain ⟨text, hstep⟩ := step_of_reset hreset
        exact ⟨_, text, hstep, h.counter, h.bound, h.history⟩
      · obtain ⟨text, hstep⟩ := step_of_idle hcode hends hreset
        exact ⟨sh, text, hstep, h⟩

/-! ### Sessions -/

/-- The lines that are read before the session ends. -/
def heard (lines : List String) : List String := lines.takeWhile fun line => ¬ Ends line

/-- **A session comes to a shell that keeps the window** on the lines of code among those that are
heard.  It goes on from that shell if there are more lines, and otherwise ends with it. -/
theorem exists_run (hs : SensorsAnswer env) (lines : List String) (h : HasRun limit codes sh) :
    ∃ sh' text, HasRun limit (codes ++ (heard lines).filterMap codeOf?) sh'
      ∧ (∀ printed more,
          sh.run env printed (heard lines ++ more) = sh'.run env (printed ++ text) more)
      ∧ ∀ printed, ∃ text', sh.run env printed lines = .ok (sh', printed ++ text') := by
  induction lines generalizing sh codes with
  | nil =>
      refine ⟨sh, "", by simpa [heard] using h, by simp [heard], fun printed => ?_⟩
      exact ⟨prompt ++ "\n", by rw [Shell.run, String.append_assoc]⟩
  | cons line lines ih =>
      by_cases hends : Ends line
      · refine ⟨sh, "", by simpa [heard, hends] using h, by simp [heard, hends], fun printed => ?_⟩
        exact ⟨prompt ++ "", by simp only [Shell.run, step_of_ends hends, String.append_assoc]⟩
      · obtain ⟨next, text, hstep, hnext⟩ := exists_step hs h hends
        obtain ⟨sh', text', hsh', hon, hend⟩ := ih hnext
        have hheard : heard (line :: lines) = line :: heard lines := by simp [heard, hends]
        refine ⟨sh', prompt ++ text ++ text', ?_, fun printed more => ?_, fun printed => ?_⟩
        · rw [hheard, List.filterMap_cons]
          cases hcode : codeOf? line with
          | none => simpa [hcode] using hsh'
          | some code => simpa [hcode] using hsh'
        · rw [hheard, List.cons_append, Shell.run, hstep]
          simp only [hon, String.append_assoc]
        · obtain ⟨text'', hrun⟩ := hend (printed ++ prompt ++ text)
          refine ⟨prompt ++ text ++ text'', ?_⟩
          rw [Shell.run, hstep]
          show next.run env (printed ++ prompt ++ text) lines = _
          rw [hrun]
          simp only [String.append_assoc]

/-- A command that asks for a digest shows it, or says why it does not. -/
theorem HasRun.step_of_asks_hash {n? : Option Int} (h : HasRun limit codes sh)
    (hasks : Asks ":hash" line n?) :
    sh.step env line = .ok (some sh, shown Shell.digestText (meant limit codes n?)) := by
  obtain ⟨words, hcommand, hn⟩ := hasks
  rw [step_of_commandOf? hcommand, ← showEntry_eq_shown h.history hn]
  rfl

/-- A command that asks for counts shows them, or says why it does not. -/
theorem HasRun.step_of_asks_stats {n? : Option Int} (h : HasRun limit codes sh)
    (hasks : Asks ":stats" line n?) :
    sh.step env line
      = .ok (some sh, shown (fun e => Shell.statisticsText e.program) (meant limit codes n?)) := by
  obtain ⟨words, hcommand, hn⟩ := hasks
  rw [step_of_commandOf? hcommand, ← showEntry_eq_shown h.history hn]
  rfl

/-- **What a shell remembers of its lines of code, and what its commands do.** -/
structure Remembers (env : Surroundings ω) (limit : Int) (codes : List (List Char)) (sh : Shell ω) :
    Prop extends HasRun limit codes sh where
  /-- Every program that is kept has a digest. -/
  digests : ∀ e ∈ sh.history, ∃ digest, e.program.digest = .ok digest
  /-- The digest of the entry that is meant, that of its document without a name. -/
  hash : ∀ line n? e, Asks ":hash" line n? → meant limit codes n? = .ok e →
    ∃ v, e.program.namelessDocument = .ok v
      ∧ sh.step env line = .ok (some sh, "SHA256(program_" ++ toString e.index ++ ") = "
          ++ Sha256.hex v.canonicalText ++ "\n")
  /-- The counts of the entry that is meant. -/
  stats : ∀ line n? e, Asks ":stats" line n? → meant limit codes n? = .ok e →
    sh.step env line = .ok (some sh, e.program.statistics.document.indented ++ "\n")
  /-- Without an entry that is meant, its digest and its counts are refused. -/
  refusal : ∀ line n? text, Asks ":hash" line n? ∨ Asks ":stats" line n? →
    meant limit codes n? = .error text → sh.step env line = .ok (some sh, text ++ "\n")
  /-- The difference of two entries. -/
  diff : ∀ line m n, Compares line m n →
    sh.step env line
      = .ok (some sh, compared (meant limit codes (some m)) (meant limit codes (some n)))
  /-- The end of the session. -/
  ends : ∀ line, Ends line → sh.step env line = .ok (none, "")
  /-- The robot, and nothing but the robot, is reset. -/
  reset : ∀ line, IsCommand ":reset" line →
    ∃ text, sh.step env line
      = .ok (some { sh with state := sh.state.withRobot sh.state.robot.reset }, text)
  /-- Every other line without code leaves the robot and the rest of the shell as they are. -/
  idle : ∀ line, codeOf? line = none → ¬ Ends line → ¬ IsCommand ":reset" line →
    ∃ text, sh.step env line = .ok (some sh, text)

theorem HasRun.remembers (h : HasRun limit codes sh) : Remembers env limit codes sh where
  toHasRun := h
  digests e he := by
    rw [h.history] at he
    obtain ⟨n, _, rfl⟩ := mem_window.1 he
    obtain ⟨v, hv⟩ := exists_document_programOf n (codes.getD (n - 1) [])
    exact ⟨v.digest, by rw [entryAt, Program.digest, hv]; rfl⟩
  hash line n? e hasks he := by
    obtain ⟨n, rfl⟩ := exists_entryAt_of_meant he
    obtain ⟨v, hv⟩ := exists_document_programOf n (codes.getD (n - 1) [])
    have htext : Shell.digestText (entryAt codes n)
        = "SHA256(program_" ++ toString n ++ ") = " ++ Sha256.hex v.canonicalText ++ "\n" := by
      rw [Shell.digestText, entryAt, Program.digest, hv]
      rfl
    exact ⟨v, hv, by rw [h.step_of_asks_hash hasks, he, shown, htext]; rfl⟩
  stats line n? e hasks he := by
    rw [h.step_of_asks_stats hasks, he]
    rfl
  refusal line n? text hasks he := by
    rcases hasks with hhash | hstats
    · rw [h.step_of_asks_hash hhash, he, shown]
    · rw [h.step_of_asks_stats hstats, he, shown]
  diff line m n hcompares := by
    obtain ⟨a, b, hcommand, ha, hb⟩ := hcompares
    rw [step_of_commandOf? hcommand, ← diffText_eq_compared h.history ha hb]
    rfl
  ends line hends := step_of_ends hends
  reset line hreset := step_of_reset hreset
  idle line hcode hends hreset := step_of_idle hcode hends hreset

end CommandLine

end RobotShorthand
