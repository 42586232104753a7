/-
**What a comparison of two entries says.**

A shell compares two entries by the difference of their listings, and says that the programs are
identical if there is none.  But it names every program for its number, and a listing begins with the
name of its program.  So the listings of two entries differ in their first line already, and the same
line of code that is entered twice is not recognised: only an entry that is compared with itself is
found identical.  The digest of a program, in contrast, does not depend on its name.

Main results:

* `head?_lines_listing` — the first line of a listing is that of the name;
* `eq_of_name_programOf_eq` — the name of an entry tells its number;
* `diff_programOf_eq_nil_iff` — **listings of entries differ exactly if their numbers do;**
* `diff_answers_identical_iff` — **whatever the session, two entries are said to be identical exactly if
  they are one;**
* `same_line_not_identical` — the same line entered twice, and what its comparison says.
-/

import RobotShorthand.Proofs.CommandLine.History
import RobotShorthand.Proofs.Diff.Unified

set_option relaxedAutoImplicit false
set_option autoImplicit false

namespace RobotShorthand

/-! ### The first line of a listing -/

namespace Text

theorem isLineBreak_of_isDigit {c : Char} (h : c.isDigit = true) : isLineBreak c = false := by
  have hc := toNat_of_isDigit h
  cases hb : isLineBreak c with
  | false => rfl
  | true =>
      simp only [isLineBreak, Bool.or_eq_true, Bool.and_eq_true, decide_eq_true_eq, beq_iff_eq] at hb
      omega

/-- Characters that end no line go to the unfinished one. -/
theorem linesFrom_append {text : List Char} (h : ∀ c ∈ text, isLineBreak c = false)
    (current rest : List Char) :
    linesFrom current false (text ++ rest) = linesFrom (text.reverse ++ current) false rest := by
  induction text generalizing current with
  | nil => rfl
  | cons c text ih =>
      obtain ⟨hc, htext⟩ := List.forall_mem_cons.1 h
      rw [List.cons_append, linesFrom, if_neg (by simp), hc, if_neg (by simp), ih htext,
        List.reverse_cons, List.append_assoc, List.singleton_append]

/-- A text that ends no line is the first line, if nothing or a line feed stands behind it. -/
theorem head?_linesFrom {text rest : List Char} (h : ∀ c ∈ text, isLineBreak c = false)
    (hne : text ≠ []) (hrest : rest = [] ∨ ∃ cs, rest = '\n' :: cs) :
    (linesFrom [] false (text ++ rest)).head? = some text := by
  rw [linesFrom_append h, List.append_nil]
  rcases hrest with rfl | ⟨cs, rfl⟩
  · rw [linesFrom, if_neg (by simpa using hne), List.head?_cons, List.reverse_reverse]
  · rw [linesFrom, if_neg (by simp), if_pos (by decide), List.head?_cons, List.reverse_reverse]

end Text

/-- **The first line of a listing** is that of the name. -/
theorem Program.head?_lines_listing {p : Program}
    (h : ∀ c ∈ p.name.toList, Text.isLineBreak c = false) :
    (Text.lines p.listing).head? = some ("Program: " ++ p.name) := by
  have hfirst : ∀ c ∈ ("Program: " ++ p.name).toList, Text.isLineBreak c = false := by
    rw [String.toList_append, List.forall_mem_append]
    exact ⟨Text.forall_mem_of_all (by decide), h⟩
  have hne : ("Program: " ++ p.name).toList ≠ [] := by
    rw [String.toList_append]
    exact List.cons_ne_nil _ _
  obtain ⟨rest, hlisting, hrest⟩ : ∃ rest, p.listing.toList = ("Program: " ++ p.name).toList ++ rest
      ∧ (rest = [] ∨ ∃ cs, rest = '\n' :: cs) := by
    unfold Program.listing
    cases p.instructions.map fun i => "  " ++ i.text with
    | nil => exact ⟨[], (List.append_nil _).symm, .inl rfl⟩
    | cons l ls =>
        refine ⟨'\n' :: ("\n".intercalate (l :: ls)).toList, ?_, .inr ⟨_, rfl⟩⟩
        rw [String.intercalate_cons_cons, String.toList_append, String.toList_append,
          List.append_assoc]
        rfl
  rw [Text.lines, hlisting, List.head?_map, Text.head?_linesFrom hfirst hne hrest, Option.map_some,
    String.ofList_toList]

namespace CommandLine

open Run (SensorsAnswer)

variable {ω : Type} {env : Surroundings ω} {limit : Int} {codes : List (List Char)} {sh : Shell ω}

/-! ### Names of entries -/

/-- An entry is named for its dialect and its number. -/
theorem name_programOf_cases (n : Nat) (code : List Char) :
    (programOf n code).name = "dense#" ++ toString n
      ∨ (programOf n code).name = "ultra#" ++ toString n := by
  unfold programOf
  split
  · exact .inr rfl
  · exact .inl rfl

theorem toList_toString (n : Nat) : (toString n).toList = Nat.toDigits 10 n := Nat.toList_repr

/-- The name of an entry ends no line. -/
theorem isLineBreak_of_mem_name {n : Nat} {code : List Char} :
    ∀ c ∈ (programOf n code).name.toList, Text.isLineBreak c = false := by
  have hdigits : ∀ c ∈ (toString n).toList, Text.isLineBreak c = false := by
    intro c hc
    rw [toList_toString] at hc
    exact Text.isLineBreak_of_isDigit (Dense.isDigit_of_mem_toDigits c hc)
  rcases name_programOf_cases n code with hname | hname
  · rw [hname, String.toList_append, List.forall_mem_append]
    exact ⟨Text.forall_mem_of_all (by decide), hdigits⟩
  · rw [hname, String.toList_append, List.forall_mem_append]
    exact ⟨Text.forall_mem_of_all (by decide), hdigits⟩

/-- **The name of an entry tells its number,** which stands behind the mark. -/
theorem eq_of_name_programOf_eq {m n : Nat} {code code' : List Char}
    (h : (programOf m code).name = (programOf n code').name) : m = n := by
  have hmark (n : Nat) (code : List Char) :
      (programOf n code).name.toList.dropWhile (· ≠ '#') = '#' :: Nat.toDigits 10 n := by
    rcases name_programOf_cases n code with hname | hname
    · rw [hname, String.toList_append, toList_toString]
      rfl
    · rw [hname, String.toList_append, toList_toString]
      rfl
  have hdigits := congrArg (fun name : String => name.toList.dropWhile (· ≠ '#')) h
  simp only [hmark] at hdigits
  have hvalue := congrArg (Nat.ofDigitChars 10 · 0) (List.cons.inj hdigits).2
  simpa only [Nat.ofDigitChars_ten_toDigits] using hvalue

/-! ### Differences of entries -/

/-- **Listings of entries differ exactly if their numbers do.** -/
theorem diff_programOf_eq_nil_iff (codes : List (List Char)) {m n : Nat} :
    (entryAt codes m).program.diff (entryAt codes n).program = [] ↔ m = n := by
  rw [Program.diff_eq_nil_iff]
  constructor
  · intro h
    have hfirst := congrArg List.head? h
    have hname (n : Nat) : (Text.lines (entryAt codes n).program.listing).head?
        = some ("Program: " ++ (entryAt codes n).program.name) :=
      Program.head?_lines_listing isLineBreak_of_mem_name
    rw [hname, hname] at hfirst
    exact eq_of_name_programOf_eq ((String.append_right_inj _).1 (Option.some.inj hfirst))
  · rintro rfl
    rfl

theorem linesText_cons (l : String) (ls : List String) :
    linesText (l :: ls) = l ++ "\n" ++ linesText ls := by
  have hfrom (text : String) (ls : List String) :
      ls.foldl (fun text l => text ++ l ++ "\n") text = text ++ linesText ls := by
    induction ls generalizing text with
    | nil => simp [linesText]
    | cons l ls ih =>
        have hempty : "" ++ l ++ "\n" = l ++ "\n" := by simp
        rw [linesText, List.foldl_cons, List.foldl_cons, ih, ih (_ ++ _), hempty]
        simp only [String.append_assoc]
  rw [linesText, List.foldl_cons, hfrom]
  simp

/-- The answer to a comparison of two entries that are kept. -/
theorem compared_entryAt (codes : List (List Char)) (m n : Nat) :
    m = n ∧ compared (.ok (entryAt codes m)) (.ok (entryAt codes n)) = "Programs are identical.\n"
      ∨ m ≠ n ∧ ∃ more, compared (.ok (entryAt codes m)) (.ok (entryAt codes n))
          = "--- " ++ (entryAt codes m).program.name ++ "\n+++ "
            ++ (entryAt codes n).program.name ++ "\n" ++ more := by
  unfold compared
  dsimp only
  by_cases h : m = n
  · exact .inl ⟨h, if_pos ((diff_programOf_eq_nil_iff codes).2 h)⟩
  · have hne := mt (diff_programOf_eq_nil_iff codes).1 h
    rw [if_neg hne]
    rcases Diff.unified_cases (entryAt codes m).program.name (entryAt codes n).program.name
        (Text.lines (entryAt codes m).program.listing) (Text.lines (entryAt codes n).program.listing)
      with ⟨_, hnone⟩ | ⟨_, more, hsome⟩
    · exact absurd hnone hne
    · refine .inr ⟨h, linesText more, ?_⟩
      rw [Program.diff, hsome, linesText_cons, linesText_cons]
      have hsplit : "\n+++ " = "\n" ++ "+++ " := by decide
      rw [hsplit]
      simp only [String.append_assoc]

/-! ### Sessions -/

/-- The answer to a comparison of two entries, in a shell that keeps them. -/
theorem HasRun.step_compares (h : HasRun limit codes sh) {x y : Entry} (hx : x ∈ sh.history)
    (hy : y ∈ sh.history) {line : String} (hline : Compares line x.index y.index) :
    x = entryAt codes x.index ∧ y = entryAt codes y.index
      ∧ sh.step env line = .ok (some sh, compared (.ok x) (.ok y)) := by
  rw [h.history] at hx hy
  obtain ⟨m, hm, rfl⟩ := mem_window.1 hx
  obtain ⟨n, hn, rfl⟩ := mem_window.1 hy
  refine ⟨rfl, rfl, ?_⟩
  have hmeant (k : Nat) (hk : firstKept limit codes.length ≤ k ∧ (k : Int) ≤ codes.length) :
      meant limit codes (some (k : Int)) = .ok (entryAt codes k) := if_pos hk
  have hremembers : Remembers env limit codes sh := h.remembers
  have hstep := hremembers.diff line m n hline
  rwa [hmeant m hm, hmeant n hn] at hstep

/-- An entry that the limit allows is kept. -/
theorem HasRun.mem_history (h : HasRun limit codes sh) {n : Nat}
    (hn : firstKept limit codes.length ≤ n ∧ (n : Int) ≤ codes.length) :
    entryAt codes n ∈ sh.history := by
  rw [h.history]
  exact mem_window.2 ⟨n, hn, rfl⟩

/-- **Whatever the session, two entries are said to be identical exactly if they are one.**  Programs of
different numbers are told apart by their names, whatever their instructions, and the answer begins with
these. -/
theorem diff_answers_identical_iff (hs : SensorsAnswer env) (robot : Robot) (world : ω) (limit : Int)
    (echo : Bool) (lines : List String) :
    ∃ sh text, HasRun limit ((heard lines).filterMap codeOf?) sh
      ∧ (∀ printed more, (Shell.new robot world limit echo).run env printed (heard lines ++ more)
          = sh.run env (printed ++ text) more)
      ∧ ∀ x ∈ sh.history, ∀ y ∈ sh.history, ∀ line, Compares line x.index y.index →
          ∃ answer, sh.step env line = .ok (some sh, answer)
            ∧ (answer = "Programs are identical.\n" ↔ x.index = y.index)
            ∧ (x.index ≠ y.index → ∃ more, answer
                = "--- " ++ x.program.name ++ "\n+++ " ++ y.program.name ++ "\n" ++ more) := by
  obtain ⟨sh, text, hsh, hon, _⟩ := exists_run hs lines (hasRun_new robot world limit echo)
  rw [List.nil_append] at hsh
  refine ⟨sh, text, hsh, hon, ?_⟩
  intro x hx y hy line hline
  obtain ⟨hentryX, hentryY, hstep⟩ := hsh.step_compares hx hy hline
  refine ⟨_, hstep, ?_⟩
  rw [hentryX, hentryY]
  rcases compared_entryAt ((heard lines).filterMap codeOf?) x.index y.index with
    ⟨heq, hanswer⟩ | ⟨hne, more, hanswer⟩
  · exact ⟨iff_of_true hanswer heq, fun hne => absurd heq hne⟩
  · refine ⟨iff_of_false (fun hsame => ?_) hne, fun _ => ⟨more, hanswer⟩⟩
    -- the one begins with a hyphen, the other one with a letter
    rw [hanswer] at hsame
    have hchars := congrArg String.toList hsame
    simp only [String.toList_append, List.append_assoc] at hchars
    have hfirst : '-' = 'P' := (List.cons.inj hchars).1
    exact absurd hfirst (by decide)

/-- Sensors that always give the same reading. -/
def steady : Surroundings Unit :=
  ⟨fun _ world => (.ok 7, world), fun _ _ world => (.ok false, world)⟩

theorem sensorsAnswer_steady : SensorsAnswer steady := by
  intro channel world
  obtain ⟨x, hx⟩ := Dense.exists_ofInt? (by decide : Dense.isInt32 7 = true)
  exact ⟨7, world, x, rfl, hx⟩

/-- Three lines of code, of which the first and the last are the same: they are told apart. -/
theorem diff_answers_identical_iff_patrol :
    ∃ (sh : Shell Unit) (x y : Entry) (answer : String), x ∈ sh.history ∧ y ∈ sh.history
      ∧ x.program.instructions = y.program.instructions
      ∧ sh.step steady ":diff 1 3" = .ok (some sh, answer)
      ∧ answer ≠ "Programs are identical.\n" := by
  have hcodes : (heard [">5", ":reset", "?0", ">5"]).filterMap codeOf?
      = [">5".toList, "?0".toList, ">5".toList] := by
    decide +kernel
  obtain ⟨sh, _, hsh, _, hdiff⟩ := diff_answers_identical_iff sensorsAnswer_steady (Robot.new "Coco")
    () 10 false [">5", ":reset", "?0", ">5"]
  rw [hcodes] at hsh
  have hfirst := hsh.mem_history (by decide : firstKept 10 3 ≤ (1 : Nat) ∧ ((1 : Nat) : Int) ≤ 3)
  have hthird := hsh.mem_history (by decide : firstKept 10 3 ≤ (3 : Nat) ∧ ((3 : Nat) : Int) ≤ 3)
  have hcompares : Compares ":diff 1 3" 1 3 :=
    ⟨['1'], ['3'], by decide +kernel, by decide +kernel, by decide +kernel⟩
  obtain ⟨answer, hstep, hidentical, _⟩ := hdiff _ hfirst _ hthird ":diff 1 3" hcompares
  exact ⟨sh, _, _, answer, hfirst, hthird, rfl, hstep,
    fun hsame => absurd (hidentical.1 hsame) (by decide : ¬ 1 = 3)⟩

/-- **The same line entered twice is not recognised.**  The comparison shows the two names. -/
theorem same_line_not_identical :
    ∃ (sh : Shell Unit) (text : String) (x y : Entry),
      (∀ printed more, (Shell.new (Robot.new "Coco") () 10 false).run steady printed
          ([">5", ">5"] ++ more) = sh.run steady (printed ++ text) more)
        ∧ x ∈ sh.history ∧ y ∈ sh.history ∧ x.index = 1 ∧ y.index = 2
        ∧ x.program.instructions = y.program.instructions
        ∧ sh.step steady ":diff 1 2" = .ok (some sh, "--- dense#1\n+++ dense#2\n@@ -1,2 +1,2 @@\n"
            ++ "-Program: dense#1\n+Program: dense#2\n   MOVE(Forward, 5)\n") := by
  have hcodes : (heard [">5", ">5"]).filterMap codeOf? = [">5".toList, ">5".toList] := by
    decide +kernel
  have hheard : heard [">5", ">5"] = [">5", ">5"] := by decide +kernel
  obtain ⟨sh, text, hsh, hon, _⟩ := exists_run sensorsAnswer_steady [">5", ">5"]
    (hasRun_new (Robot.new "Coco") () 10 false)
  rw [List.nil_append, hcodes] at hsh
  rw [hheard] at hon
  have hfirst := hsh.mem_history (by decide : firstKept 10 2 ≤ (1 : Nat) ∧ ((1 : Nat) : Int) ≤ 2)
  have hsecond := hsh.mem_history (by decide : firstKept 10 2 ≤ (2 : Nat) ∧ ((2 : Nat) : Int) ≤ 2)
  have hcompares : Compares ":diff 1 2" 1 2 :=
    ⟨['1'], ['2'], by decide +kernel, by decide +kernel, by decide +kernel⟩
  obtain ⟨_, _, hstep⟩ := hsh.step_compares hfirst hsecond hcompares
  refine ⟨sh, text, _, _, hon, hfirst, hsecond, rfl, rfl, rfl, hstep.trans ?_⟩
  have hanswer : compared (.ok (entryAt [">5".toList, ">5".toList] 1))
      (.ok (entryAt [">5".toList, ">5".toList] 2))
        = "--- dense#1\n+++ dense#2\n@@ -1,2 +1,2 @@\n"
          ++ "-Program: dense#1\n+Program: dense#2\n   MOVE(Forward, 5)\n" := by
    decide +kernel
  rw [hanswer]

end CommandLine

end RobotShorthand
