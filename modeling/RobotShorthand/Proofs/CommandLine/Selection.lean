/-
**Every selection ends in a program or in a failure that is reported.**

Options that are accepted have exactly one source: a later source excludes an earlier one of another
kind, and dense code is supplied when there is none.  From a source there comes a program, or one of two
failures: the code is refused, or the behaviour is not in the library; and an invocation prints either
failure and runs nothing.

This is so for every source that says something.  A source can also be given and say nothing: the name
of a behaviour can be empty, and any value can be taken away by a double dash behind an equals sign.
Whether a source is given is asked in one way when the options are taken, and in another when the program
is selected, where an empty name counts as none.  Such a name leaves no source at all, and the selection
ends in a breakdown.

Main definitions:

* `Options.selectedText?` — the text that is compiled, and how it is written;
* `Options.failureText?` — what is printed of a failure;
* `EndsReported` — **options that end in a program or in a failure that is reported;**
* `SaysSource` — options whose source says something.

Main results:

* `length_sources_take`, `length_sources_takeAll` — no option and no list of options adds a second
  source;
* `length_sources_parseOptions` — **options that are accepted have exactly one source;**
* `endsReported_iff` — **options that are accepted end in a program or in a failure that is reported
  exactly if their source says something;**
* `empty_name_breaks_down` — the empty name of a behaviour ends in neither.
-/

import RobotShorthand.CommandLine.Invocation

set_option relaxedAutoImplicit false
set_option autoImplicit false

namespace RobotShorthand

namespace CommandLine

/-! ### Sources -/

namespace Options

variable {o o' : Options} {s : Switch} {value : Setting String}

/-- An option that is no source leaves the sources as they are. -/
theorem sources_give (hs : s.isSource = false) (h : o.give s value = .ok o') :
    o'.sources = o.sources := by
  unfold give at h
  cases s with
  | help => exact absurd h (by simp)
  | src => exact absurd hs (by decide)
  | ultra => exact absurd hs (by decide)
  | behavior => exact absurd hs (by decide)
  | seed =>
      cases value with
      | nothing =>
          obtain rfl := Except.ok.inj h
          rfl
      | written text =>
          simp only at h
          split at h
          · obtain rfl := Except.ok.inj h
            rfl
          · exact absurd h (by simp)
  | _ =>
      obtain rfl := Except.ok.inj h
      rfl

/-- What is given for an option that is a source. -/
def given? (o : Options) : Switch → Option (Setting String)
  | .src => o.src
  | .ultra => o.ultra
  | .behavior => o.behavior
  | _ => none

theorem mem_sources : s ∈ o.sources ↔ (o.given? s).isSome = true := by
  simp only [sources, List.mem_filterMap, List.mem_cons, List.not_mem_nil, or_false,
    exists_eq_or_imp, exists_eq_left, Option.map_eq_some_iff, exists_and_right,
    ← Option.isSome_iff_exists]
  cases s <;> simp [given?]

/-- Where one source only can have been given, there is nothing for the others. -/
theorem given?_eq_none {s' : Switch} (honly : ∀ s' ∈ o.sources, s' = s) (hne : s' ≠ s) :
    o.given? s' = none := by
  cases hgiven : o.given? s' with
  | none => rfl
  | some v => exact absurd (honly s' (mem_sources.2 (by rw [hgiven]; rfl))) hne

/-- The one source is the option that is given, if no other has been given before. -/
theorem sources_give_source (hs : s.isSource = true) (honly : ∀ s' ∈ o.sources, s' = s)
    (h : o.give s value = .ok o') : o'.sources = [s] := by
  unfold give at h
  cases s with
  | src =>
      have hultra : o.given? .ultra = none := given?_eq_none honly (by decide)
      have hbehavior : o.given? .behavior = none := given?_eq_none honly (by decide)
      simp only [given?] at hultra hbehavior
      obtain rfl := Except.ok.inj h
      simp [sources, hultra, hbehavior]
  | ultra =>
      have hsrc : o.given? .src = none := given?_eq_none honly (by decide)
      have hbehavior : o.given? .behavior = none := given?_eq_none honly (by decide)
      simp only [given?] at hsrc hbehavior
      obtain rfl := Except.ok.inj h
      simp [sources, hsrc, hbehavior]
  | behavior =>
      have hsrc : o.given? .src = none := given?_eq_none honly (by decide)
      have hultra : o.given? .ultra = none := given?_eq_none honly (by decide)
      simp only [given?] at hsrc hultra
      obtain rfl := Except.ok.inj h
      simp [sources, hsrc, hultra]
  | _ => exact absurd hs (by decide)

/-- **No option adds a second source.** -/
theorem length_sources_take (ho : o.sources.length ≤ 1) (h : o.take s value = .ok o') :
    o'.sources.length ≤ 1 := by
  unfold take at h
  cases hs : s.isSource with
  | false =>
      rw [hs] at h
      rwa [sources_give hs h]
  | true =>
      rw [hs, if_pos rfl] at h
      cases hother : o.sources.find? (· ≠ s) with
      | some earlier =>
          rw [hother] at h
          exact absurd h (by simp)
      | none =>
          rw [hother] at h
          have honly : ∀ s' ∈ o.sources, s' = s := by
            intro s' hs'
            simpa using List.find?_eq_none.1 hother s' hs'
          rw [sources_give_source hs honly h]
          exact Nat.le_refl 1

end Options

/-- **What every single option keeps is kept by a list of arguments.** -/
theorem takeAll_induction {P : Options → Prop}
    (hstep : ∀ o o' s value, P o → o.take s value = .ok o' → P o') {o o' : Options}
    {leftOver leftOver' : List String} {cs : List Classified} (ho : P o)
    (h : takeAll o leftOver cs = .ok (o', leftOver')) : P o' := by
  -- along the arguments; where one is refused there are no options in the end
  fun_induction takeAll o leftOver cs with
  | case1 o leftOver =>
      obtain ⟨rfl, rfl⟩ := Prod.mk.inj (Except.ok.inj h)
      exact ho
  | case2 o leftOver c rest _ ih => exact ih ho h
  | case3 o leftOver c rest _ ih => exact ih ho h
  | case6 o leftOver c rest s value _ _ o₁ htake ih => exact ih (hstep o o₁ s _ ho htake) h
  | case9 o leftOver c rest s _ value behind _ _ o₁ htake ih =>
      exact ih (hstep o o₁ s _ ho htake) h
  | case11 o leftOver c rest s _ value behind _ _ o₁ htake ih =>
      exact ih (hstep o o₁ s _ ho htake) h
  | case13 o leftOver c rest s _ o₁ htake _ _ _ ih => exact ih (hstep o o₁ s _ ho htake) h
  | _ => exact absurd h (by simp)

/-- No list of arguments has a second source. -/
theorem length_sources_takeAll {o : Options} {leftOver : List String} {cs : List Classified}
    (h : takeAll .initial [] cs = .ok (o, leftOver)) : o.sources.length ≤ 1 :=
  takeAll_induction (P := fun o => o.sources.length ≤ 1)
    (fun _ _ _ _ => Options.length_sources_take) (by decide) h

/-- The default code is the one source where there is none. -/
theorem length_sources_withDefaultCode {o : Options} (h : o.sources.length ≤ 1) :
    o.withDefaultCode.sources.length = 1 := by
  unfold Options.withDefaultCode
  split
  · rename_i hempty
    have honly : ∀ s ∈ o.sources, s = .src := by
      intro s hs
      rw [List.isEmpty_iff.1 hempty] at hs
      exact absurd hs List.not_mem_nil
    have hgiven : o.give .src (.written Options.defaultCode)
        = .ok { o with src := some (.written Options.defaultCode) } := rfl
    exact congrArg List.length (Options.sources_give_source rfl honly hgiven)
  · rename_i hsome
    have hpos : 0 < o.sources.length := List.length_pos_iff.2 fun hnil => hsome (by simp [hnil])
    omega

/-- **Options that are accepted have exactly one source.** -/
theorem length_sources_parseOptions {arguments : List String} {o : Options}
    (h : parseOptions arguments = .ok o) : o.sources.length = 1 := by
  unfold parseOptions at h
  cases hclassified : classifyAll arguments with
  | error refusal =>
      rw [hclassified] at h
      exact absurd h (fun h => nomatch h)
  | ok cs =>
      rw [hclassified] at h
      cases htaken : takeAll .initial [] cs with
      | error refusal =>
          simp only [bind, Except.bind, htaken] at h
          exact absurd h (by simp)
      | ok taken =>
          obtain ⟨o₁, leftOver⟩ := taken
          simp only [bind, Except.bind, htaken] at h
          split at h
          · obtain rfl := Except.ok.inj h
            exact length_sources_withDefaultCode (length_sources_takeAll htaken)
          · exact absurd h (fun h => nomatch h)

/-! ### Programs of a source -/

namespace Options

/-- **The text that is compiled,** and how it is written: ultra-dense code, or else dense code. -/
def selectedText? (o : Options) : Option (Dialect × String) :=
  match o.ultra, o.src with
  | some code, _ => some (.ultra, code.getD "")
  | none, some (.written code) => some (.dense, code)
  | none, _ => none

/-- An invocation comes to select a program unless it lists the library, lacks its seed or starts a
shell. -/
def ComesToSelection (o : Options) : Prop :=
  o.listBehaviors = false ∧ o.seed ≠ some .nothing ∧ o.repl = false

/-- **Options whose source says something:** no behaviour of an empty name, and no behaviour and no dense
code that is given as nothing. -/
def SaysSource (o : Options) : Prop :=
  o.behavior ≠ some (.written "") ∧ o.behavior ≠ some .nothing ∧ o.src ≠ some .nothing

variable {o : Options}

/-- Code is refused exactly by strict compiling, for its errors. -/
theorem compile_eq_error_iff {d : Dialect} {code : String} {e : SelectionError} :
    o.compile d code = .error e
      ↔ e = .refused (d.report code) ∧ o.strict = true ∧ (d.report code).errors ≠ [] := by
  unfold compile Dialect.compileStrict
  cases o.strict with
  | false => simp
  | true =>
      by_cases haccepted : (d.report code).isAccepted = true
      · have hnone : (d.report code).errors = [] := by simpa [Report.isAccepted] using haccepted
        simp [haccepted, hnone]
      · have hsome : (d.report code).errors ≠ [] := by simpa [Report.isAccepted] using haccepted
        simp [haccepted, hsome, eq_comm]

/-- The one source: dense code, ultra-dense code, or a behaviour. -/
theorem source_cases (h : o.sources.length = 1) :
    (∃ v, o.src = some v ∧ o.ultra = none ∧ o.behavior = none)
      ∨ (∃ v, o.src = none ∧ o.ultra = some v ∧ o.behavior = none)
      ∨ ∃ v, o.src = none ∧ o.ultra = none ∧ o.behavior = some v := by
  obtain ⟨src, ultra, behavior⟩ := o
  cases src <;> cases ultra <;> cases behavior <;> simp_all [sources]

/-- **What is selected from the one source:** a behaviour that is named, a text, or nothing at all. -/
theorem program_cases (h : o.sources.length = 1) :
    (∃ name, name ≠ "" ∧ o.src = none ∧ o.ultra = none ∧ o.behavior = some (.written name))
      ∨ (∃ d code, o.behavior = none ∧ o.src ≠ some .nothing ∧ o.selectedText? = some (d, code)
          ∧ o.program = o.compile d code)
      ∨ ¬ o.SaysSource ∧ (o.program = .error .noCode ∨ o.program = .error .codeNotWritten) := by
  rcases source_cases h with ⟨code, hsrc, hultra, hbehavior⟩ | ⟨code, hsrc, hultra, hbehavior⟩
    | ⟨name, hsrc, hultra, hbehavior⟩
  · cases code with
    | written code =>
        refine .inr (.inl ⟨.dense, code, hbehavior, by simp [hsrc], ?_, ?_⟩)
        · simp only [selectedText?, hultra, hsrc]
        · simp only [program, programOfCode, hbehavior, hultra, hsrc]
    | nothing =>
        refine .inr (.inr ⟨fun hsays => hsays.2.2 hsrc, .inr ?_⟩)
        simp only [program, programOfCode, hbehavior, hultra, hsrc]
  · refine .inr (.inl ⟨.ultra, code.getD "", hbehavior, by simp [hsrc], ?_, ?_⟩)
    · simp only [selectedText?, hultra]
    · simp only [program, programOfCode, hbehavior, hultra]
  · cases name with
    | nothing =>
        refine .inr (.inr ⟨fun hsays => hsays.2.1 hbehavior, .inl ?_⟩)
        simp only [program, programOfCode, hbehavior, hultra, hsrc]
    | written name =>
        by_cases hname : name = ""
        · subst hname
          refine .inr (.inr ⟨fun hsays => hsays.1 hbehavior, .inl ?_⟩)
          simp only [program, programOfCode, hbehavior, hultra, hsrc, if_pos]
        · exact .inl ⟨name, hname, hsrc, hultra, hbehavior⟩

/-- A behaviour that is named is looked up. -/
theorem program_of_named {name : String} (hname : name ≠ "")
    (h : o.behavior = some (.written name)) :
    o.program = (behaviour? name).elim (.error (.unknownBehaviour name)) .ok := by
  simp only [program, h, if_neg hname]
  cases behaviour? name <;> rfl

end Options

/-! ### Failures -/

/-- What is printed of a failure. -/
def SelectionError.failureText? : SelectionError → Option String
  | refused report => some (refusalText report)
  | unknownBehaviour name => some ("  ✗ " ++ unknownBehaviourMessage name ++ "\n")
  | noCode => none
  | codeNotWritten => none

/-- **Options that end in a program or in a failure that is reported.** -/
structure EndsReported (o : Options) : Prop where
  /-- there is a program, or one of two failures -/
  outcome : (∃ p, o.program = .ok p) ∨ (∃ report, o.program = .error (.refused report))
    ∨ ∃ name, o.program = .error (.unknownBehaviour name)
  /-- code is refused if and only if it is compiled strictly and has errors -/
  refused_iff : ∀ report, o.program = .error (.refused report)
    ↔ o.strict = true ∧ ∃ d code, o.selectedText? = some (d, code) ∧ report = d.report code
        ∧ report.errors ≠ []
  /-- a behaviour is unknown if and only if the name that is given is not in the library -/
  unknown_iff : ∀ name, o.program = .error (.unknownBehaviour name)
    ↔ o.behavior = some (.written name) ∧ behaviour? name = none
  /-- a failure is printed behind the source, with exit code 1, and nothing else happens -/
  reported : ∀ e, o.program = .error e → o.ComesToSelection →
    ∃ text, e.failureText? = some text
      ∧ ∀ {ω : Type} (env : Surroundings ω) (world : ω) (lines : List String),
          invoke env o world lines = .ok (.printing (sourceText o ++ text) 1)

section Failures

variable {o : Options}

/-- An invocation that comes to a failure prints it, and no instruction is executed. -/
theorem invoke_of_failure {e : SelectionError} {text : String} (ho : o.ComesToSelection)
    (he : o.program = .error e) (htext : e.failureText? = some text) {ω : Type}
    (env : Surroundings ω) (world : ω) (lines : List String) :
    invoke env o world lines = .ok (.printing (sourceText o ++ text) 1) := by
  obtain ⟨hlist, hseed, hrepl⟩ := ho
  unfold invoke
  simp only [hlist, hrepl, he, if_neg hseed, Bool.false_eq_true, if_false]
  cases e with
  | refused report =>
      obtain rfl := Option.some.inj htext
      rfl
  | unknownBehaviour name =>
      obtain rfl := Option.some.inj htext
      simp only [String.append_assoc]
  | noCode => exact absurd htext (by simp [SelectionError.failureText?])
  | codeNotWritten => exact absurd htext (by simp [SelectionError.failureText?])

/-- A behaviour that is named is in the library, or is reported. -/
theorem endsReported_of_named {name : String} (hname : name ≠ "") (hsrc : o.src = none)
    (hultra : o.ultra = none) (h : o.behavior = some (.written name)) : EndsReported o := by
  have hprogram := Options.program_of_named hname h
  have htext : o.selectedText? = none := by simp only [Options.selectedText?, hultra, hsrc]
  cases hlookup : behaviour? name with
  | some p =>
      rw [hlookup, Option.elim_some] at hprogram
      refine ⟨.inl ⟨p, hprogram⟩, ?_, ?_, ?_⟩
      · intro report
        simp [hprogram, htext]
      · intro name'
        simp only [hprogram, h, Option.some.injEq, Setting.written.injEq, reduceCtorEq, false_iff]
        rintro ⟨rfl, hnone⟩
        exact absurd (hlookup.symm.trans hnone) (by simp)
      · intro e he
        exact absurd (hprogram.symm.trans he) (by simp)
  | none =>
      rw [hlookup, Option.elim_none] at hprogram
      refine ⟨.inr (.inr ⟨name, hprogram⟩), ?_, ?_, ?_⟩
      · intro report
        simp [hprogram, htext]
      · intro name'
        simp only [hprogram, h, Except.error.injEq, SelectionError.unknownBehaviour.injEq,
          Option.some.injEq, Setting.written.injEq]
        constructor
        · rintro rfl
          exact ⟨rfl, hlookup⟩
        · exact And.left
      · intro e he ho
        obtain rfl := Except.error.inj (hprogram.symm.trans he)
        exact ⟨_, rfl, invoke_of_failure ho hprogram rfl⟩

/-- A text compiles, or is reported for its errors. -/
theorem endsReported_of_text {d : Dialect} {code : String} (hbehavior : o.behavior = none)
    (htext : o.selectedText? = some (d, code)) (hprogram : o.program = o.compile d code) :
    EndsReported o := by
  have herror (e : SelectionError) : o.program = .error e
      ↔ e = .refused (d.report code) ∧ o.strict = true ∧ (d.report code).errors ≠ [] := by
    rw [hprogram]
    exact Options.compile_eq_error_iff
  refine ⟨?_, ?_, ?_, ?_⟩
  · cases hp : o.program with
    | ok p => exact .inl ⟨p, rfl⟩
    | error e =>
        obtain ⟨rfl, _⟩ := (herror e).1 hp
        exact .inr (.inl ⟨_, rfl⟩)
  · intro report
    rw [herror, htext]
    constructor
    · rintro ⟨hreport, hstrict, herrors⟩
      obtain rfl := SelectionError.refused.inj hreport
      exact ⟨hstrict, d, code, rfl, rfl, herrors⟩
    · rintro ⟨hstrict, d', code', hsame, rfl, herrors⟩
      obtain ⟨rfl, rfl⟩ := Prod.mk.inj (Option.some.inj hsame)
      exact ⟨rfl, hstrict, herrors⟩
  · intro name
    rw [herror, hbehavior]
    simp
  · intro e he ho
    obtain ⟨rfl, _⟩ := (herror e).1 he
    exact ⟨_, rfl, invoke_of_failure ho he rfl⟩

/-- Without any code there is neither a program nor a failure that is reported. -/
theorem EndsReported.ne_breakdown (h : EndsReported o) :
    o.program ≠ .error .noCode ∧ o.program ≠ .error .codeNotWritten := by
  rcases h.outcome with ⟨p, hp⟩ | ⟨report, hp⟩ | ⟨name, hp⟩ <;> simp [hp]

/-- **Options that are accepted end in a program or in a failure that is reported exactly if their
source says something.** -/
theorem endsReported_iff {arguments : List String} (h : parseOptions arguments = .ok o) :
    EndsReported o ↔ o.SaysSource := by
  rcases Options.program_cases (length_sources_parseOptions h) with
    ⟨name, hname, hsrc, hultra, hbehavior⟩ | ⟨d, code, hbehavior, hsrc, htext, hprogram⟩
    | ⟨hsilent, hprogram⟩
  · refine ⟨fun _ => ⟨?_, by simp [hbehavior], by simp [hsrc]⟩, fun _ => ?_⟩
    · simpa [hbehavior] using hname
    · exact endsReported_of_named hname hsrc hultra hbehavior
  · refine ⟨fun _ => ⟨by simp [hbehavior], by simp [hbehavior], hsrc⟩, fun _ => ?_⟩
    exact endsReported_of_text hbehavior htext hprogram
  · refine ⟨fun hends => ?_, fun hsays => absurd hsays hsilent⟩
    rcases hprogram with hnone | hnothing
    · exact absurd hnone hends.ne_breakdown.1
    · exact absurd hnothing hends.ne_breakdown.2

/-- An open bracket that is compiled strictly ends in a failure that is reported. -/
theorem endsReported_iff_open_bracket :
    let o : Options := { Options.initial with src := some (.written "[2"), strict := true }
    parseOptions ["--src=[2", "--strict"] = .ok o ∧ EndsReported o
      ∧ o.program = .error (.refused (Dialect.dense.report "[2")) := by
  intro o
  have haccepted : parseOptions ["--src=[2", "--strict"] = .ok o := by cbv
  have hends : EndsReported o :=
    (endsReported_iff haccepted).2 ⟨by decide, by decide, by decide⟩
  refine ⟨haccepted, hends, (hends.refused_iff _).2 ⟨rfl, .dense, "[2", rfl, rfl, ?_⟩⟩
  decide +kernel

/-- **The empty name of a behaviour is not reported.**  It is given, so no default code is supplied; it
is not in the library; and when the program is selected it counts as no name, so there is no source. -/
theorem empty_name_breaks_down :
    let o : Options := { Options.initial with behavior := some (.written "") }
    parseOptions ["--behavior", ""] = .ok o ∧ behaviour? "" = none
      ∧ o.program = .error .noCode ∧ ¬ EndsReported o := by
  intro o
  have hprogram : o.program = .error .noCode := rfl
  refine ⟨by cbv, by decide +kernel, hprogram, fun hends => ?_⟩
  exact absurd hprogram hends.ne_breakdown.1

end Failures

end CommandLine

end RobotShorthand
