/-
**Headings and turns.**

A turn adds its degrees to the heading and takes the remainder by a whole turn, so the heading is reduced
once for every turn that is made.  How many those are is not to be read off the program: loops repeat
them, and readings decide between branches.  Still a robot ends up where one reduction of the total would
have put it, because a remainder is not changed by reducing a summand first.  What counts are the degrees
that were made, and not the order in which they were.

For a heading that is a double this needs sums that are exact.  A heading is below `2 ^ 52` in the
beginning and below a whole turn after the first turn, and the degrees of a compiled program are integers
of 32 bits, so no sum comes near `2 ^ 53`.

Main definitions:

* `Route`, `Turned` — **moves of the machine with the turns made on the way,** and a run that completes
  with its turns;
* `Number.turnedBy`, `AddsUp` — a whole heading after some degrees, computed and described.

Main results:

* `exists_route_iff`, `exists_turned_iff` — every run has its turns;
* `heading_of_moves` — nothing but a turn changes the heading;
* `heading_of_route` — **the turns of a route add up;**
* `exists_turned_loop` — a loop around a turn makes it as often as it says;
* `heading_runProgram` — **after a compiled program, the heading is the sum of what was there and of all
  turns,** and their order does not matter.
-/

import Mathlib.Algebra.BigOperators.Group.List.Basic
import Mathlib.Data.Int.ModEq
import RobotShorthand.Proofs.Number.Whole
import RobotShorthand.Proofs.Run.Completion
import RobotShorthand.Proofs.Run.Faults

set_option relaxedAutoImplicit false
set_option autoImplicit false

namespace RobotShorthand

/-! ### Whole degrees -/

/-- A number that is the whole number `h`, after turns: the sum, reduced once, and unchanged without a
turn. -/
def Number.turnedBy (x : Number) (h : Int) (degrees : List Int) : Number :=
  if degrees = [] then x else x.replaced ((h + degrees.sum) % Robot.wholeTurn).toNat

namespace Number

variable {x : Number} {h n : Int} {degrees : List Int}

theorem turnedBy_nil : x.turnedBy h [] = x := if_pos rfl

theorem turnedBy_of_ne_nil (hne : degrees ≠ []) :
    x.turnedBy h degrees = x.replaced ((h + degrees.sum) % Robot.wholeTurn).toNat := if_neg hne

/-- The order of the turns does not matter. -/
theorem turnedBy_perm {degrees' : List Int} (hperm : degrees'.Perm degrees) :
    x.turnedBy h degrees' = x.turnedBy h degrees := by
  by_cases hempty : degrees = []
  · subst hempty
    rw [hperm.eq_nil]
  · have hempty' : degrees' ≠ [] := fun hnil => hempty (hnil ▸ hperm).nil_eq.symm
    rw [turnedBy_of_ne_nil hempty, turnedBy_of_ne_nil hempty', hperm.sum_eq]

/-- A remainder by a whole turn is below the bound of whole numbers. -/
theorem toNat_emod_wholeTurn_lt (h : Int) : (h % Robot.wholeTurn).toNat < wholeLimit := by
  simp only [Robot.wholeTurn, wholeLimit]
  omega

/-- **One turn more:** the sum is reduced once more, which makes no difference to reducing it once. -/
theorem IsWhole.exists_turnedBy (hx : x.IsWhole h) (hn : Dense.isInt32 n = true)
    (degrees : List Int) :
    ∃ sum, (x.turnedBy h degrees).add? (.int n) = some sum
      ∧ sum.modulo Robot.wholeTurn = x.turnedBy h (degrees ++ [n]) := by
  have hpos : 0 < Robot.wholeTurn := by decide
  have hlt : Robot.wholeTurn < wholeLimit := by decide
  have hne : degrees ++ [n] ≠ [] := by simp
  rw [turnedBy_of_ne_nil hne, List.sum_append, List.sum_singleton, ← Int.add_assoc]
  by_cases hempty : degrees = []
  · obtain ⟨sum, hsum, hmodulo⟩ := hx.exists_sum hn hpos hlt
    subst hempty
    exact ⟨sum, hsum, by rw [hmodulo, List.sum_nil, Int.add_zero]⟩
  · rw [turnedBy_of_ne_nil hempty]
    have hreduced := isWhole_replaced x (toNat_emod_wholeTurn_lt (h + degrees.sum))
    obtain ⟨sum, hsum, hmodulo⟩ := hreduced.exists_sum hn hpos hlt
    have hnonneg : 0 ≤ (h + degrees.sum) % (Robot.wholeTurn : Int) :=
      Int.emod_nonneg _ (by decide)
    rw [replaced_replaced, Int.toNat_of_nonneg hnonneg, Int.emod_add_emod] at hmodulo
    exact ⟨sum, hsum, hmodulo⟩

end Number

namespace Run

variable {ω : Type} {env : Surroundings ω}

/-! ### Turns on the way -/

/-- The degrees of the turn that the next move makes, if it makes one. -/
def turnsOf : Config ω → List Number
  | (⟨.turn degrees :: _, _⟩ :: _, _) => [degrees]
  | _ => []

/-- **Moves of the machine, with the turns made on the way,** in order. -/
inductive Route (env : Surroundings ω) (c : Config ω) : List Number → Config ω → Prop
  | start : Route env c [] c
  | next {turns : List Number} {c' c'' : Config ω} :
      Route env c turns c' → Moves env c' c'' → Route env c (turns ++ turnsOf c') c''

/-- **Every run has its turns,** and what has turns is a run. -/
theorem exists_route_iff {c c' : Config ω} :
    (∃ turns, Route env c turns c') ↔ Relation.ReflTransGen (Moves env) c c' := by
  constructor
  · rintro ⟨turns, h⟩
    induction h with
    | start => exact .refl
    | next _ hmove ih => exact ih.tail hmove
  · intro h
    induction h with
    | refl => exact ⟨[], .start⟩
    | tail _ hmove ih =>
        obtain ⟨turns, hturns⟩ := ih
        exact ⟨_, hturns.next hmove⟩

/-- **A run of a program that completes, with its turns:** from the line that announces it until nothing
is left, up to the line that says it is complete. -/
def Turned (env : Surroundings ω) (p : Program) (s : RunState ω) (turns : List Number)
    (s' : RunState ω) : Prop :=
  ∃ t, Route env ([.block p.instructions], s.say ("=== Running program: " ++ p.name ++ " ==="))
      turns ([], t)
    ∧ s' = t.say ("=== Program complete: " ++ p.name ++ " ===")

/-- The runs with turns are the runs that complete. -/
theorem exists_turned_iff {p : Program} {s s' : RunState ω} :
    (∃ turns, Turned env p s turns s') ↔ ∃ summary, runProgram env p s = (.ok summary, s') := by
  constructor
  · rintro ⟨turns, t, hroute, rfl⟩
    exact runProgram_of_executeBlock (execute_eq_ok_iff.2 (exists_route_iff.1 ⟨turns, hroute⟩))
  · rintro ⟨summary, h⟩
    obtain ⟨t, hrun, rfl, _, _⟩ := executeBlock_of_runProgram h
    obtain ⟨turns, hroute⟩ := exists_route_iff.2 (execute_eq_ok_iff.1 hrun)
    exact ⟨turns, t, hroute, rfl⟩

/-! ### What changes the heading -/

/-- An instruction without a turn keeps the heading. -/
theorem heading_of_enter {i : Instruction} {s s' : RunState ω} {f? : Option Frame}
    (h : enter env i s = (.ok f?, s')) (hi : i.kind ≠ .turn) :
    s'.robot.heading = s.robot.heading := by
  by_cases hsense : i.kind = .sense
  · cases i with
    | sense kind sensor target =>
        rw [enter] at h
        rcases sense_cases env kind sensor target s with ⟨_, _, _, hread⟩ | ⟨_, _, _, hread⟩
        · rw [hread] at h
          exact absurd (congrArg Prod.fst h) (by simp [closed])
        · rw [hread] at h
          obtain rfl := congrArg Prod.snd h
          rfl
    | _ => exact absurd hsense (by simp [Instruction.kind])
  · exact part_of_enter Robot.heading (fun _ _ => rfl) (fun _ _ => rfl) h hi hsense

/-- A turn that is made adds its degrees and takes the remainder. -/
theorem heading_of_enter_turn {degrees : Number} {s s' : RunState ω} {f? : Option Frame}
    (h : enter env (.turn degrees) s = (.ok f?, s')) :
    ∃ sum, s.robot.heading.add? degrees = some sum
      ∧ s'.robot.heading = sum.modulo Robot.wholeTurn := by
  rw [enter] at h
  rcases turn_cases degrees s with ⟨sum, hsum, hturn⟩ | ⟨_, hturn⟩
  · rw [hturn] at h
    obtain rfl := congrArg Prod.snd h
    exact ⟨sum, hsum, rfl⟩
  · rw [hturn] at h
    exact absurd (congrArg Prod.fst h) (by simp [closed])

/-- **A move changes the heading only by a turn,** and then by the degrees of that turn. -/
theorem heading_of_moves {c c' : Config ω} (h : Moves env c c') :
    (turnsOf c = [] ∧ c'.2.robot.heading = c.2.robot.heading)
      ∨ ∃ degrees is supply fs sum, c.1 = ⟨.turn degrees :: is, supply⟩ :: fs ∧ turnsOf c = [degrees]
          ∧ c.2.robot.heading.add? degrees = some sum
          ∧ c'.2.robot.heading = sum.modulo Robot.wholeTurn := by
  cases h with
  | @act i is supply fs s s' _ henter =>
      cases i with
      | turn degrees =>
          obtain ⟨sum, hsum, hheading⟩ := heading_of_enter_turn henter
          exact .inr ⟨degrees, is, supply, fs, sum, rfl, rfl, hsum, hheading⟩
      | _ =>
          have hkept := heading_of_enter henter (by simp [Instruction.kind])
          exact .inl ⟨rfl, hkept⟩
  | @opens i is supply f fs s s' _ henter =>
      have hopens := opens_of_enter henter
      have hturn : i.kind ≠ .turn := by cases hopens <;> simp [Instruction.kind]
      have hkept := heading_of_enter henter hturn
      refine .inl ⟨?_, hkept⟩
      cases hopens <;> rfl
  | again _ htest => exact .inl ⟨rfl, congrArg Robot.heading (robot_of_test htest)⟩
  | refused _ htest => exact .inl ⟨rfl, congrArg Robot.heading (robot_of_test htest)⟩
  | done => exact .inl ⟨rfl, rfl⟩
  | @broken i is supply fs s hn =>
      refine .inl ⟨?_, rfl⟩
      cases i with
      | turn => exact absurd hn (by simp [Instruction.isNothing])
      | _ => rfl
  | iterate => exact .inl ⟨rfl, rfl⟩
  | iterated => exact .inl ⟨rfl, rfl⟩
  | ceiling => exact .inl ⟨rfl, rfl⟩

/-! ### Turns add up -/

/-- **The turns of a route add up,** if they are integers of 32 bits. -/
theorem heading_of_route {c c' : Config ω} {turns : List Number} {h : Int}
    (hh : c.2.robot.heading.IsWhole h) (hc : ∀ f ∈ c.1, f.Within Dense.IsShaped)
    (hroute : Route env c turns c') :
    ∃ degrees : List Int, turns = degrees.map .int
      ∧ c'.2.robot.heading = c.2.robot.heading.turnedBy h degrees := by
  induction hroute with
  | start => exact ⟨[], rfl, Number.turnedBy_nil.symm⟩
  | @next turns c' c'' hroute hmove ih =>
      obtain ⟨degrees, rfl, hheading⟩ := ih
      rcases heading_of_moves hmove with
        ⟨hnone, hkept⟩ | ⟨turn, is, supply, fs, sum, hframes, hone, hsum, hturned⟩
      · exact ⟨degrees, by rw [hnone, List.append_nil], hkept.trans hheading⟩
      · have hwithin := within_of_reflTransGen hc (exists_route_iff.1 ⟨_, hroute⟩)
        rw [hframes] at hwithin
        have hframe := (List.forall_mem_cons.1 hwithin).1
        obtain ⟨n, hn, rfl⟩ := (within_cons.1 hframe).1.head
        obtain ⟨sum', hsum', hmodulo⟩ := hh.exists_turnedBy hn degrees
        rw [hheading, hsum'] at hsum
        obtain rfl := Option.some.inj hsum
        exact ⟨degrees ++ [n], by rw [hone, List.map_append]; rfl, hturned.trans hmodulo⟩

/-- **A heading after turns of whole degrees:** as it was without a turn, else the whole number from 0 up
to a whole turn that differs from the sum by whole turns. -/
structure AddsUp (x : Number) (h : Int) (degrees : List Int) (y : Number) : Prop where
  kept : degrees = [] → y = x
  reduced : degrees ≠ [] → ∃ r : Int, 0 ≤ r ∧ r < 360 ∧ r ≡ h + degrees.sum [ZMOD 360] ∧ y.IsWhole r

theorem addsUp_turnedBy (x : Number) (h : Int) (degrees : List Int) :
    AddsUp x h degrees (x.turnedBy h degrees) := by
  constructor
  · rintro rfl
    exact Number.turnedBy_nil
  · intro hne
    have hnonneg : 0 ≤ (h + degrees.sum) % (360 : Int) := Int.emod_nonneg _ (by decide)
    have hlt : (h + degrees.sum) % (360 : Int) < 360 := Int.emod_lt_of_pos _ (by decide)
    have hreduced : (x.replaced ((h + degrees.sum) % (360 : Int)).toNat).IsWhole
        ((h + degrees.sum) % (360 : Int)).toNat :=
      Number.isWhole_replaced x (Number.toNat_emod_wholeTurn_lt _)
    rw [Int.toNat_of_nonneg hnonneg] at hreduced
    refine ⟨(h + degrees.sum) % 360, hnonneg, hlt, Int.mod_modEq _ _, ?_⟩
    rw [Number.turnedBy_of_ne_nil hne]
    exact hreduced

/-- The turns of a compiled program add up. -/
theorem heading_of_turned {d : Dialect} {code name : String} {s s' : RunState ω} {h : Int}
    {turns : List Number} (hh : s.robot.heading.IsWhole h)
    (hturned : Turned env (d.compile code name) s turns s') :
    ∃ degrees : List Int, turns = degrees.map .int
      ∧ s'.robot.heading = s.robot.heading.turnedBy h degrees := by
  obtain ⟨t, hroute, rfl⟩ := hturned
  have hwithin : ∀ f ∈ [Frame.block (d.compile code name).instructions],
      f.Within Dense.IsShaped := within_singleton (throughout_isShaped_compile d code name)
  exact heading_of_route hh hwithin hroute

/-- **After a compiled program, the heading is the sum of what was there and of all turns that were
made,** reduced once.  Any other run from the same heading with the same turns, in whatever order, ends
with the same heading. -/
theorem heading_runProgram (env : Surroundings ω) (d : Dialect) (code name : String)
    {s s' : RunState ω} {summary : Summary} {h : Int} (hh : s.robot.heading.IsWhole h)
    (hrun : runProgram env (d.compile code name) s = (.ok summary, s')) :
    (∃ turns, Turned env (d.compile code name) s turns s')
      ∧ ∀ turns, Turned env (d.compile code name) s turns s' →
        ∃ degrees : List Int, turns = degrees.map .int
          ∧ AddsUp s.robot.heading h degrees s'.robot.heading
          ∧ ∀ (ω' : Type) (env' : Surroundings ω') (d' : Dialect) (code' name' : String)
              (t t' : RunState ω') (degrees' : List Int),
              t.robot.heading = s.robot.heading →
              Turned env' (d'.compile code' name') t (degrees'.map .int) t' →
              degrees'.Perm degrees → t'.robot.heading = s'.robot.heading := by
  refine ⟨exists_turned_iff.2 ⟨summary, hrun⟩, fun turns hturned => ?_⟩
  obtain ⟨degrees, rfl, hheading⟩ := heading_of_turned hh hturned
  refine ⟨degrees, rfl, ?_, ?_⟩
  · rw [hheading]
    exact addsUp_turnedBy _ _ _
  · intro ω' env' d' code' name' t t' degrees' hsame hturned' hperm
    obtain ⟨degrees'', hmap, hheading'⟩ := heading_of_turned (hsame ▸ hh) hturned'
    obtain rfl : degrees' = degrees'' :=
      List.map_injective_iff.2 (fun _ _ hn => Number.int.inj hn) hmap
    rw [hheading', hheading, hsame, Number.turnedBy_perm hperm]

/-- A loop around a turn makes it once for every time that is left. -/
theorem exists_route_iterate {c : Config ω} {fs : List Frame} {n : Int}
    (hn : Dense.isInt32 n = true) {left done count : Nat} (hcount : done + left = count)
    {t : RunState ω} {turns : List Number}
    (h : Route env c turns (.iterate done count [.turn (.int n)] :: fs, t)) :
    ∃ t', Route env c (turns ++ List.replicate left (.int n)) (fs, t') := by
  induction left generalizing done t turns with
  | zero => exact ⟨t, h.next (.iterated (by omega))⟩
  | succ left ih =>
      obtain ⟨t', hturn⟩ := turn_of_isInt32 hn (t.say ("  Iteration " ++ toString (done + 1))).tick
      have henter : enter env (.turn (.int n)) (t.say ("  Iteration " ++ toString (done + 1))).tick
          = (.ok none, t') := by
        rw [enter, hturn, closed]
      have honce := (h.next (.iterate (by omega))).next (.act rfl henter)
      have hturns : (turns ++ []) ++ [.int n] = turns ++ [Number.int n] := by simp
      obtain ⟨t'', hrest⟩ := ih (by omega) (hturns ▸ honce)
      exact ⟨t'', by rwa [List.append_assoc] at hrest⟩

/-- **A loop around a turn makes it as often as it says.** -/
theorem exists_turned_loop (env : Surroundings ω) {p : Program} {count : Nat} {n : Int}
    (hp : p.instructions = [.loop count [.turn (.int n)]]) (hn : Dense.isInt32 n = true)
    (s : RunState ω) : ∃ s', Turned env p s (List.replicate count (.int n)) s' := by
  have hloop := (@Route.start ω env ([.block [.loop count [.turn (.int n)]]],
    s.say ("=== Running program: " ++ p.name ++ " ==="))).next (.opens rfl rfl)
  obtain ⟨t, hroute⟩ := exists_route_iterate hn (Nat.zero_add count) hloop
  have hturns : [] ++ [] ++ List.replicate count (Number.int n) ++ []
      = List.replicate count (.int n) := by simp
  refine ⟨_, t, ?_, rfl⟩
  rw [hp, ← hturns]
  exact hroute.next .done

/-- A loop that turns back past zero, on a robot whose heading is a negative double. -/
theorem heading_runProgram_spin :
    (Number.float (-45)).IsWhole (-45)
      ∧ ∃ (env : Surroundings Unit) (s s' : RunState Unit) (summary : Summary),
        s.robot.heading = .float (-45)
          ∧ runProgram env (Dialect.dense.compile "[5@-100]" "spin") s = (.ok summary, s')
          ∧ Turned env (Dialect.dense.compile "[5@-100]" "spin") s
              (List.replicate 5 (.int (-100))) s'
          ∧ s'.robot.heading.IsWhole 175 := by
  have hwhole : (Number.float (-45)).IsWhole (-45) := by
    refine ⟨?_, by decide⟩
    rw [Int.neg_mul]
    exact Binary64.extended?_neg (Binary64.extended?_ofNat (by decide))
  have hprogram : (Dialect.dense.compile "[5@-100]" "spin").instructions
      = [.loop 5 [.turn (.int (-100))]] := by
    with_unfolding_all rfl
  obtain ⟨s', hturned⟩ := exists_turned_loop
    ⟨fun _ world => (.ok 7, world), fun _ _ world => (.ok false, world)⟩ hprogram (by decide)
    (.start { Robot.new "Coco" with heading := .float (-45) } ())
  obtain ⟨summary, hrun⟩ := exists_turned_iff.1 ⟨_, hturned⟩
  obtain ⟨degrees, hdegrees, haddsUp, _⟩ :=
    (heading_runProgram _ .dense "[5@-100]" "spin" hwhole hrun).2 _ hturned
  have hmap : (List.replicate 5 (-100)).map Number.int = degrees.map .int := hdegrees
  obtain rfl := List.map_injective_iff.2 (fun _ _ hn => Number.int.inj hn) hmap
  obtain ⟨r, hmin, hmax, hcongruent, hr⟩ := haddsUp.reduced (by decide)
  have hvalue : r = 175 := by
    have hmod : r % 360 = 175 := hcongruent
    omega
  exact ⟨hwhole, _, _, s', summary, rfl, hrun, hturned, hvalue ▸ hr⟩

end Run

end RobotShorthand
