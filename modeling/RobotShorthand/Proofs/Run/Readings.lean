/-
**Readings and the names they are stored under.**

An instruction to sense is made from one number as it is written, and uses it twice: the sensor is the
number as a signed byte, and the key of the reading is made from the number itself.  For numbers of a
signed byte the two agree.  Beyond them the byte wraps around, so that a program reads the sensor 0 and
stores what it reads as if it came from the sensor 256; a second program may read the same sensor and
store under another key, and the condition of dense code, which tests one key, misses the reading.
Nothing is reported.

That is the only way in which readings and names come apart.  As long as every key names a signed byte,
memory holds at every moment of a run the last reading of each sensor, and so a condition is about the
last reading of its sensor.

Main definitions:

* `sensorKey` — the key that names a sensor;
* `NamesItsSensor`, `NamesByte` — an instruction that stores a reading under the name of the sensor that
  it reads, or under the name of some signed byte;
* `Course` — **moves of the machine with the readings made on the way;**
* `lastReading?` — what is known of a sensor after some readings;
* `KeepsReadings` — **a program whose readings are stored under the names of the sensors.**

Main results:

* `exists_course_iff` — every run has its readings;
* `get?_of_moves`, `get?_of_course` — **memory holds the last reading of each sensor,** after a move and
  after a run;
* `namesByte_expand` — ultra-dense code has no other sensors than signed bytes;
* `keepsReadings_iff` — **a compiled program keeps its readings exactly if its keys name signed bytes.**
-/

import RobotShorthand.Proofs.Run.Completion
import RobotShorthand.Proofs.Run.Faults
import RobotShorthand.Proofs.Ultra.Addresses

set_option relaxedAutoImplicit false
set_option autoImplicit false

namespace RobotShorthand

namespace Run

variable {ω : Type} {env : Surroundings ω}

/-! ### Keys -/

/-- The key that names a sensor. -/
def sensorKey (n : Int) : String := "s" ++ toString n

/-- **Two keys are equal exactly if they name the same sensor.** -/
theorem sensorKey_inj {m n : Int} : sensorKey m = sensorKey n ↔ m = n := by
  constructor
  · intro h
    have hdecimal : Text.decimal m = Text.decimal n :=
      congrArg String.toList ((String.append_right_inj "s").1 h)
    rw [Dense.decimal_eq, Dense.decimal_eq] at hdecimal
    -- the sign comes off, and the digits behind it give the magnitude
    have hparts := congrArg Dense.unsignThreshold hdecimal
    rw [Dense.unsignThreshold_minus_append _ Dense.isDigit_of_mem_toDigits,
      Dense.unsignThreshold_minus_append _ Dense.isDigit_of_mem_toDigits] at hparts
    obtain ⟨hsign, hdigits⟩ := Prod.mk.inj hparts
    have hmagnitude := congrArg (Nat.ofDigitChars 10 · 0) hdigits
    simp only [Nat.ofDigitChars_ten_toDigits] at hmagnitude
    rw [← Dense.signed_natAbs m, hsign, hmagnitude, Dense.signed_natAbs]
  · rintro rfl
    rfl

/-- An instruction to sense stores the reading under the name of the sensor that it reads. -/
def NamesItsSensor : Instruction → Prop
  | .sense _ sensor target => target = sensorKey sensor.toInt
  | _ => True

/-- An instruction to sense stores the reading under the name of a signed byte. -/
def NamesByte : Instruction → Prop
  | .sense _ _ target => ∃ n : Int, target = sensorKey n ∧ -128 ≤ n ∧ n ≤ 127
  | _ => True

/-- **A number and its signed byte agree exactly within the bounds of a signed byte.** -/
theorem namesItsSensor_iff {i : Instruction} (h : Dense.IsShaped i) :
    NamesItsSensor i ↔ NamesByte i := by
  cases i with
  | sense kind sensor target =>
      obtain ⟨_, n, _, rfl, hbyte⟩ := h
      constructor
      · intro hnames
        have hn : n = sensor.toInt := sensorKey_inj.1 hnames
        exact ⟨n, rfl, by omega, by omega⟩
      · rintro ⟨m, hm, hmin, hmax⟩
        have hn : n = m := sensorKey_inj.1 hm
        exact sensorKey_inj.2 (by omega)
  | _ => exact Iff.rfl

/-! ### Readings on the way -/

/-- Sensors that were read, each with what it gave, the latest first. -/
abbrev Readings : Type := List (Channel × Binary64)

/-- The reading that the next move makes, if it makes one. -/
def readingsOf (env : Surroundings ω) : Config ω → Readings
  | (⟨.sense kind sensor _ :: _, _⟩ :: _, s) =>
      match (env.sample ⟨kind, sensor.toInt⟩ s.tick).1 with
      | .ok x => [(⟨kind, sensor.toInt⟩, x)]
      | .error _ => []
  | _ => []

/-- **Moves of the machine, with the readings made on the way.** -/
inductive Course (env : Surroundings ω) (c : Config ω) : Readings → Config ω → Prop
  | start : Course env c [] c
  | next {rs : Readings} {c' c'' : Config ω} :
      Course env c rs c' → Moves env c' c'' → Course env c (readingsOf env c' ++ rs) c''

/-- **Every run has its readings,** and what has readings is a run. -/
theorem exists_course_iff {c c' : Config ω} :
    (∃ rs, Course env c rs c') ↔ Relation.ReflTransGen (Moves env) c c' := by
  constructor
  · rintro ⟨rs, h⟩
    induction h with
    | start => exact .refl
    | next _ hmove ih => exact ih.tail hmove
  · intro h
    induction h with
    | refl => exact ⟨[], .start⟩
    | tail _ hmove ih =>
        obtain ⟨rs, hrs⟩ := ih
        exact ⟨_, hrs.next hmove⟩

/-- What is known of a proximity sensor: its last reading, and before the first one what memory held in
the beginning. -/
def lastReading? (m : Memory) (rs : Readings) (n : Int) : Option Number :=
  match rs.lookup ⟨"proximity", n⟩ with
  | some x => some (.float x)
  | none => m.get? (sensorKey n)

theorem lastReading?_nil (m : Memory) (n : Int) : lastReading? m [] n = m.get? (sensorKey n) := rfl

/-- A reading is known of its sensor, and of no other one. -/
theorem lastReading?_cons (m : Memory) (sensor : Int) (x : Binary64) (rs : Readings) (n : Int) :
    lastReading? m ((⟨"proximity", sensor⟩, x) :: rs) n
      = if n = sensor then some (.float x) else lastReading? m rs n := by
  unfold lastReading?
  rw [List.lookup_cons]
  by_cases h : n = sensor
  · subst h
    rw [if_pos rfl, beq_self_eq_true]
  · have hne : ((⟨"proximity", n⟩ : Channel) == ⟨"proximity", sensor⟩) = false := by
      simpa using h
    rw [if_neg h, hne]

/-! ### Memory along a run -/

/-- A proximity sensor is read, and the reading stored under the name of the sensor. -/
def Senses : Instruction → Prop
  | .sense kind sensor target => kind = "proximity" ∧ target = sensorKey sensor.toInt
  | _ => True

/-- Nothing but a sensor that is read changes memory. -/
theorem memory_of_enter {i : Instruction} {s s' : RunState ω} {f? : Option Frame}
    (h : enter env i s = (.ok f?, s')) (hi : i.kind ≠ .sense) :
    s'.robot.memory = s.robot.memory := by
  by_cases hturn : i.kind = .turn
  · cases i with
    | turn degrees =>
        rw [enter] at h
        rcases turn_cases degrees s with ⟨heading, _, hturn⟩ | ⟨_, hturn⟩
        · rw [hturn] at h
          obtain rfl := congrArg Prod.snd h
          rfl
        · rw [hturn] at h
          exact absurd (congrArg Prod.fst h) (by simp [closed])
    | _ => exact absurd hturn (by simp [Instruction.kind])
  · exact part_of_enter Robot.memory (fun _ _ => rfl) (fun _ _ => rfl) h hturn hi

/-- A sensor that is read makes the reading that is stored, under the name of the sensor. -/
theorem get?_of_enter_sense {sensor : Int8} {is : List Instruction} {supply : Supply}
    {fs : List Frame} {s s' : RunState ω} {f? : Option Frame}
    (h : enter env (.sense "proximity" sensor (sensorKey sensor.toInt)) s.tick = (.ok f?, s'))
    (n : Int) :
    s'.robot.memory.get? (sensorKey n) = lastReading? s.robot.memory
      (readingsOf env
        (⟨.sense "proximity" sensor (sensorKey sensor.toInt) :: is, supply⟩ :: fs, s)) n := by
  rw [enter] at h
  rcases sense_cases env "proximity" sensor (sensorKey sensor.toInt) s.tick with
    ⟨_, _, _, hsense⟩ | ⟨x, world, hsample, hsense⟩
  · rw [hsense] at h
    exact absurd (congrArg Prod.fst h) (by simp [closed])
  · rw [hsense] at h
    obtain rfl := congrArg Prod.snd h
    have hreadings : readingsOf env (⟨.sense "proximity" sensor
        (sensorKey sensor.toInt) :: is, supply⟩ :: fs, s) = [(⟨"proximity", sensor.toInt⟩, x)] := by
      rw [readingsOf, hsample]
    rw [hreadings, lastReading?_cons, lastReading?_nil]
    show (s.robot.memory.set (sensorKey sensor.toInt) (.float x)).get? (sensorKey n) = _
    by_cases hn : n = sensor.toInt
    · rw [if_pos hn, hn, Memory.get?_set_self]
    · rw [if_neg hn, Memory.get?_set_of_ne]
      exact fun hkey => hn (sensorKey_inj.1 hkey)

/-- **After a move, memory holds the last reading of each sensor** if it did before. -/
theorem get?_of_moves {c c' : Config ω} (hc : ∀ f ∈ c.1, f.Within Senses) (h : Moves env c c')
    (n : Int) :
    c'.2.robot.memory.get? (sensorKey n) = lastReading? c.2.robot.memory (readingsOf env c) n := by
  cases h with
  | @act i is supply fs s s' _ henter =>
      cases i with
      | sense kind sensor target =>
          obtain ⟨hfirst, _⟩ := within_cons.1 (List.forall_mem_cons.1 hc).1
          obtain ⟨rfl, rfl⟩ := hfirst.head
          exact get?_of_enter_sense henter n
      -- no other instruction makes a reading
      | _ => exact congrArg (·.get? (sensorKey n)) (memory_of_enter henter (by simp [Instruction.kind]))
  | @opens i is supply f fs s s' _ henter =>
      have hopens := opens_of_enter henter
      have hi : i.kind ≠ .sense := by cases hopens <;> simp [Instruction.kind]
      have hreadings : readingsOf env (⟨i :: is, supply⟩ :: fs, s) = [] := by
        cases hopens <;> rfl
      rw [hreadings, lastReading?_nil, memory_of_enter henter hi]
      rfl
  | again _ htest => exact congrArg (·.memory.get? (sensorKey n)) (robot_of_test htest)
  | refused _ htest => exact congrArg (·.memory.get? (sensorKey n)) (robot_of_test htest)
  | done => rfl
  | @broken i is supply fs s hn =>
      have hreadings : readingsOf env (⟨i :: is, supply⟩ :: fs, s) = [] := by
        cases i with
        | sense => exact absurd hn (by simp [Instruction.isNothing])
        | _ => rfl
      rw [hreadings, lastReading?_nil]
  | iterate => rfl
  | iterated => rfl
  | ceiling => rfl

/-- Readings one after another. -/
theorem lastReading?_append {m m' : Memory} {rs : Readings} {n : Int}
    (h : m'.get? (sensorKey n) = lastReading? m rs n) (rs' : Readings) :
    lastReading? m' rs' n = lastReading? m (rs' ++ rs) n := by
  unfold lastReading? at h ⊢
  rw [List.lookup_append, h]
  cases rs'.lookup ⟨"proximity", n⟩ <;> rfl

/-- A run stays within the instructions of a class. -/
theorem within_of_course {Q : Instruction → Prop} {c c' : Config ω} {rs : Readings}
    (hc : ∀ f ∈ c.1, f.Within Q) (h : Course env c rs c') : ∀ f ∈ c'.1, f.Within Q :=
  within_of_reflTransGen hc (exists_course_iff.1 ⟨rs, h⟩)

/-- **After a run, memory holds the last reading of each sensor,** and of a sensor that was not read
what it held before. -/
theorem get?_of_course {c c' : Config ω} {rs : Readings} (hc : ∀ f ∈ c.1, f.Within Senses)
    (h : Course env c rs c') (n : Int) :
    c'.2.robot.memory.get? (sensorKey n) = lastReading? c.2.robot.memory rs n := by
  induction h with
  | start => exact (lastReading?_nil _ n).symm
  | next hcourse hmove ih =>
      rw [get?_of_moves (within_of_course hc hcourse) hmove n, lastReading?_append ih]

/-! ### Ultra-dense code -/

section Expansions

open RobotShorthand.Dense RobotShorthand.Ultra

variable {Q : Instruction → Prop} {levels : Nat} {text text' : List Char}

/-- A text that is read by itself, into instructions of a class, in front of every text that ends
literals. -/
def GivesWithin (Q : Instruction → Prop) (levels : Nat) (text : List Char) : Prop :=
  ∀ rest, EndsLiteral rest → ∀ position, ∃ r : Reading, ∃ position',
    read (some levels) position (text ++ rest) = r ++ read (some levels) position' rest
      ∧ Throughout Q r.instructions

theorem givesWithin_of_gives {is : List Instruction} (h : Gives levels text is)
    (his : Throughout Q is) : GivesWithin Q levels text := by
  intro rest hrest position
  obtain ⟨position', hread⟩ := h rest hrest position
  exact ⟨_, position', hread, his⟩

/-- Two texts next to each other, of which the second ends literals. -/
theorem GivesWithin.append (h : GivesWithin Q levels text) (h' : GivesWithin Q levels text')
    (hend : EndsLiteral text') : GivesWithin Q levels (text ++ text') := by
  intro rest hrest position
  obtain ⟨r, position', hr, hQ⟩ := h (text' ++ rest) (hend.append hrest) position
  obtain ⟨r', position'', hr', hQ'⟩ := h' rest hrest position'
  refine ⟨r ++ r', position'', ?_, throughout_append.2 ⟨hQ, hQ'⟩⟩
  rw [List.append_assoc, hr, hr', Reading.append_assoc]

/-- The instructions of the whole text. -/
theorem GivesWithin.throughout (h : GivesWithin Q levels text) (position : Int) :
    Throughout Q (read (some levels) position text).instructions := by
  obtain ⟨r, position', hr, hQ⟩ := h [] endsLiteral_nil position
  rw [List.append_nil, read_nil] at hr
  rw [hr]
  exact throughout_append.2 ⟨hQ, throughout_nil⟩

/-- A text inside a loop. -/
theorem GivesWithin.loop {n : Int} (h : GivesWithin Q levels text) (hn : isInt32 n = true)
    (hend : EndsLiteral text) (hbalanced : Balanced '[' ']' text)
    (hQ : ∀ body, Q (.loop (atLeastOne n) body)) :
    GivesWithin Q (levels + 1) ('[' :: (Text.decimal n ++ text ++ [']'])) := by
  intro rest _ position
  have htext : '[' :: (Text.decimal n ++ text ++ [']']) ++ rest
      = '[' :: (Text.decimal n ++ text ++ ']' :: rest) := by simp
  rw [htext, read_loop_decimal hn hend hbalanced]
  exact ⟨_, _, rfl, throughout_loop.2 ⟨hQ _, h.throughout _⟩⟩

/-- What an actuator shorthand expands to is an instruction, and at most unknown symbols behind it. -/
theorem givesWithin_actuatorText (hQ : ∀ actuator value, Q (actuateOf actuator value))
    (address power : Char) : GivesWithin Q levels (actuatorText address power) := by
  have hactuate (actuator : Nat) (value : Int) : Throughout Q [actuateOf actuator value] :=
    List.forall_mem_singleton.2 (hQ actuator value)
  obtain ⟨text, actuator, value, htext, hgives⟩ := @exists_gives_actuatorText levels address power
  have hfirst : GivesWithin Q levels text := givesWithin_of_gives hgives (hactuate actuator value)
  have hminusTen : GivesWithin Q levels ['-', '1', '0'] := by
    intro rest _ position
    exact ⟨_, _, read_minusTen rest position, throughout_nil⟩
  rw [htext]
  by_cases h : (address.isDigit || power.isAlphanum) = true
  · rw [if_pos h, List.append_nil]
    exact hfirst
  · rw [if_neg h]
    exact hfirst.append hminusTen (endsLiteral_cons (by decide))

/-- **Ultra-dense code has no other sensors than signed bytes:** a sensor is one digit. -/
theorem namesByte_expand (cs : List Char) {levels : Nat} (h : '*' ∈ cs → 0 < levels)
    (position : Int) : GivesWithin NamesByte levels (expand position cs).dense := by
  have hleaf (i : Instruction) (hi : NamesByte i) (hwalk : i.walk 0 = [(i, 0)]) :
      Throughout NamesByte [i] := by
    intro e he
    rw [walkBlock_singleton, hwalk] at he
    obtain rfl := List.mem_singleton.1 he
    exact hi
  -- one shorthand at a time: what follows it is an expansion too, and so ends its literals
  induction cs using shorthand_induction generalizing levels position with
  | nil =>
      rw [expand_nil]
      exact givesWithin_of_gives .nil throughout_nil
  | actuate address power cs ih =>
      have hrest := ih (fun hs => h (by simp [hs])) (position + 3)
      rw [expand_actuate]
      exact (givesWithin_actuatorText (fun _ _ => trivial) address power).append hrest
        (endsLiteral_expand cs _)
  | turn high low cs ih =>
      have hrest := ih (fun hs => h (by simp [hs])) (position + 3)
      rw [expand_turn]
      exact (givesWithin_of_gives (gives_turnExpansion position high low)
        (hleaf (.turn _) trivial rfl)).append hrest (endsLiteral_expand cs _)
  | sense sensor cs ih =>
      have hrest := ih (fun hs => h (by simp [hs])) (position + 2)
      obtain ⟨hmin, hmax⟩ := digitOf_bounds sensor
      have hbyte : NamesByte (senseOf (digitOf sensor)) :=
        ⟨digitOf sensor, rfl, by omega, by omega⟩
      rw [expand_sense]
      exact (givesWithin_of_gives (gives_sensor sensor) (hleaf _ hbyte rfl)).append hrest
        (endsLiteral_expand cs _)
  | loop count body cs hbody ihBody ih =>
      obtain ⟨levels, rfl⟩ := Nat.exists_eq_add_one_of_ne_zero (Nat.ne_of_gt (h (by simp)))
      obtain ⟨hmin, hmax⟩ := digitOf_bounds count
      have hcount : isInt32 (loopCount count) = true :=
        isInt32_of_bounds (by unfold loopCount; omega) (by unfold loopCount; omega)
      -- the body has no loop, so it is read with whatever room is left inside this one
      have hinner : GivesWithin NamesByte levels (expand (position + 2) body).dense :=
        ihBody (fun hs => absurd hs hbody) (position + 2)
      have hrest := ih (fun _ => Nat.succ_pos levels) (position + 2 + body.length + 1)
      have hloop := hinner.loop hcount (endsLiteral_expand body _) (balanced_expand hbody _)
        (fun _ => trivial)
      rw [expand_loop hbody]
      exact hloop.append hrest (endsLiteral_expand cs _)
  | alone c cs halone ih =>
      have hrest := ih (fun hs => h (List.mem_cons_of_mem _ hs)) (position + 1)
      have hsingle : Throughout NamesByte (aloneTranslation c) := by
        unfold aloneTranslation
        split
        · exact hleaf _ trivial rfl
        · exact hleaf _ trivial rfl
        · exact hleaf _ trivial rfl
        · cases Text.asciiDigit? c with
          | none => exact throughout_nil
          | some d => exact hleaf _ trivial rfl
      rw [expand_alone halone]
      exact (givesWithin_of_gives (gives_single position c) hsingle).append hrest
        (endsLiteral_expand cs _)

/-- The keys of ultra-dense code name signed bytes. -/
theorem namesByte_compile_ultra (code name : String) :
    Throughout NamesByte (Dialect.ultra.compile code name).instructions := by
  have hroom : '*' ∈ code.toList → 0 < roomAt 0 := fun _ => by decide
  have hcode : (Dialect.ultra.compile code name).instructions
      = (read (some (roomAt 0)) 0 (expand 0 code.toList).dense).instructions := by
    rw [← instructions_compile_eq code.toList name, String.ofList_toList]
  rw [hcode]
  exact (namesByte_expand code.toList hroom 0).throughout 0

end Expansions

/-! ### Programs -/

/-- Whether a reading is above a threshold; a missing one is not. -/
def exceeds (reading? : Option Number) (threshold : Int) : Bool :=
  match reading? with
  | some reading => (Number.int threshold).lt reading
  | none => false

/-- **A program whose readings are stored under the names of the sensors.** -/
structure KeepsReadings (p : Program) : Prop where
  /-- a reading is stored under the name of the sensor that is read -/
  named : Throughout NamesItsSensor p.instructions
  /-- two readings are stored under one key exactly if they are of one sensor -/
  keys : ∀ e ∈ p.walk, ∀ e' ∈ p.walk, ∀ kind sensor target kind' sensor' target',
    e.1 = .sense kind sensor target → e'.1 = .sense kind' sensor' target' →
      (target = target' ↔ (⟨kind, sensor.toInt⟩ : Channel) = ⟨kind', sensor'.toInt⟩)
  /-- at any moment of any run, a condition opens its first branch exactly if the last reading of the
  sensor 0 is above the threshold -/
  tested : ∀ (ω : Type) (env : Surroundings ω) (s t : RunState ω) (rs : Readings)
    (predicate : Predicate) (thenBranch elseBranch is : List Instruction) (supply : Supply)
    (fs : List Frame),
    Course env ([.block p.instructions], s) rs
        (⟨.cond predicate thenBranch elseBranch :: is, supply⟩ :: fs, t) →
      ∃ threshold : Int, predicate = Dense.conditionOf threshold
        ∧ enter env (.cond predicate thenBranch elseBranch) t.tick
          = (.ok (some (.block (if exceeds (lastReading? s.robot.memory rs 0) threshold
              then thenBranch else elseBranch))), t.tick)

/-- A condition of dense code is about what memory holds of the sensor 0. -/
theorem enter_condition (env : Surroundings ω) (threshold : Int)
    (thenBranch elseBranch : List Instruction) (s : RunState ω) :
    enter env (.cond (Dense.conditionOf threshold) thenBranch elseBranch) s
      = (.ok (some (.block (if exceeds (s.robot.memory.get? (sensorKey 0)) threshold
          then thenBranch else elseBranch))), s) := by
  have hkey : Dense.conditionKey = sensorKey 0 := by decide
  have htest : env.test (Dense.conditionOf threshold) s
      = (.ok (exceeds (s.robot.memory.get? (sensorKey 0)) threshold), s) := by
    rw [← hkey]
    rfl
  rw [enter, htest]
  cases exceeds (s.robot.memory.get? (sensorKey 0)) threshold <;> rfl

/-- **A program that names its sensors keeps its readings.** -/
theorem keepsReadings_of_named {p : Program} (hshaped : Throughout Dense.IsShaped p.instructions)
    (hnamed : Throughout NamesItsSensor p.instructions) : KeepsReadings p := by
  have hsenses : Throughout Senses p.instructions := by
    intro e he
    have hshape := hshaped e he
    have hname := hnamed e he
    rcases e with ⟨i, depth⟩
    cases i with
    | sense kind sensor target => exact ⟨hshape.1, hname⟩
    | _ => exact trivial
  refine ⟨hnamed, ?_, ?_⟩
  · rintro ⟨_, _⟩ he ⟨_, _⟩ he' kind sensor target kind' sensor' target' rfl rfl
    obtain ⟨rfl, rfl⟩ := hsenses _ he
    obtain ⟨rfl, rfl⟩ := hsenses _ he'
    rw [sensorKey_inj, Channel.mk.injEq]
    exact ⟨fun hsensor => ⟨rfl, hsensor⟩, And.right⟩
  · intro ω env s t rs predicate thenBranch elseBranch is supply fs hcourse
    have hwithin := within_of_course (within_singleton hshaped) hcourse
    have hframe := (List.forall_mem_cons.1 hwithin).1
    obtain ⟨threshold, _, rfl⟩ := (within_cons.1 hframe).1.head
    have hmemory : t.robot.memory.get? (sensorKey 0) = lastReading? s.robot.memory rs 0 :=
      get?_of_course (within_singleton hsenses) hcourse 0
    refine ⟨threshold, rfl, ?_⟩
    rw [← hmemory]
    exact enter_condition env threshold thenBranch elseBranch t.tick

/-- **A compiled program keeps its readings exactly if its keys name signed bytes,** and it always does
if the source is ultra-dense code. -/
theorem keepsReadings_iff (d : Dialect) (code : String) (name? : Option String) (p : Program)
    (h : d.compileStrict code name? = .ok p) :
    (KeepsReadings p ↔ Throughout NamesByte p.instructions) ∧ (d = .ultra → KeepsReadings p) := by
  obtain ⟨_, rfl⟩ := (Dialect.compileStrict_eq_ok_iff d code name? p).1 h
  have hshaped := throughout_isShaped_compile d code (d.nameOr name?)
  have hnamed : Throughout NamesByte (d.compile code (d.nameOr name?)).instructions →
      KeepsReadings (d.compile code (d.nameOr name?)) := by
    intro hbyte
    refine keepsReadings_of_named hshaped ?_
    intro e he
    exact (namesItsSensor_iff (hshaped e he)).2 (hbyte e he)
  refine ⟨⟨?_, hnamed⟩, ?_⟩
  · intro hkeeps e he
    exact (namesItsSensor_iff (hshaped e he)).1 (hkeeps.named e he)
  · rintro rfl
    exact hnamed (namesByte_compile_ultra code _)

/-- Sensors at both ends of a signed byte, and a condition behind the sensor that it tests, all inside a
loop. -/
theorem keepsReadings_iff_survey :
    ∃ p, Dialect.dense.compileStrict "[3?127?-128?0{30:@90:>20}]" none = .ok p
      ∧ KeepsReadings p := by
  have hcompile : Dialect.dense.compileStrict "[3?127?-128?0{30:@90:>20}]" none
      = .ok ⟨"dense", [.loop 3 [.sense "proximity" 127 "s127", .sense "proximity" (-128) "s-128",
          .sense "proximity" 0 "s0",
          .cond (Dense.conditionOf 30) [.turn (.int 90)] [.move .forward 20]]]⟩ := by
    with_unfolding_all rfl
  have hbyte : Throughout NamesByte [.loop 3 [.sense "proximity" 127 "s127",
      .sense "proximity" (-128) "s-128", .sense "proximity" 0 "s0",
      .cond (Dense.conditionOf 30) [.turn (.int 90)] [.move .forward 20]]] := by
    have hsense (sensor : Int8) : Throughout NamesByte
        [.sense "proximity" sensor (sensorKey sensor.toInt)] :=
      List.forall_mem_singleton.2
        ⟨sensor.toInt, rfl, Int8.le_toInt sensor, Int.le_of_lt_add_one (Int8.toInt_lt sensor)⟩
    have hcond : Throughout NamesByte
        [.cond (Dense.conditionOf 30) [.turn (.int 90)] [.move .forward 20]] :=
      List.forall_mem_cons.2 ⟨trivial, List.forall_mem_cons.2 ⟨trivial,
        List.forall_mem_singleton.2 trivial⟩⟩
    exact throughout_loop.2 ⟨trivial, throughout_cons.2 ⟨hsense 127,
      throughout_cons.2 ⟨hsense (-128), throughout_cons.2 ⟨hsense 0, hcond⟩⟩⟩⟩
  exact ⟨_, hcompile, (keepsReadings_iff .dense _ none _ hcompile).1.2 hbyte⟩

/-- **A sensor beyond a signed byte is accepted,** and the reading of another one is stored under its
name. -/
theorem wrapped_sensor_accepted :
    ∃ p, Dialect.dense.compileStrict "?256" none = .ok p
      ∧ p.instructions = [.sense "proximity" 0 "s256"] ∧ ¬ KeepsReadings p := by
  have hcompile : Dialect.dense.compileStrict "?256" none
      = .ok ⟨"dense", [.sense "proximity" 0 "s256"]⟩ := by
    with_unfolding_all rfl
  refine ⟨_, hcompile, rfl, ?_⟩
  intro hkeeps
  have hname : "s256" = sensorKey (0 : Int8).toInt := hkeeps.named.head
  exact absurd hname (by decide)

end Run

end RobotShorthand
