/-
**A bench for robots.**

Surroundings that can be set up in advance: sensors that are simulated, fixed or scripted, and probes
that answer the predicates known by number only.

Main definitions:

* `SensorSource`, `SensorSource.read` — where readings come from;
* `Probe`, `Probe.answer` — how a predicate answers;
* `Bench`, `Bench.surroundings` — **both together as surroundings of a run.**

Main results:

* `read_simulated` — a simulated reading always uses up one fraction, whatever becomes of it.
-/

import RobotShorthand.Random.Twister
import RobotShorthand.Run.Surroundings

set_option relaxedAutoImplicit false
set_option autoImplicit false

namespace RobotShorthand

/-! ### Sensors -/

/-- Bounds of the readings of a kind of sensor. -/
structure SensorRange where
  kind : String
  low : Number
  high : Number

/-- The bounds of the kinds that have none of their own. -/
def fallbackRange : Number × Number := (.float 0, .float 100)

/-- The bounds of the kinds of sensors, unless others are given. -/
def defaultRanges : List SensorRange :=
  [⟨"proximity", .float 0, .float 100⟩, ⟨"temperature", .float 20, .float 30⟩,
    ⟨"light", .float 0, .float 1000⟩, ⟨"encoder", .float 0, .float 360⟩,
    ⟨"gyro", .float 0, .float 360⟩]

/-- A reading set in advance, for a sensor of one kind or of any kind. -/
structure FixedReading where
  kind? : Option String
  number : Int
  reading : Number

/-- Where readings come from. -/
inductive SensorSource
  /-- even fractions of the way between the bounds of a kind -/
  | simulated (generator : Twister) (ranges : List SensorRange)
  /-- readings set in advance and a default, with the channels read so far -/
  | fixed (readings : List FixedReading) (default : Number) (calls : Array Channel)
  /-- readings in turn, and none after the last -/
  | scripted (rest : List Number)

/-- The bounds of a kind. -/
def rangeOf (ranges : List SensorRange) (kind : String) : Number × Number :=
  match ranges.find? (·.kind = kind) with
  | some r => (r.low, r.high)
  | none => fallbackRange

/-- The reading that lies a fraction of the way between two bounds. -/
def between? (low high : Number) (fraction : Binary64) : Option Number := do
  let width ← high.sub? low
  let part ← (Number.float fraction).mul? width
  low.add? part

/-- The reading set for a channel: the last one for its kind and number, else the last one for its
number, else the default. -/
def fixedReading (readings : List FixedReading) (default : Number) (c : Channel) : Number :=
  let latest := readings.reverse
  match latest.find? fun r => r.kind? = some c.kind ∧ r.number = c.number with
  | some r => r.reading
  | none =>
      match latest.find? fun r => r.kind? = none ∧ r.number = c.number with
      | some r => r.reading
      | none => default

namespace SensorSource

/-- A simulation with a seed; without bounds it has the default ones. -/
def ofSeed (seed : Int) (ranges : List SensorRange) : SensorSource :=
  simulated (.ofSeed seed) (if ranges.isEmpty then defaultRanges else ranges)

/-- **A reading, and the source behind it.** -/
def read (c : Channel) : SensorSource → Except Fault Number × SensorSource
  | simulated generator ranges =>
      let (fraction, generator) := generator.fraction
      let (low, high) := rangeOf ranges c.kind
      match between? low high fraction with
      | some reading => (.ok reading, simulated generator ranges)
      | none => (.error .integerTooLarge, simulated generator ranges)
  | fixed readings default calls =>
      match (fixedReading readings default c).toFloat? with
      | some x => (.ok (.float x), fixed readings default (calls.push c))
      | none => (.error .integerTooLarge, fixed readings default (calls.push c))
  | scripted [] => (.error .sensorOffline, scripted [])
  | scripted (reading :: rest) => (.ok reading, scripted rest)

/-- The channels that a source with fixed readings has been asked for. -/
def calls : SensorSource → Array Channel
  | fixed _ _ calls => calls
  | _ => #[]

/-- A simulated reading uses up one fraction, whatever becomes of it. -/
theorem read_simulated (c : Channel) (generator : Twister) (ranges : List SensorRange) :
    ((simulated generator ranges).read c).2 = simulated generator.fraction.2 ranges := by
  simp only [read]
  split <;> rfl

end SensorSource

/-! ### Probes -/

/-- How a predicate that is known by number answers. -/
inductive Probe
  /-- always the same -/
  | constant (answer : Bool)
  /-- whether a key is in the memory -/
  | remembers (key : String)
  /-- answers in turn, and false after the last -/
  | scripted (answers : List Bool)
  /-- never, but with a fault -/
  | failing (text : String)

namespace Probe

/-- The answer of a probe, and the probe behind it. -/
def answer (m : Memory) : Probe → Except Fault Bool × Probe
  | constant b => (.ok b, constant b)
  | remembers key => (.ok (m.get? key).isSome, remembers key)
  | scripted [] => (.ok false, scripted [])
  | scripted (b :: bs) => (.ok b, scripted bs)
  | failing text => (.error (.predicateFailed text), failing text)

end Probe

/-! ### The bench -/

/-- A source of readings, and the probes by number. -/
structure Bench where
  sensors : SensorSource
  probes : Array Probe

namespace Bench

/-- Reads a sensor. -/
def read (c : Channel) (b : Bench) : Except Fault Number × Bench :=
  let (reading, sensors) := b.sensors.read c
  (reading, { b with sensors := sensors })

/-- Asks a probe; a number without one answers false. -/
def ask (id : Nat) (m : Memory) (b : Bench) : Except Fault Bool × Bench :=
  match b.probes[id]? with
  | some probe =>
      let (answer, probe) := probe.answer m
      (answer, { b with probes := b.probes.setIfInBounds id probe })
  | none => (.ok false, b)

/-- **The bench as surroundings of a run.** -/
def surroundings : Surroundings Bench := ⟨read, ask⟩

/-- A bench without probes. -/
def ofSensors (sensors : SensorSource) : Bench := ⟨sensors, #[]⟩

end Bench

end RobotShorthand
