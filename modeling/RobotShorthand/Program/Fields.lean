/-
**Instructions from raw fields.**

Instructions are built from names and numbers that need not fit.  A name that means nothing and a
number without an integer part are refused; numbers out of range are brought into it: distances and
durations are at least zero, counts at least one, and numbers of sensors and actuators are wrapped
into a signed byte.

Main definitions:

* `FieldError`, `FieldError.message` — why fields are refused;
* `wrapByte` — an integer as a signed byte;
* `Instruction.ofMove`, `Instruction.ofSense`, `Instruction.ofActuate`, `Instruction.ofLoop`,
  `Instruction.ofWait`, `Threshold.ofFields` — checked construction.

Main results:

* `toInt_wrapByte` — **wrapping is the remainder modulo 256, from −128 to 127**.
-/

import RobotShorthand.Program.Instruction
import RobotShorthand.Text.Quoted

set_option relaxedAutoImplicit false
set_option autoImplicit false

namespace RobotShorthand

/-- Why fields do not make an instruction. -/
inductive FieldError
  | unknownDirection (name : String)
  | unknownComparison (symbol : String)
  | noInteger (why : Binary64.NoIntegerPart)
  | integerTooLarge
  deriving DecidableEq

/-- Says why a double has no integer part. -/
def Binary64.NoIntegerPart.message : Binary64.NoIntegerPart → String
  | notANumber => "cannot convert float NaN to integer"
  | infinite => "cannot convert float infinity to integer"

/-- Says that an integer is beyond all doubles. -/
def integerTooLargeMessage : String := "int too large to convert to float"

namespace FieldError

/-- Says why fields are refused. -/
def message : FieldError → String
  | unknownDirection name => Text.quoted name.toList ++ " is not a valid Direction"
  | unknownComparison symbol => "Unknown comparison '" ++ symbol ++ "'"
  | noInteger why => why.message
  | integerTooLarge => integerTooLargeMessage

end FieldError

/-! ### Numbers brought into range -/

/-- An integer as a signed byte: its remainder modulo 256, from −128 to 127. -/
def wrapByte (n : Int) : Int8 := Int8.ofInt n

/-- **Wrapping is the remainder modulo 256, from −128 to 127.** -/
theorem toInt_wrapByte (n : Int) : (wrapByte n).toInt = (n + 128) % 256 - 128 := by
  unfold wrapByte
  rw [Int8.toInt_ofInt]
  unfold Int.bmod
  simp only [Int.cast_ofNat_Int]
  split <;> omega

/-- The integer part of a field. -/
def integerField (n : Number) : Except FieldError Int :=
  match n.truncate with
  | .ok i => .ok i
  | .error why => .error (.noInteger why)

/-- The double of a field. -/
def floatField (n : Number) : Except FieldError Binary64 :=
  match n.toFloat? with
  | some x => .ok x
  | none => .error .integerTooLarge

/-- The direction of a name. -/
def directionField (name : String) : Except FieldError Direction :=
  match Direction.ofName? name with
  | some d => .ok d
  | none => .error (.unknownDirection name)

/-! ### Construction -/

/-- A threshold from the sign of its comparison. -/
def Threshold.ofFields (key : String) (threshold : Number) (symbol : String) :
    Except FieldError Threshold :=
  match Comparison.ofSymbol? symbol with
  | some c => .ok ⟨key, threshold, c⟩
  | none => .error (.unknownComparison symbol)

namespace Instruction

/-- A move by at least nothing. -/
def ofMove (direction : String) (distance : Number) : Except FieldError Instruction := do
  let d ← directionField direction
  let n ← integerField distance
  return move d n.toNat

/-- A reading of a sensor, numbered by a byte. -/
def ofSense (kind : String) (sensor : Number) (target : String) : Except FieldError Instruction := do
  let n ← integerField sensor
  return sense kind (wrapByte n) target

/-- A setting of an actuator, numbered by a byte, to a double. -/
def ofActuate (kind : String) (actuator value : Number) : Except FieldError Instruction := do
  let n ← integerField actuator
  let x ← floatField value
  return actuate kind (wrapByte n) x

/-- A loop that runs its body at least once. -/
def ofLoop (count : Number) (body : List Instruction) : Except FieldError Instruction := do
  let n ← integerField count
  return loop (max n.toNat 1) body

/-- A wait of at least nothing. -/
def ofWait (milliseconds : Number) : Except FieldError Instruction := do
  let n ← integerField milliseconds
  return wait n.toNat

end Instruction

end RobotShorthand
