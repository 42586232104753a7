/-
**Behaviours.**

A behaviour is a program that is built only when it is asked for.  Behaviours compose as programs do,
and composing them builds nothing yet; the parts are built when the whole is, the first part first, and
a part that cannot be built keeps the whole from being built.

Main definitions:

* `Behaviour`, `Behaviour.toProgram` — behaviours, and the program that is built;
* `Behaviour.of`, `Behaviour.named` — a behaviour from a program that is there;
* `Behaviour.adapted`, `Behaviour.joined` — behaviours that are built from one and from two others;
* `Behaviour.andThen`, `Behaviour.alongside`, `Behaviour.guarded`, `Behaviour.ensuring`,
  `Behaviour.repeated` — **composition.**
-/

import RobotShorthand.Program.Composition

set_option relaxedAutoImplicit false
set_option autoImplicit false

namespace RobotShorthand

/-- A program that is built when it is asked for, unless fields are refused. -/
structure Behaviour where
  build : Unit → Except FieldError Program

namespace Behaviour

/-- The program of a behaviour. -/
def toProgram (a : Behaviour) : Except FieldError Program := a.build ()

/-- A behaviour with a program that is there. -/
def of (p : Program) : Behaviour := ⟨fun _ => .ok p⟩

/-- A behaviour with a name and instructions. -/
def named (name : String) (instructions : List Instruction) : Behaviour := of ⟨name, instructions⟩

/-- A behaviour whose program is made of the program of another one. -/
def adapted (a : Behaviour) (make : Program → Except FieldError Program) : Behaviour :=
  ⟨fun _ => do make (← a.toProgram)⟩

/-- A behaviour whose program is made of the programs of two others. -/
def joined (a b : Behaviour) (make : Program → Program → Program) : Behaviour :=
  a.adapted fun p => do return make p (← b.toProgram)

/-- The second behaviour after the first. -/
def andThen (a b : Behaviour) : Behaviour := a.joined b Program.andThen

/-- Both behaviours in one parallel instruction. -/
def alongside (a b : Behaviour) : Behaviour := a.joined b Program.alongside

/-- The behaviour under a condition. -/
def guarded (a : Behaviour) (condition : Predicate) : Behaviour :=
  a.adapted fun p => .ok (p.guarded condition)

/-- The behaviour and then a check, which halts the robot when it fails. -/
def ensuring (a : Behaviour) (invariant : Predicate) (message : String) : Behaviour :=
  a.adapted fun p => .ok (p.ensuring invariant message)

/-- The behaviour repeated. -/
def repeated (a : Behaviour) (times : Number) : Behaviour := a.adapted (·.repeated times)

end Behaviour

end RobotShorthand
