/-
**Composing programs.**

Larger programs from smaller ones, each named after its parts: one after another, side by side, under
a condition, with a check at the end, or repeated.

Main definitions:

* `Program.andThen`, `Program.alongside` — sequence and parallel composition;
* `Program.guarded`, `Program.ensuring` — a condition before, and a check after;
* `Program.repeated` — repetition.
-/

import RobotShorthand.Program.Fields

set_option relaxedAutoImplicit false
set_option autoImplicit false

namespace RobotShorthand

namespace Program

/-- The second program after the first. -/
def andThen (p q : Program) : Program :=
  ⟨p.name ++ " >> " ++ q.name, p.instructions ++ q.instructions⟩

/-- Both programs as branches of one parallel instruction. -/
def alongside (p q : Program) : Program :=
  ⟨p.name ++ " || " ++ q.name, [.parallel [p.instructions, q.instructions]]⟩

/-- The program under a condition. -/
def guarded (p : Program) (condition : Predicate) : Program :=
  ⟨"guarded(" ++ p.name ++ ")", [.cond condition p.instructions []]⟩

/-- What a check is said to have failed with, unless another message is given. -/
def defaultViolation : String := "Invariant violated"

/-- The program and then a check, which halts the robot when it fails. -/
def ensuring (p : Program) (invariant : Predicate) (message : String) : Program :=
  ⟨"checked(" ++ p.name ++ ")",
    p.instructions
      ++ [.cond invariant [.log "OK: Invariant holds"] [.log ("FAIL: " ++ message), .halt]]⟩

/-- The program repeated; its name shows the number given, and it runs at least once. -/
def repeated (p : Program) (times : Number) : Except FieldError Program := do
  let body ← Instruction.ofLoop times p.instructions
  return ⟨"repeat(" ++ p.name ++ ", " ++ times.text ++ ")", [body]⟩

end Program

end RobotShorthand
