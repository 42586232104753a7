/-
**Modes of a robot.**

A robot is always in one of six modes.  Twelve transitions between them are legal.

Main definitions:

* `Mode` — the modes;
* `legalTransitions`, `Mode.mayBecome` — the legal transitions.
-/

import RobotShorthand.Text.Quoted

set_option relaxedAutoImplicit false
set_option autoImplicit false

namespace RobotShorthand

/-- The modes of a robot. -/
inductive Mode
  | idle
  | moving
  | turning
  | sensing
  | acting
  | error
  deriving DecidableEq, Inhabited

namespace Mode

/-- The name of a mode. -/
def name : Mode → String
  | idle => "Idle"
  | moving => "Moving"
  | turning => "Turning"
  | sensing => "Sensing"
  | acting => "Acting"
  | error => "Error"

/-- All modes. -/
def all : List Mode := [idle, moving, turning, sensing, acting, error]

/-- The mode of a name. -/
def ofName? (name : String) : Option Mode := all.find? (·.name = name)

end Mode

/-- The transitions that are legal. -/
def legalTransitions : List (Mode × Mode) :=
  [(.idle, .moving), (.idle, .sensing), (.moving, .idle), (.moving, .turning), (.moving, .error),
    (.turning, .moving), (.turning, .idle), (.sensing, .acting), (.sensing, .idle), (.acting, .idle),
    (.acting, .sensing), (.error, .idle)]

/-- Whether the transition from one mode to another is legal. -/
def Mode.mayBecome (source target : Mode) : Bool := legalTransitions.contains (source, target)

/-- Says that a name is no mode. -/
def unknownModeMessage (name : String) : String :=
  Text.quoted name.toList ++ " is not a valid RobotState"

/-- A transition that is not legal. -/
structure IllegalTransition where
  source : Mode
  target : Mode
  deriving DecidableEq

/-- Says that a transition is not legal. -/
def IllegalTransition.message (t : IllegalTransition) : String :=
  "Illegal state transition " ++ t.source.name ++ " -> " ++ t.target.name

end RobotShorthand
