/-
**The library of behaviours.**

Programs that are known by name: six that are built from instructions, some of them with a parameter,
and four that are compiled from dense code.

Main definitions:

* `Program.wallFollow`, `Program.lineFollow`, `Program.squareSearch`, `Program.emergencyStop`,
  `Program.obstacleAvoid`, `Program.complexBehaviour` — the programs that are built;
* `denseLibrary` — the code of those that are compiled;
* `behaviourLibrary` — **all of them under their names;**
* `behaviour?` — look-up.
-/

import RobotShorthand.Program.Compilation

set_option relaxedAutoImplicit false
set_option autoImplicit false

namespace RobotShorthand

namespace Program

/-- Follows a wall: turns away when it is nearer than `distance`. -/
def wallFollow (distance : Number) : Program :=
  ⟨"wall-follow",
    [.sense "proximity" 0 "wall",
      .cond (.threshold ⟨"wall", distance, .below⟩)
        [.turn 90, .move .forward 10]
        [.move .forward 20],
      .wait 100]⟩

/-- Follows a line by turning to the darker side. -/
def lineFollow : Program :=
  ⟨"line-follow",
    [.sense "light" 0 "left",
      .sense "light" 1 "right",
      .cond .leftBrighter [.turn (.int (-30))] [.turn 30],
      .move .forward 5]⟩

/-- Drives around a square of a given size. -/
def squareSearch (size : Number) : Except FieldError Program := do
  let side ← Instruction.ofMove Direction.forward.name size
  return ⟨"square-search", [.loop 4 [side, .turn 90]]⟩

/-- Stops both motors and halts. -/
def emergencyStop : Program :=
  ⟨"emergency-stop",
    [.log "EMERGENCY STOP", .actuate "motor" 0 0, .actuate "motor" 1 0, .halt]⟩

/-- Backs off and turns when something is nearer than `threshold`. -/
def obstacleAvoid (threshold : Number) : Program :=
  ⟨"obstacle-avoid",
    [.sense "proximity" 0 "front",
      .cond (.threshold ⟨"front", threshold, .below⟩)
        [.log "Obstacle!", .move .backward 10, .turn 90]
        [.move .forward 20]]⟩

/-- Sets both motors, turns, waits and advances three times. -/
def complexBehaviour : Program :=
  ⟨"complex",
    [.actuate "motor" 0 80, .actuate "motor" 1 80, .turn 48, .wait 100,
      .loop 3 [.move .forward 30], .wait 50]⟩

end Program

/-! ### The library -/

/-- The distance of `Program.wallFollow` in the library. -/
def defaultWallDistance : Number := 30

/-- The threshold of `Program.obstacleAvoid` in the library. -/
def defaultObstacleThreshold : Number := 40

/-- The square search of the library, around a square of fifty. -/
def librarySquareSearch : Program :=
  ⟨"square-search", [.loop 4 [.move .forward 50, .turn 90]]⟩

-- the square search of the library is the general one
example : Program.squareSearch 50 = .ok librarySquareSearch := rfl

/-- The code of the programs that are compiled, under their names. -/
def denseLibrary : List (String × String) :=
  [("wall-follow-dense", ">10?0"),
    ("square-patrol", "[4>50@90]"),
    ("sensor-sweep", "?0.?1.?2."),
    ("full-stop", "!00!10#")]

/-- **The library of behaviours.** -/
def behaviourLibrary : List (String × Program) :=
  [("wall-follow", .wallFollow defaultWallDistance),
    ("line-follow", .lineFollow),
    ("square-search", librarySquareSearch),
    ("emergency-stop", .emergencyStop),
    ("obstacle-avoid", .obstacleAvoid defaultObstacleThreshold),
    ("complex", .complexBehaviour)]
    ++ denseLibrary.map fun (name, code) => (name, Dialect.dense.compile code name)

/-- The behaviour of a name. -/
def behaviour? (name : String) : Option Program := behaviourLibrary.lookup name

end RobotShorthand
