/-
**Drawings.**

How graphs and clusters are shown: the attributes that a drawing tool is given, the path of the file,
and the lines that say what was made.

Main definitions:

* `Attributes` — attributes with their values;
* `drawingAttributes`, `Cluster.attributes`, `BoxNode.attributes`, `Link.attributes` — **the attributes
  of a drawing and its parts;**
* `tidyPath` — a path without its idle parts;
* `Drawing` — a drawing that is asked for, and the line that says it was made;
* `Tool`, `Tool.missingMessage` — what drawings need, and what is said when it is missing.
-/

import RobotShorthand.Graph.Cluster

set_option relaxedAutoImplicit false
set_option autoImplicit false

namespace RobotShorthand

/-! ### Attributes -/

/-- Attributes with their values. -/
abbrev Attributes : Type := List (String × String)

/-- The font of all labels. -/
def drawingFont : String := "Helvetica"

/-- The name of a drawing. -/
def drawingName : String := "coconut_program"

/-- The attributes of a whole drawing. -/
def drawingAttributes : Attributes :=
  [("graph_type", "digraph"), ("rankdir", "TB"), ("fontname", drawingFont)]

/-- The attributes of a box. -/
def Cluster.attributes : Cluster → Attributes
  | box _ label _ _ =>
      [("label", label), ("color", "#7f8c8d"), ("fontname", drawingFont), ("fontsize", "10"),
        ("style", "rounded")]

/-- The attributes of the node of an instruction. -/
def BoxNode.attributes (n : BoxNode) : Attributes :=
  [("label", n.label), ("shape", "box"), ("style", "filled"), ("fillcolor", n.fill),
    ("fontname", drawingFont)]

/-- The attributes of a link: none for a plain one. -/
def Link.attributes (l : Link) : Attributes :=
  match l.block? with
  | some label => [("style", "dashed"), ("label", label)]
  | none => []

/-- The title of a plotted graph. -/
def Program.plotTitle (p : Program) : String := "CoconutTelegraph program — " ++ p.name

/-! ### Paths -/

/-- A text cut at every slash; `current` holds the unfinished part, last character first. -/
def pathParts (current : List Char) : List Char → List (List Char)
  | [] => [current.reverse]
  | c :: cs => if c = '/' then current.reverse :: pathParts [] cs else pathParts (c :: current) cs

/-- The slashes that a path begins with: two stay two, and any other number counts as one. -/
def pathRoot (cs : List Char) : List Char :=
  match (cs.takeWhile (· = '/')).length with
  | 0 => []
  | 2 => ['/', '/']
  | _ => ['/']

/-- **A path without empty parts and parts that stay in place.** -/
def tidyPath (path : String) : String :=
  let cs := path.toList
  let parts := (pathParts [] cs).filter fun part => part ≠ [] ∧ part ≠ ['.']
  let root := pathRoot cs
  if parts.isEmpty then (if root.isEmpty then "." else String.ofList root)
  else String.ofList (root ++ ['/'].intercalate parts)

/-! ### What is asked for -/

/-- A drawing that is asked for. -/
inductive Drawing
  /-- the clusters, in a file -/
  | clusters (path : String)
  /-- the graph, in a file or on the screen -/
  | plot (path? : Option String)
  deriving DecidableEq

namespace Drawing

/-- The clusters in a file with a tidy path. -/
def ofClusters (path : String) : Drawing := clusters (tidyPath path)

/-- The graph in a file, or on the screen when the path is empty or missing. -/
def ofPlot (path? : Option String) : Drawing := plot (path?.filter (· ≠ ""))

/-- The lines that say that a drawing was made; nothing for one on the screen. -/
def doneText : Drawing → String
  | clusters path => "  ✓ Graphviz visualization exported → " ++ path ++ "\n"
  | plot (some path) => "  ✓ Program graph rendered → " ++ path ++ "\n"
  | plot none => ""

end Drawing

/-- What drawings need. -/
inductive Tool
  | graphs
  | clusters
  | plots
  deriving DecidableEq

/-- What is said when a tool is missing. -/
def Tool.missingMessage : Tool → String
  | graphs => "Instruction graphs require networkx to be installed"
  | clusters => "Graphviz export requires the optional pydot dependency"
  | plots => "Visualization requires networkx and matplotlib to be installed"

end RobotShorthand
