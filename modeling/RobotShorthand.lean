import RobotShorthand.Main
import RobotShorthand.Program.Composition
import RobotShorthand.Program.Behaviour
import RobotShorthand.Proofs.Run.BigStep
import RobotShorthand.Proofs.Dense.Balance
import RobotShorthand.Proofs.Dense.Notation
import RobotShorthand.Proofs.Dense.Rendering
import RobotShorthand.Proofs.Dense.Grammar
import RobotShorthand.Proofs.Ultra.Shorthands
import RobotShorthand.Proofs.Ultra.Warnings
import RobotShorthand.Proofs.Ultra.Translation
import RobotShorthand.Proofs.Dense.Image
import RobotShorthand.Proofs.Run.Moves
import RobotShorthand.Proofs.Run.Steps
import RobotShorthand.Proofs.Run.Completion
import RobotShorthand.Proofs.Run.Faults
import RobotShorthand.Proofs.Dense.Items
import RobotShorthand.Proofs.Dense.Sequence
import RobotShorthand.Proofs.Dense.Positions
import RobotShorthand.Proofs.Ultra.Positions
import RobotShorthand.Proofs.Number.Rounding
import RobotShorthand.Proofs.Number.Shortest
import RobotShorthand.Proofs.Number.ReadBack
import RobotShorthand.Proofs.Document.Identity
import RobotShorthand.Proofs.Document.Sameness
import RobotShorthand.Proofs.Run.Footprint
import RobotShorthand.Proofs.Run.Coupling
import RobotShorthand.Proofs.Run.Renewal
import RobotShorthand.Proofs.Run.Composition
import RobotShorthand.Proofs.Dense.Accounting
import RobotShorthand.Proofs.Run.Modes
import RobotShorthand.Proofs.CommandLine.Selection
import RobotShorthand.Proofs.Robot.Limits
import RobotShorthand.Proofs.Run.Registry
import RobotShorthand.Proofs.Dense.Nesting
import RobotShorthand.Proofs.Ultra.Acceptance
import RobotShorthand.Proofs.CommandLine.History
import RobotShorthand.Proofs.Ultra.Addresses
import RobotShorthand.Proofs.Run.Readings
import RobotShorthand.Proofs.Graph.Tree
import RobotShorthand.Proofs.CommandLine.Comparison
import RobotShorthand.Proofs.Dense.Spelling
import RobotShorthand.Proofs.Graph.Clusters
import RobotShorthand.Proofs.Number.Whole
import RobotShorthand.Proofs.Run.Heading
