import Atomistic.Main
import Atomistic.Proofs.NeighborList.Transpose
import Atomistic.Proofs.Autograd.Survey
import Atomistic.Proofs.Autograd.Visits
import Atomistic.Proofs.Autograd.Deliveries
import Atomistic.Proofs.Autograd.Steps
import Atomistic.Proofs.Results
import Atomistic.Proofs.Autograd.Run
import Atomistic.Proofs.Autograd.Balance
import Atomistic.Proofs.Autograd.PathSum
import Atomistic.Proofs.Binary64.Rounding
import Atomistic.Proofs.Binary64.Values
import Atomistic.Proofs.Decimal.Shortest
import Atomistic.Proofs.Json.Numbers
import Atomistic.Proofs.Json.RoundTrip
import Atomistic.Proofs.Autograd.Carried
import Atomistic.Proofs.Autograd.Contents
import Atomistic.Proofs.Tensor.Valid
import Atomistic.Proofs.Block.Sound
import Atomistic.Proofs.NeighborList.Options
import Atomistic.Proofs.System.Sound
import Atomistic.Proofs.Document.Sound
import Atomistic.Proofs.Document.Options
import Atomistic.Proofs.Document.Tensor
import Atomistic.Proofs.Tensor.Transfer
import Atomistic.Proofs.NeighborList.Layout
import Atomistic.Proofs.System.Cell
import Atomistic.Proofs.Document.Store
import Atomistic.Proofs.Document.ReadBack
import Atomistic.Proofs.NeighborList.Register
import Atomistic.Proofs.World
import Atomistic.Proofs.Document.RoundTrip
import Atomistic.Proofs.World.Marks
import Atomistic.Proofs.Sessions.Quiet
import Atomistic.Proofs.System.Histories
import Atomistic.Proofs.Json.Accepted
import Atomistic.Proofs.World.Histories
import Atomistic.Proofs.Tensor.Represented
import Atomistic.Proofs.World.Tensors
import Atomistic.Proofs.System.Lists
import Atomistic.Proofs.World.Lists
import Atomistic.Proofs.System.Construction
import Atomistic.Proofs.System.Spared
import Atomistic.Proofs.Block.Transfer
import Atomistic.Proofs.Block.Fitted
import Atomistic.Proofs.System.Transfer
import Atomistic.Proofs.World.Conversions
import Atomistic.Proofs.Document.Stability
import Atomistic.Proofs.NeighborList.Consistency
import Atomistic.Proofs.NeighborList.Registration
import Atomistic.Proofs.NeighborList.Backward
import Atomistic.Proofs.NeighborList.Indexed
import Atomistic.Proofs.Autograd.Permanence
import Atomistic.Proofs.NeighborList.Upstream
import Atomistic.Proofs.Tensor.Traced
import Atomistic.Proofs.World.Tracing
import Atomistic.Proofs.Autograd.Applied
import Atomistic.Proofs.World.States
import Atomistic.Proofs.Document.Integers
import Atomistic.Proofs.Block.Depths
import Atomistic.Proofs.World.Blocks
import Atomistic.Proofs.World.Setters
import Atomistic.Proofs.Json.Lawful
import Atomistic.Proofs.Autograd.Frames
import Atomistic.Proofs.Autograd.Passes
import Atomistic.Proofs.Autograd.Orderly
import Atomistic.Proofs.World.Passes
import Atomistic.Proofs.Autograd.Images
import Atomistic.Proofs.Autograd.Contributions
import Atomistic.Proofs.World.Repetition
import Atomistic.Proofs.NeighborList.Order
import Atomistic.Proofs.World.Options
import Atomistic.Proofs.System.Data
import Atomistic.Proofs.World.Data
import Atomistic.Proofs.Autograd.Copies
import Atomistic.Proofs.Tensor.Copies
import Atomistic.Proofs.World.Copies
import Atomistic.Proofs.Document.Counts
import Atomistic.Proofs.NeighborList.Assembly
import Atomistic.Proofs.Inspect.Checks
import Atomistic.Proofs.Sessions.Alike
import Atomistic.Proofs.Document.Entries
import Atomistic.Proofs.Document.Order
import Atomistic.Proofs.Inspect.Files
import Atomistic.Proofs.Inspect.Examination
import Atomistic.Proofs.Inspect.Output
import Atomistic.Proofs.Units
import Atomistic.Proofs.NeighborList.Units
import Atomistic.Proofs.Block.Ranges
import Atomistic.Proofs.World.Filling
import Atomistic.Proofs.Names
import Atomistic.Proofs.Document.Types
import Atomistic.Proofs.World.Casts
