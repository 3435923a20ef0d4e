import RelGraph.Main
import RelGraph.Outline
import RelGraph.Proofs.Applicability.Contributions
import RelGraph.Proofs.Command.Failures
import RelGraph.Proofs.Command.Filtering
import RelGraph.Proofs.Config.Coherence
import RelGraph.Proofs.Config.Cycles
import RelGraph.Proofs.Config.Exclusion
import RelGraph.Proofs.Config.FirstProblem
import RelGraph.Proofs.Config.Meaning
import RelGraph.Proofs.Config.OppositeRanges
import RelGraph.Proofs.Config.WrittenForm
import RelGraph.Proofs.Document.Lifetime
import RelGraph.Proofs.Graph.Discovery
import RelGraph.Proofs.Graph.Duality
import RelGraph.Proofs.Graph.History
import RelGraph.Proofs.Graph.Degrees
import RelGraph.Proofs.Graph.Instances
import RelGraph.Proofs.Graph.Reachability
import RelGraph.Proofs.Graph.Resolvable
import RelGraph.Proofs.Graph.Snapshots
import RelGraph.Proofs.Graph.Subgraph
import RelGraph.Proofs.Matcher.Leaves
import RelGraph.Proofs.Model.Refusals
import RelGraph.Proofs.Persistence
import RelGraph.Proofs.Pipeline.Calls
import RelGraph.Proofs.Pipeline.Rearrangement
import RelGraph.Proofs.Pipeline.Splitting
import RelGraph.Proofs.Registry.AnyOrder
import RelGraph.Proofs.Registry.Tables
import RelGraph.Proofs.Document.Properties
import RelGraph.Proofs.Catalog.Offers
import RelGraph.Proofs.Command.Selection
import RelGraph.Proofs.RelationSet.Descriptor
