import PayGraph.Files.Tree
import PayGraph.Main
import PayGraph.Proofs.Application
import PayGraph.Proofs.Balance
import PayGraph.Proofs.Command
import PayGraph.Proofs.CycleDetection
import PayGraph.Proofs.Document.Loading
import PayGraph.Proofs.FailureLine
import PayGraph.Proofs.FalseAlarms
import PayGraph.Proofs.Finiteness
import PayGraph.Proofs.Folding
import PayGraph.Proofs.Graph.BothEnds
import PayGraph.Proofs.Graph.Queries
import PayGraph.Proofs.Nesting
import PayGraph.Proofs.Number.Alike
import PayGraph.Proofs.Outgrowth
import PayGraph.Proofs.Pruning
import PayGraph.Proofs.Recomputation
import PayGraph.Proofs.Refusals
import PayGraph.Proofs.Relevance
import PayGraph.Proofs.Rewiring
import PayGraph.Proofs.Shortage
import PayGraph.Proofs.Unshared
import PayGraph.Proofs.Unused
import PayGraph.Proofs.Comparison
import PayGraph.Proofs.Regrouping
import PayGraph.Proofs.NearestSettings
import PayGraph.Proofs.PrintedAmount
