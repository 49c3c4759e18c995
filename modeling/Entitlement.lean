import Entitlement.Value
import Entitlement.Value.Print
import Entitlement.Fault.Kind
import Entitlement.Hierarchy.Kind
import Entitlement.Hierarchy.Key
import Entitlement.Roster
import Entitlement.Violation
import Entitlement.Fault
import Entitlement.Relationship
import Entitlement.Entity
import Entitlement.Permission
import Entitlement.Session
import Entitlement.Decision
import Entitlement.Journal
import Entitlement.Action
import Entitlement.Graph.Basic
import Entitlement.Graph.Check
import Entitlement.Graph.Edit
import Entitlement.Graph.Row
import Entitlement.Directory.Scripted
import Entitlement.Audit.Trail
import Entitlement.Engine.Authorize
import Entitlement.Settings.Desk
import Entitlement.Logging.Loggers
import Entitlement.Logging.Mask
import Entitlement.Text.Lines
import Entitlement.Release
import Entitlement.Engine.Create
import Entitlement.Proofs.Text.Runs
import Entitlement.Proofs.Text.Trim
import Entitlement.Proofs.Text.Upper
import Entitlement.Proofs.Text.Padding
import Entitlement.Proofs.Text.Lower
import Entitlement.Proofs.Spelling
import Entitlement.Proofs.Name
import Entitlement.Proofs.Roster
import Entitlement.Proofs.Table
import Entitlement.Proofs.Action
import Entitlement.Proofs.TwoRuns
import Entitlement.Proofs.Closure
import Entitlement.Proofs.Graph.Arena
import Entitlement.Proofs.Graph.Edge
import Entitlement.Proofs.Graph.Reach
import Entitlement.Proofs.Graph.Acyclic
import Entitlement.Proofs.Graph.Answers
import Entitlement.Proofs.Graph.Build
import Entitlement.Proofs.Graph.Rows
import Entitlement.Proofs.Graph.History
import Entitlement.Proofs.Graph.OneEdge
import Entitlement.Proofs.Graph.Listing
import Entitlement.Proofs.Graph.Outline
import Entitlement.Proofs.Graph.Programs
import Entitlement.Proofs.Graph.Order
import Entitlement.Proofs.Cache
import Entitlement.Proofs.Hierarchies.Effect
import Entitlement.Proofs.Hierarchies.Refresh
import Entitlement.Proofs.Hierarchies.Sound
import Entitlement.Proofs.Directory.Memory
import Entitlement.Proofs.Directory.Scope
import Entitlement.Proofs.Directory.Ledger
import Entitlement.Proofs.Directory.Bookkeeping
import Entitlement.Proofs.Hierarchies.View
import Entitlement.Proofs.Hierarchies.Stored
import Entitlement.Proofs.Engine.Calls
import Entitlement.Proofs.Engine.Authorize
import Entitlement.Proofs.Engine.Coherence
import Entitlement.Proofs.Engine.EditFlow
import Entitlement.Proofs.Hierarchies.Trace
import Entitlement.Proofs.Hierarchies.Refines
import Entitlement.Proofs.Hierarchies.Scope
import Entitlement.Proofs.Hierarchies.Statistics
import Entitlement.Proofs.Engine.Scope
import Entitlement.Proofs.Engine.Isolation
import Entitlement.Proofs.Engine.AuditNeutrality
import Entitlement.Proofs.Engine.Trail
import Entitlement.Proofs.Engine.Partition
import Entitlement.Proofs.Engine.Closing
import Entitlement.Proofs.Engine.Ruling
import Entitlement.Proofs.Engine.Edits
import Entitlement.Proofs.Graph.Walk
import Entitlement.Proofs.Hierarchies.Closures
import Entitlement.Proofs.Graph.Guard
import Entitlement.Proofs.Graph.FirstFailure
import Entitlement.Proofs.Hierarchies.Later
import Entitlement.Proofs.Hierarchies.AllOrNothing
import Entitlement.Proofs.Graph.Gate
import Entitlement.Proofs.Hierarchies.Gate
import Entitlement.Proofs.Engine.Expansion
import Entitlement.Proofs.Engine.LetterCase
import Entitlement.Proofs.Engine.Layers
import Entitlement.Proofs.Engine.WarmUp
import Entitlement.Proofs.Hierarchies.Race
import Entitlement.Proofs.Hierarchies.Interleaving
import Entitlement.Proofs.Hierarchies.SingleFlight
