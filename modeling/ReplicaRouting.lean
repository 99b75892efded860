import ReplicaRouting.Breaker
import ReplicaRouting.Cache.Newest
import ReplicaRouting.Cache.Refresh
import ReplicaRouting.Cache.SingleFlight
import ReplicaRouting.Cache.TimedFlight
import ReplicaRouting.Call
import ReplicaRouting.Chain
import ReplicaRouting.Consult
import ReplicaRouting.Decision
import ReplicaRouting.Decision.Json
import ReplicaRouting.Fallible
import ReplicaRouting.Fault
import ReplicaRouting.Handle
import ReplicaRouting.Json.Escape
import ReplicaRouting.Json.Record
import ReplicaRouting.Json.Render
import ReplicaRouting.Json.Token
import ReplicaRouting.Json.Value
import ReplicaRouting.Notice
import ReplicaRouting.Position
import ReplicaRouting.Rehearsal.Cast
import ReplicaRouting.Rehearsal.Connection
import ReplicaRouting.Rehearsal.Cue
import ReplicaRouting.Rehearsal.Doubles
import ReplicaRouting.Rehearsal.Stage
import ReplicaRouting.Session.Act
import ReplicaRouting.Session.Basic
import ReplicaRouting.Session.Database
import ReplicaRouting.Session.Handles
import ReplicaRouting.Session.Operation
import ReplicaRouting.Session.Parameters
import ReplicaRouting.Session.Phase
import ReplicaRouting.Session.Routing
import ReplicaRouting.Session.Slot
import ReplicaRouting.Session.Warnings
import ReplicaRouting.Settings
import ReplicaRouting.Settings.Json
import ReplicaRouting.Settings.Variables
import ReplicaRouting.Statement.Classifier
import ReplicaRouting.Statement.FunctionCall
import ReplicaRouting.Text.Blank
import ReplicaRouting.Text.Numeral
import ReplicaRouting.Text.Printable
import ReplicaRouting.Text.Quoted
import ReplicaRouting.Text.Ranges
import ReplicaRouting.Text.Word
import ReplicaRouting.Time.Instant
import ReplicaRouting.Time.Span
import ReplicaRouting.Time.Text
import ReplicaRouting.Tracker
import ReplicaRouting.Tracker.Cluster
import ReplicaRouting.Tracker.Lag
import ReplicaRouting.Tracker.Noted
import ReplicaRouting.Tracker.Positions
import ReplicaRouting.Tracker.Progress
import ReplicaRouting.Tracker.Propagation
import ReplicaRouting.Proofs.Session.Handles
import ReplicaRouting.Proofs.Session.Routing
import ReplicaRouting.Proofs.Session.Operation
import ReplicaRouting.Proofs.Session.Reachable
import ReplicaRouting.Proofs.Consult
import ReplicaRouting.Proofs.Session.MainPin
import ReplicaRouting.Proofs.Routing.StandardChain
import ReplicaRouting.Proofs.Agreement
import ReplicaRouting.Proofs.Session.Agreement
import ReplicaRouting.Proofs.Routing.Settling
import ReplicaRouting.Proofs.Chronicle
import ReplicaRouting.Proofs.Routing.Reads
import ReplicaRouting.Proofs.Routing.Writes
import ReplicaRouting.Proofs.Routing.Agreement
import ReplicaRouting.Proofs.Session.Account
import ReplicaRouting.Proofs.Session.Explanation
import ReplicaRouting.Proofs.Session.Courses
import ReplicaRouting.Proofs.Session.Requests
import ReplicaRouting.Proofs.Session.Proceeding
import ReplicaRouting.Proofs.Session.Conduct.Handles
import ReplicaRouting.Proofs.Session.Conduct.Routing
import ReplicaRouting.Proofs.Session.Conduct.Asides
import ReplicaRouting.Proofs.Session.Conduct
import ReplicaRouting.Proofs.Routing.OpenBreaker
import ReplicaRouting.Proofs.Session.Phases
import ReplicaRouting.Proofs.Routing.LentMain
import ReplicaRouting.Proofs.Session.Passages
import ReplicaRouting.Proofs.Session.Custody
import ReplicaRouting.Proofs.Session.Connections
import ReplicaRouting.Proofs.Session.ClosedHandles
import ReplicaRouting.Proofs.Session.Preparation
import ReplicaRouting.Proofs.Session.Unfinished
import ReplicaRouting.Proofs.Session.Reports
import ReplicaRouting.Proofs.Session.DurableWrites
import ReplicaRouting.Proofs.Tracker.Positions
import ReplicaRouting.Proofs.Fleet.Runs
import ReplicaRouting.Proofs.Fleet.Sharing
import ReplicaRouting.Proofs.Fleet.ReadYourWrites
import ReplicaRouting.Proofs.Fleet.SharedBreaker
import ReplicaRouting.Proofs.Cache.Traffic
import ReplicaRouting.Proofs.Cache.Leases
import ReplicaRouting.Proofs.Cache.LatestRefresh
import ReplicaRouting.Proofs.Pausing
import ReplicaRouting.Proofs.Cache.Supplied
import ReplicaRouting.Proofs.Tracker.Progress
import ReplicaRouting.Proofs.Fleet.CachedProgress
import ReplicaRouting.Proofs.Cache.Lockstep
import ReplicaRouting.Proofs.Cache.GrowingValues
import ReplicaRouting.Proofs.Session.Holdings
import ReplicaRouting.Proofs.Session.FailedOpenings
import ReplicaRouting.Proofs.Session.StrictReads
import ReplicaRouting.Proofs.Time.Instants
import ReplicaRouting.Proofs.Tracker.Elapsed
import ReplicaRouting.Proofs.Tracker.SideBySide
import ReplicaRouting.Proofs.Session.Applied
import ReplicaRouting.Proofs.Session.Replay
import ReplicaRouting.Proofs.Cache.InTurn
import ReplicaRouting.Proofs.Tracker.Agreement
import ReplicaRouting.Proofs.Tracker.NodeChecks
import ReplicaRouting.Proofs.Fleet.Cluster
import ReplicaRouting.Proofs.Fleet.ClusterProgress
import ReplicaRouting.Proofs.Statement.RowLocks
import ReplicaRouting.Proofs.Settings
import ReplicaRouting.Proofs.Routing.LockedReads
import ReplicaRouting.Proofs.Statement.FunctionCalls
import ReplicaRouting.Proofs.Statement.WrittenWrites
import ReplicaRouting.Proofs.Text.Numerals
import ReplicaRouting.Proofs.Position
import ReplicaRouting.Proofs.Json.Scalars
import ReplicaRouting.Proofs.Json.Tokens
import ReplicaRouting.Proofs.Json.Values
import ReplicaRouting.Proofs.Json.Widening
import ReplicaRouting.Proofs.Json.RoundTrip
import ReplicaRouting.Proofs.Session.Finality
import ReplicaRouting.Proofs.Tracker.Frugality
import ReplicaRouting.Proofs.Routing.LazyReplica
import ReplicaRouting.Proofs.Fleet.LazyReplicas
import ReplicaRouting.Proofs.Session.CollectedWarnings
import ReplicaRouting.Proofs.Cache.Exclusion
import ReplicaRouting.Proofs.Cache.DroppedRefreshes
import ReplicaRouting.Proofs.Routing.NestedChains
import ReplicaRouting.Proofs.Settings.FunctionLists
