import ReplicaRouting.Decision
import ReplicaRouting.Fault
import ReplicaRouting.Session.Phase
import ReplicaRouting.Time.Text

/-!
Notices for the operator, by occasion, and how they are written to a log.
-/

namespace ReplicaRouting

/-- How much a notice matters. -/
inductive Severity where
  | debug
  | warn
deriving DecidableEq, Repr

/-- An occasion worth a notice. -/
inductive Notice where
  | mainOpened (session : String) (reason : Reason)
  | replicaOpened (session : String)
  | closeFailed (session : String) (kind : HandleKind) (fault : Fault)
  | routed (session : String) (reason : Reason) (kind : HandleKind)
  | routingFailed (session : String) (reason : Reason) (fault : Fault)
  | transition (session : String) (before after : Phase)
  | initializing (kind : HandleKind)
  | replaying (kind : HandleKind) (sql : String)
  | noReplicaToCheck
  | replicaInconsistent (sql : Option String)
  | capabilityUnsupported
  | tripping (fault : Fault)
  | leaseTakenOver (robbed : Nat)
  | lateRefresh (ticket stored : Nat)
  | unmovedRefresh (ticket : Nat)
  | lastWriteAssumed (time : Instant)
  | mainPositionUnreadable (fault : Fault)
  | replicaPositionUnreadable (fault : Fault)
  | mainProgressForgotten (fault : Fault)
  | replicaProgressUnreadable (fault : Fault)
  | noNodesKnown
  | discoveryFailed (fault : Fault)
  | nodeChecked (node : String) (consistent : Bool)
  | nodeCloseFailed (node : String) (fault : Fault)
  | trackerWrite (tracker : String) (kind : HandleKind)
  | trackerPreCommit (tracker : String) (kind : HandleKind)
  | trackerCheck (tracker : String) (consistent : Bool)

/-- Something that takes notices. -/
abbrev Log (σ : Type) : Type := Notice → σ → σ

namespace Notice

/-- Failures and changes of course are warnings, the rest is for debugging. -/
def severity : Notice → Severity
  | closeFailed .. | noReplicaToCheck | capabilityUnsupported | tripping _
  | mainPositionUnreadable _ | replicaPositionUnreadable _ | mainProgressForgotten _
  | replicaProgressUnreadable _ | noNodesKnown | discoveryFailed _ | nodeCloseFailed .. => .warn
  | _ => .debug

/-- The line of a notice. -/
def message : Notice → String
  | mainOpened .. => "opened main handle"
  | replicaOpened _ => "opened replica handle"
  | closeFailed .. => "failed to close handle"
  | routed .. => "routed operation"
  | routingFailed .. => "routing failed"
  | transition .. => "session state transition"
  | initializing _ => "initializing handle"
  | replaying .. => "replaying session parameter"
  | noReplicaToCheck => "no replica to check consistency against"
  | replicaInconsistent _ => "replica inconsistent, reading from main"
  | capabilityUnsupported => "replica capability unsupported, routing everything to main"
  | tripping _ => "tripping circuit breaker"
  | leaseTakenOver _ => "refresh lease expired, taking over"
  | lateRefresh .. => "discarding late refresh"
  | unmovedRefresh _ => "discarding refresh that did not advance the value"
  | lastWriteAssumed _ => "last write unknown, assuming it just happened"
  | mainPositionUnreadable _ => "failed to read main log position after write"
  | replicaPositionUnreadable _ => "failed to read replica log position"
  | mainProgressForgotten _ => "failed to read main progress after write, forgetting it"
  | replicaProgressUnreadable _ => "failed to read replica progress"
  | noNodesKnown => "no replica nodes known"
  | discoveryFailed _ => "replica discovery failed"
  | nodeChecked .. => "checked replica node"
  | nodeCloseFailed .. => "failed to close replica node handle"
  | trackerWrite .. => "consistency write"
  | trackerPreCommit .. => "consistency pre-commit"
  | trackerCheck .. => "consistency check"

/-- The particulars of a notice, by name. -/
def fields : Notice → List (String × String)
  | mainOpened session reason => [("session_id", session), ("reason", reason.name)]
  | replicaOpened session => [("session_id", session)]
  | closeFailed session kind fault =>
    [("session_id", session), ("kind", kind.name), ("error", fault.message)]
  | routed session reason kind =>
    [("session_id", session), ("reason", reason.name), ("kind", kind.name)]
  | routingFailed session reason fault =>
    [("session_id", session), ("reason", reason.name), ("error", fault.message)]
  | transition session before after =>
    [("session_id", session), ("from", before.name), ("to", after.name)]
  | initializing kind => [("kind", kind.name)]
  | replaying kind sql => [("kind", kind.name), ("sql", sql)]
  | replicaInconsistent sql => [("sql", Text.optional (sql.map Text.quoted))]
  | tripping fault | mainPositionUnreadable fault | replicaPositionUnreadable fault
  | mainProgressForgotten fault | replicaProgressUnreadable fault | discoveryFailed fault =>
    [("error", fault.message)]
  | leaseTakenOver robbed => [("robbed_seq", toString robbed)]
  | lateRefresh ticket stored => [("seq", toString ticket), ("stored_seq", toString stored)]
  | unmovedRefresh ticket => [("seq", toString ticket)]
  | lastWriteAssumed time => [("assumed_write", time.text)]
  | nodeChecked node consistent => [("replica", node), ("consistent", toString consistent)]
  | nodeCloseFailed node fault => [("replica", node), ("error", fault.message)]
  | trackerWrite tracker kind | trackerPreCommit tracker kind =>
    [("tracker", tracker), ("kind", kind.name)]
  | trackerCheck tracker consistent =>
    [("tracker", tracker), ("consistent", toString consistent)]
  | noReplicaToCheck | capabilityUnsupported | noNodesKnown => []

end Notice

end ReplicaRouting
