import ReplicaRouting.Handle
import ReplicaRouting.Text.Quoted

/-!
What can go wrong, by cause.
-/

namespace ReplicaRouting

/-- The part of the job in which a fault arises. -/
inductive FaultArea where
  | connection
  | routing
  | consistency
  | settings
deriving DecidableEq, Repr

namespace FaultArea

def title : FaultArea → String
  | connection => "Connection error"
  | routing => "Routing error"
  | consistency => "Consistency error"
  | settings => "Config error"

end FaultArea

/-- The cause of a failed operation. -/
inductive Fault where
  | creationFailed (kind : HandleKind) (reason : String)
  | operationFailed (kind : HandleKind) (operation reason : String)
  | closeFailed (kind : HandleKind) (reason : String)
  | sessionClosed (session : String)
  | unsupportedCapability (capability : String)
  | progressUnknown (kind : HandleKind) (reason : String)
  | discoveryFailed (reason : String)
  | invalidPosition (value reason : String)
  | invalidSetting (field value reason : String)
deriving DecidableEq, Repr

namespace Fault

/-- Where a fault belongs. -/
def area : Fault → FaultArea
  | creationFailed .. | operationFailed .. | closeFailed .. | sessionClosed .. => .connection
  | unsupportedCapability .. => .routing
  | progressUnknown .. | discoveryFailed .. | invalidPosition .. => .consistency
  | invalidSetting .. => .settings

/-- What happened, without its area. -/
def detail : Fault → String
  | creationFailed kind reason => s!"Failed to create {kind.name} handle: {reason}"
  | operationFailed kind operation reason =>
    s!"Operation {operation} failed on {kind.name} handle: {reason}"
  | closeFailed kind reason => s!"Failed to close {kind.name} handle: {reason}"
  | sessionClosed session => s!"Session {session} is closed"
  | unsupportedCapability capability => s!"Unsupported capability: {capability}"
  | progressUnknown kind reason => s!"Progress query against {kind.name} failed: {reason}"
  | discoveryFailed reason => s!"Replica discovery failed: {reason}"
  | invalidPosition value reason => s!"Invalid log position {Text.quoted value}: {reason}"
  | invalidSetting field value reason => s!"Invalid value for {field}: {value} - {reason}"

def message (fault : Fault) : String :=
  fault.area.title ++ ": " ++ fault.detail

/-- Whether a replica has rejected an operation that it can never serve. -/
def isUnsupportedCapability : Fault → Bool
  | unsupportedCapability _ => true
  | _ => false

end Fault

end ReplicaRouting
