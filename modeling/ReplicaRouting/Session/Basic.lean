import ReplicaRouting.Session.Parameters
import ReplicaRouting.Session.Slot
import ReplicaRouting.Session.Warnings

/-!
What a session remembers, and what can be told of it. It holds at most one handle to main and one
to a replica. Its phase follows from what it holds.
-/

namespace ReplicaRouting

/-- A session. -/
structure Session where
  id : String
  parameters : Parameters := {}
  warnings : Warnings := {}
  main : Slot := .absent
  replica : Slot := .absent
  /-- Main is held only because a replica could not serve. -/
  committed : Bool := false
  closed : Bool := false
  /-- The decision of the latest operation that was routed. -/
  lastDecision : Option Decision := none
deriving DecidableEq

namespace Session

/-- The phase of a session. -/
def phase (session : Session) : Phase :=
  if session.closed then .closed
  else if session.main.isReady then
    if session.committed then .committedMain else .main
  else if session.replica.isReady then .replica
  else .notInitialised

def causingDecision (session : Session) : Option Decision :=
  if session.phase = .main then session.main.decision? else none

/-- The handle for operations without a statement. -/
def currentHandle (session : Session) : Option Handle :=
  match session.phase with
  | .replica => session.replica.handle?
  | .main | .committedMain => session.main.handle?
  | .notInitialised | .closed => none

/-- The slot for handles of a kind. -/
def slot (session : Session) : HandleKind → Slot
  | .main => session.main
  | .replica => session.replica

/-- The session without the handle of a kind. -/
def without (session : Session) : HandleKind → Session
  | .main => { session with main := .absent }
  | .replica => { session with replica := .absent }

end Session

end ReplicaRouting
