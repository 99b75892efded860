import ReplicaRouting.Notice
import ReplicaRouting.Session.Database

/-!
The parameters of a session, which every handle of it has to share. A setter brings the handle in
use in line before it records the value; handles opened later are brought in line as a whole.
-/

namespace ReplicaRouting

/-- What has been set in a session. -/
structure Parameters where
  autoCommit? : Option Bool := none
  readOnly? : Option Bool := none
  isolation? : Option Isolation := none
  /-- The statements that set parameters, oldest first. -/
  setStatements : List String := []
deriving DecidableEq, Repr

namespace Parameters

/-- Whether every statement commits by itself; it does unless that was switched off. -/
def autoCommits (parameters : Parameters) : Bool := parameters.autoCommit?.getD true

/-- Whether the session only reads; it does not unless that was switched on. -/
def readsOnly (parameters : Parameters) : Bool := parameters.readOnly?.getD false

def exceedsReadCommitted (parameters : Parameters) : Bool :=
  parameters.isolation?.any (·.exceedsReadCommitted)

variable {σ : Type}

/-- Set auto-commit, first on the handle in use. -/
def setAutoCommit (parameters : Parameters) (database : Database σ) (current : Option Handle)
    (value : Bool) : Fallible σ Parameters := do
  database.callIfHeld current (.setAutoCommit value)
  return { parameters with autoCommit? := some value }

/-- Set read-only mode, first on the handle in use. -/
def setReadOnly (parameters : Parameters) (database : Database σ) (current : Option Handle)
    (value : Bool) : Fallible σ Parameters := do
  database.callIfHeld current (.setReadOnly value)
  return { parameters with readOnly? := some value }

/-- Set the isolation level, first on the handle in use. -/
def setIsolation (parameters : Parameters) (database : Database σ) (current : Option Handle)
    (level : Isolation) : Fallible σ Parameters := do
  database.callIfHeld current (.setIsolation level)
  return { parameters with isolation? := some level }

/-- Record a statement that sets a parameter. -/
def addStatement (parameters : Parameters) (sql : String) : Parameters :=
  { parameters with setStatements := parameters.setStatements ++ [sql] }

/-- The calls that bring a fresh handle in line, apart from the recorded statements. -/
def settingCalls (parameters : Parameters) : List Call :=
  (parameters.autoCommit?.map Call.setAutoCommit).toList ++
    (parameters.isolation?.map Call.setIsolation).toList ++
    (parameters.readOnly?.map Call.setReadOnly).toList

/-- Make calls on a handle, up to the first that fails. -/
def callAll (database : Database σ) (handle : Handle) : List Call → Fallible σ Unit
  | [] => return ()
  | call :: calls => do
    database.call handle.connection call
    callAll database handle calls

/-- Execute recorded statements on a handle, with a notice before each. -/
def replay (database : Database σ) (log : Log σ) (handle : Handle) :
    List String → Fallible σ Unit
  | [] => return ()
  | sql :: statements => do
    modify (log (.replaying handle.kind sql))
    database.call handle.connection (.execute sql)
    replay database log handle statements

/-- Bring a fresh handle in line with the session. -/
def applyTo (parameters : Parameters) (database : Database σ) (log : Log σ)
    (handle : Handle) : Fallible σ Unit := do
  modify (log (.initializing handle.kind))
  callAll database handle parameters.settingCalls
  replay database log handle parameters.setStatements

def text (parameters : Parameters) : String :=
  "SessionParameters \x7b auto_commit: " ++ Text.optional (parameters.autoCommit?.map toString) ++
    ", read_only: " ++ Text.optional (parameters.readOnly?.map toString) ++
    ", isolation: " ++ Text.optional (parameters.isolation?.map Isolation.title) ++
    ", set_statements: [" ++
    String.intercalate ", " (parameters.setStatements.map Text.quoted) ++ "] \x7d"

end Parameters

end ReplicaRouting
