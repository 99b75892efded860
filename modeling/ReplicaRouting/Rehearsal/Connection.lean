import ReplicaRouting.Call
import ReplicaRouting.Fallible

/-!
Connections for rehearsals: they note every call, and fail where they are told to.
-/

namespace ReplicaRouting

/-- A connection that follows a script. Once it is closed, every call but another closing fails. -/
structure ScriptedConnection where
  name : String
  kind : HandleKind
  calls : Array Call := #[]
  warnings : List Warning := []
  failing : List String := []
  closed : Bool := false

namespace ScriptedConnection

instance : Inhabited ScriptedConnection := ⟨{ name := "", kind := .main }⟩

def fault (connection : ScriptedConnection) (operation reason : String) : Fault :=
  if operation = "close" then .closeFailed connection.kind reason
  else .operationFailed connection.kind operation s!"{connection.name}: {reason}"

def outcome (connection : ScriptedConnection) (operation : String) : Except Fault Unit :=
  if operation ∈ connection.failing then
    .error (connection.fault operation "scripted failure")
  else if operation ≠ "close" ∧ connection.closed then
    .error (connection.fault operation "connection is closed")
  else .ok ()

/-- Make a call. It is noted in any case; closing and aborting close even if they fail. -/
def call (call : Call) : Fallible ScriptedConnection Unit := fun connection =>
  let outcome := connection.outcome call.operation
  let noted := { connection with
    calls := connection.calls.push call
    closed := connection.closed || call.ends }
  match call, outcome with
  | .clearWarnings, .ok () => (.ok (), { noted with warnings := [] })
  | _, _ => (outcome, noted)

/-- The warnings of the connection, also of one that is closed. -/
def readWarnings (connection : ScriptedConnection) : Except Fault (List Warning) :=
  if "warnings" ∈ connection.failing then
    .error (connection.fault "warnings" "scripted failure")
  else .ok connection.warnings

def fail (connection : ScriptedConnection) (operation : String) : ScriptedConnection :=
  { connection with failing := operation :: connection.failing }

def addWarning (connection : ScriptedConnection) (warning : Warning) : ScriptedConnection :=
  { connection with warnings := connection.warnings ++ [warning] }

def events (connection : ScriptedConnection) : List String :=
  connection.calls.toList.map Call.text

def count (connection : ScriptedConnection) (event : String) : Nat :=
  connection.events.countP (· == event)

def executed (connection : ScriptedConnection) : List String :=
  connection.calls.toList.filterMap fun
    | .execute sql => some sql
    | _ => none

end ScriptedConnection

end ReplicaRouting
