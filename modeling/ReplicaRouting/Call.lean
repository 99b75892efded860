import ReplicaRouting.Handle
import ReplicaRouting.Time.Span

/-!
The calls a connection accepts, apart from the question for its warnings.
-/

namespace ReplicaRouting

/-- A call on a connection. -/
inductive Call where
  | commit
  | rollback
  | close
  | abort (deadline : Span)
  | clearWarnings
  | setAutoCommit (value : Bool)
  | setReadOnly (value : Bool)
  | setIsolation (level : Isolation)
  | execute (sql : String)
deriving DecidableEq

namespace Call

def operation : Call → String
  | commit => "commit"
  | rollback => "rollback"
  | close => "close"
  | abort _ => "abort"
  | clearWarnings => "clear_warnings"
  | setAutoCommit _ => "set_auto_commit"
  | setReadOnly _ => "set_read_only"
  | setIsolation _ => "set_transaction_isolation"
  | execute _ => "execute"

def argument? : Call → Option String
  | abort deadline => some s!"{deadline.millis}ms"
  | setAutoCommit value | setReadOnly value => some (toString value)
  | setIsolation level => some level.title
  | execute sql => some sql
  | commit | rollback | close | clearWarnings => none

/-- The call as it is noted down: the operation, and the value in parentheses. -/
def text (call : Call) : String :=
  match call.argument? with
  | some argument => call.operation ++ "(" ++ argument ++ ")"
  | none => call.operation

def ends : Call → Bool
  | close | abort _ => true
  | _ => false

end Call

end ReplicaRouting
