import ReplicaRouting.Call
import ReplicaRouting.Fallible

/-!
What a session needs of the databases: a provider that opens connections, and the connections.
-/

namespace ReplicaRouting

/-- The provider of connections and the connections themselves, over the world `σ`. -/
structure Database (σ : Type) where
  /-- Whether there is a replica to connect to. -/
  replicaAvailable : StateM σ Bool
  openMain : Fallible σ ConnectionId
  openReplica : Fallible σ ConnectionId
  call : ConnectionId → Call → Fallible σ Unit
  /-- The warnings of a connection since they were last cleared, oldest first. -/
  warnings : ConnectionId → Fallible σ (List Warning)

namespace Database

variable {σ : Type}

/-- Open a handle to main. -/
def mainHandle (database : Database σ) : Fallible σ Handle := do
  return .main (← database.openMain)

/-- Open a handle to a replica. -/
def replicaHandle (database : Database σ) : Fallible σ Handle := do
  return .replica (← database.openReplica)

/-- Make a call, if there is a handle to make it on. -/
def callIfHeld (database : Database σ) (handle : Option Handle) (call : Call) : Fallible σ Unit :=
  match handle with
  | some handle => database.call handle.connection call
  | none => return ()

end Database

end ReplicaRouting
