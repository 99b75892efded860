import ReplicaRouting.Tracker

/-!
Tracking of many replica nodes behind one address: a read is safe only if every node has caught
up. If no node is known, nothing is known to have caught up.
-/

namespace ReplicaRouting

/-- How the nodes of a cluster are told apart and reached. -/
structure NodeAccess (σ ν : Type) where
  name : ν → String
  connect : ν → Fallible σ Handle
  close : Handle → Fallible σ Unit

namespace ClusterTracker

variable {σ ν : Type}

/-- The nodes to check, if any are known. -/
def nodesToCheck (log : Log σ) : Except Fault (Option (List ν)) → StateM σ (List ν)
  | .ok (some (node :: nodes)), world => (node :: nodes, world)
  | .ok _, world => ([], log .noNodesKnown world)
  | .error fault, world => ([], log (.discoveryFailed fault) world)

/-- Close the handle of a node, if one was opened. A failure is only noted. -/
def closeOpened (access : NodeAccess σ ν) (log : Log σ) (node : ν) : Option Handle → σ → σ
  | none, world => world
  | some handle, world =>
    match access.close handle world with
    | (.ok (), world) => world
    | (.error fault, world) => log (.nodeCloseFailed (access.name node) fault) world

/-- Ask the inner tracker about one node, with a handle to it that is opened at most once. -/
def checkNode (access : NodeAccess σ ν) (inner : Tracker σ) (log : Log σ) (node : ν) :
    StateM σ Bool := fun world =>
  let ((consistent, opened), world) :=
    inner.isConsistent.runWithHandle (access.connect node) none world
  let world := log (.nodeChecked (access.name node) consistent) world
  (consistent, closeOpened access log node opened world)

/-- Ask about the nodes in order, until one has not caught up. -/
def checkAll (access : NodeAccess σ ν) (inner : Tracker σ) (log : Log σ) :
    List ν → StateM σ Bool
  | [], world => (true, world)
  | node :: nodes, world =>
    match checkNode access inner log node world with
    | (true, world) => checkAll access inner log nodes world
    | (false, world) => (false, world)

/-- The tracker over nodes found by `discover`. -/
def tracker (access : NodeAccess σ ν)
    (discover : Consult σ Unit Supply (Except Fault (Option (List ν)))) (inner : Tracker σ)
    (log : Log σ) : Tracker σ where
  write := inner.write
  preCommit := inner.preCommit
  isConsistent := do
    match ← Consult.act (nodesToCheck log (← discover)) with
    | [] => return false
    | nodes => Consult.act (checkAll access inner log nodes)

def text (knownNodes : Option Nat) : String :=
  "ClusterConsistency \x7b known_nodes: " ++ Text.optional (knownNodes.map toString) ++ ", .. \x7d"

end ClusterTracker

end ReplicaRouting
