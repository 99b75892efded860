import ReplicaRouting.Proofs.Fleet.CachedProgress
import ReplicaRouting.Proofs.Tracker.NodeChecks

/-!
Clusters whose nodes are checked one by one, through cached progress and a cache that all nodes
share. A history of what main and the nodes have answered is kept alongside, which nothing reads.
-/

namespace ReplicaRouting

/-- The ways to nodes in a larger world. -/
def NodeAccess.along {σ τ ν : Type} (access : NodeAccess σ ν) (cell : Cell τ σ) :
    NodeAccess τ ν where
  name := access.name
  connect node := cell.along (access.connect node)
  close handle := cell.along (access.close handle)

/-- The check of a cluster with a handle that is opened at most once. -/
theorem ClusterTracker.isConsistent_run {σ ν : Type} {access : NodeAccess σ ν} {inner : Tracker σ}
    {log : Log σ} {discover : Consult σ Unit Supply (Except Fault (Option (List ν)))}
    (supply : Fallible σ Handle) (held : Option Handle) (world : σ) :
    (tracker access discover inner log).isConsistent.runWithHandle supply held world =
      let ((found, kept), asked) := discover.runWithHandle supply held world
      match found with
      | .ok (some (node :: nodes)) =>
        let (consistent, checked) := checkAll access inner log (node :: nodes) asked
        ((consistent, kept), checked)
      | .ok _ => ((false, kept), log .noNodesKnown asked)
      | .error fault => ((false, kept), log (.discoveryFailed fault) asked) := by
  rw [Consult.runWithHandle_eq, Consult.runWithHandle_eq, tracker_run]
  rcases discover.run (Consult.replyWithHandle supply) held world with ⟨found, kept, asked⟩
  rcases found with fault | (_ | (_ | ⟨node, nodes⟩)) <;> rfl

/-- A cluster, and the ways in which a tracker finds its nodes, gets to them and measures them. -/
structure Cluster (σ ν π : Type) where
  access : NodeAccess σ ν
  discover : Consult σ Unit Supply (Except Fault (Option (List ν)))
  source : ProgressSource σ π
  clock : σ → Instant
  log : Log σ

namespace Cluster

variable {σ ν π : Type}

/-- What main or a node has answered. -/
inductive Probe (ν π : Type) where
  /-- Main, when asked for its progress after a write. -/
  | recorded (answer : Except Fault π)
  | connected (node : ν) (result : Except Fault Handle)
  | measured (replica : Handle) (answer : Except Fault π)
deriving DecidableEq

def Probe.recorded? : Probe ν π → Option (Except Fault π)
  | recorded answer => some answer
  | connected .. | measured .. => none

/-- What main has told of its writes, in order. -/
def told (history : List (Probe ν π)) : List (Except Fault π) := history.filterMap Probe.recorded?

/-- The cluster with an entry for everything that is answered. -/
def watched (cluster : Cluster σ ν π) : Cluster (Chronicle σ (Probe ν π)) ν π where
  access :=
    { name := cluster.access.name
      connect := fun node => Chronicle.entering (.connected node) (cluster.access.connect node)
      close := fun handle => Chronicle.silently (cluster.access.close handle) }
  discover := cluster.discover.along Sharing.world
  source :=
    { fetchMain := fun main => Chronicle.entering .recorded (cluster.source.fetchMain main)
      fetchReplica := fun replica =>
        Chronicle.entering (.measured replica) (cluster.source.fetchReplica replica) }
  clock chronicle := cluster.clock chronicle.world
  log notice := Chronicle.onWorld (cluster.log notice)

variable [Ord π] (cluster : Cluster σ ν π)

def innerLog (notice : Notice) : Situation σ π → Situation σ π :=
  Situation.outerCell.modify (cluster.log notice)

def cache : SharedCache (Situation σ π) π where
  cell := Situation.replicaCell
  now world := cluster.clock world.outer
  log := cluster.innerLog

/-- The tracker that each node is checked with. What it does not know counts against the node. -/
def nodeTracker : Tracker (Situation σ π) :=
  ProgressTracker.tracker false Situation.mainCell cluster.cache
    (cluster.source.along Situation.outerCell) cluster.innerLog

def tracker : Tracker (Situation σ π) :=
  ClusterTracker.tracker (cluster.access.along Situation.outerCell)
    (cluster.discover.along Situation.outerCell) cluster.nodeTracker cluster.innerLog

def check (supply : Fallible σ Handle) (held : Option Handle) : StateM (Situation σ π) Bool :=
  fun world =>
    let ((consistent, _), later) :=
      cluster.tracker.isConsistent.runWithHandle (Situation.outerCell.along supply) held world
    (consistent, later)

/-- What may happen, one thing after another. Beside writes and checks main and the nodes may go on
by themselves, and they need not go forward. -/
inductive Move (σ : Type) where
  | write (main : Handle)
  | check (supply : Fallible σ Handle) (held : Option Handle)
  | change (change : σ → σ)

def step (world : Situation σ π) : Move σ → Situation σ π
  | .write main => cluster.tracker.write main world
  | .check supply held => (cluster.check supply held world).2
  | .change change => Situation.outerCell.modify change world

def run (world : Situation σ π) (moves : List (Move σ)) : Situation σ π :=
  moves.foldl cluster.step world

/-- The same in a world of which a history is kept. -/
def Move.watched {ε : Type} : Move σ → Move (Chronicle σ ε)
  | write main => write main
  | check supply held => check (Chronicle.silently supply) held
  | change f => change (Chronicle.onWorld f)

/-- The world after a run, with the history of the run. -/
def watchedRun (cache : RefreshCache π) (outer : σ) (moves : List (Move σ)) :
    Situation (Chronicle σ (Probe ν π)) π :=
  cluster.watched.run { outer := ⟨outer, []⟩, lastReplica := cache } (moves.map Move.watched)

def history (cache : RefreshCache π) (outer : σ) (moves : List (Move σ)) : List (Probe ν π) :=
  (cluster.watchedRun cache outer moves).outer.events

section Erasing

/-- A world without its history. -/
def plain (watched : Situation (Chronicle σ (Probe ν π)) π) : Situation σ π :=
  ⟨watched.outer.world, watched.lastMain, watched.lastReplica⟩

def erasing : Bond (Situation σ π) (Situation (Chronicle σ (Probe ν π)) π) where
  meets world watched := plain watched = world

/-- The world, where a history is kept with it. -/
def worldCell : Cell (Situation (Chronicle σ (Probe ν π)) π) σ :=
  Sharing.world.within Situation.outerCell

section Parts

omit [Ord π]

theorem worldCell_lawful : (worldCell : Cell (Situation (Chronicle σ (Probe ν π)) π) σ).Lawful :=
  ⟨fun _ _ => rfl, fun _ _ _ => rfl⟩

theorem cell_erasing {α : Type} {left : Cell (Situation σ π) α}
    {right : Cell (Situation (Chronicle σ (Probe ν π)) π) α}
    (hg : ∀ watched, left.get (plain watched) = right.get watched)
    (hs : ∀ value watched, plain (right.set value watched) = left.set value (plain watched)) :
    Cell.Agrees erasing left right where
  get := by
    rintro _ watched rfl
    exact hg watched
  set := by
    rintro value _ watched rfl
    exact hs value watched

theorem outer_erasing :
    Cell.Agrees erasing Situation.outerCell
      (worldCell : Cell (Situation (Chronicle σ (Probe ν π)) π) σ) :=
  cell_erasing (fun _ => rfl) (fun _ _ => rfl)

/-- An answer is the same with an entry and without. -/
theorem entering_erasing {α : Type} (entry : Except Fault α → Probe ν π) (action : Fallible σ α) :
    Fallible.Agrees erasing (Situation.outerCell.along action)
      (Situation.outerCell.along (Chronicle.entering entry action) :
        Fallible (Situation (Chronicle σ (Probe ν π)) π) α) := by
  rintro _ watched rfl
  exact ⟨rfl, rfl, fun _ => trivial, fun _ _ => trivial⟩

theorem innerLog_erasing (notice : Notice) :
    (erasing (ν := ν)).Keeps (cluster.innerLog notice) (cluster.watched.innerLog notice) :=
  outer_erasing.modify (fun _ => trivial) (cluster.log notice)

theorem source_erasing :
    ProgressSource.Agrees erasing (cluster.source.along Situation.outerCell)
      (cluster.watched.source.along Situation.outerCell) where
  fetchMain main s t hm :=
    let agrees := entering_erasing .recorded (cluster.source.fetchMain main) s t hm
    ⟨agrees.result, agrees.world⟩
  fetchReplica replica s t hm :=
    let agrees := entering_erasing (.measured replica) (cluster.source.fetchReplica replica) s t hm
    ⟨agrees.result, agrees.world⟩

theorem access_erasing :
    NodeAccess.Agrees erasing (cluster.access.along Situation.outerCell)
      (cluster.watched.access.along Situation.outerCell) where
  name := rfl
  connect node := entering_erasing (.connected node) (cluster.access.connect node)
  close handle := outer_erasing.fallible (fun _ => trivial) (cluster.access.close handle)

theorem cache_erasing : SharedCache.Agrees erasing cluster.cache cluster.watched.cache where
  cell := cell_erasing (fun _ => rfl) (fun _ _ => rfl)
  now := by
    rintro _ watched rfl
    rfl
  log := cluster.innerLog_erasing

end Parts

theorem tracker_erasing : Tracker.Agrees erasing cluster.tracker cluster.watched.tracker := by
  have hnode : Tracker.Agrees erasing cluster.nodeTracker cluster.watched.nodeTracker :=
    ProgressTracker.tracker_agrees false (fun _ => trivial)
      (cell_erasing (fun _ => rfl) (fun _ _ => rfl)) cluster.cache_erasing cluster.source_erasing
      cluster.innerLog_erasing
  have hdiscover : Consult.Agrees erasing (cluster.discover.along Situation.outerCell)
      (cluster.watched.discover.along Situation.outerCell) := by
    rw [watched, Consult.along_along]
    exact outer_erasing.consult cluster.discover
  exact ClusterTracker.tracker_agrees cluster.access_erasing hnode cluster.innerLog_erasing
    hdiscover

theorem check_erasing (supply : Fallible σ Handle) (held : Option Handle) :
    erasing.Answers (cluster.check supply held)
      (cluster.watched.check (Chronicle.silently supply) held) := by
  intro s t hm
  obtain ⟨hr, hw⟩ := cluster.tracker_erasing.isConsistent.runWithHandle
    (outer_erasing.fallible (fun _ => trivial) supply) held s t hm
  exact ⟨congrArg Prod.fst hr, hw⟩

/-- Keeping the history changes nothing. -/
theorem run_erasing (moves : List (Move σ)) {world : Situation σ π}
    {watched : Situation (Chronicle σ (Probe ν π)) π} (hm : plain watched = world) :
    plain (cluster.watched.run watched (moves.map Move.watched)) = cluster.run world moves := by
  induction moves generalizing world watched with
  | nil => exact hm
  | cons move moves ih =>
    apply ih
    cases move with
    | write main => exact (cluster.tracker_erasing.write main world watched hm).1
    | check supply held => exact (cluster.check_erasing supply held world watched hm).2
    | change change => exact (outer_erasing.modify (fun _ => trivial) change world watched hm).1

end Erasing

end Cluster

end ReplicaRouting
