import ReplicaRouting.Proofs.Fleet.ReadYourWrites
import ReplicaRouting.Proofs.Routing.LazyReplica

/-!
Sessions that go by an assumed lag, by the longest time that a write takes or by positions, under
any layers that note the calls of their trackers. None of them opens a replica before it has to.
-/

namespace ReplicaRouting

/-- What a session goes by: a lag since the last write, the longest time that a write takes, or the
positions of the tracker that is shared. -/
inductive Gauge (σ : Type) where
  | lag (lastWrite : Cell σ LagTracker) (now : σ → Instant)
  | propagation (maxPropagation : Span) (times : WriteTimes σ) (now : σ → Instant)
  | positions

/-- Sessions that share a tracker of positions if they go by it, each under layers of its own. -/
structure Gauging (σ π : Type) extends Sharing σ π where
  gauge : Nat → Gauge σ
  /-- The names of the layers, the outermost first. -/
  names : Nat → List String

section Gauges

variable {σ τ υ : Type}

/-- The tracker in a larger world, in which `positions` is the one that goes by positions. -/
def Gauge.tracker (log : Log σ) (cell : Cell τ σ) (positions : Tracker τ) : Gauge σ → Tracker τ
  | lag lastWrite now => (LagTracker.tracker lastWrite now).along cell
  | propagation maxPropagation times now =>
    (PropagationTracker.tracker maxPropagation times now log).along cell
  | .positions => positions

/-- Only the tracker of positions may need the replica for its verdict. -/
theorem Gauge.frugal {positions : Tracker τ} {awaits : τ → Prop} (hp : positions.Frugal awaits)
    (gauge : Gauge σ) (log : Log σ) (cell : Cell τ σ) :
    (gauge.tracker log cell positions).Frugal fun world => gauge = .positions ∧ awaits world := by
  intro world
  cases gauge with
  | lag lastWrite now =>
    exact ((LagTracker.frugal lastWrite now).along cell world).mono False.elim
  | propagation maxPropagation times now =>
    exact ((PropagationTracker.frugal maxPropagation times now log).along cell world).mono
      False.elim
  | positions => exact (hp world).mono fun hw => ⟨rfl, hw⟩

theorem Gauge.agrees {bond : Bond τ υ} (lenient : ∀ t, bond.blamed t) {left : Cell τ σ}
    {right : Cell υ σ} (hc : Cell.Agrees bond left right) {positions : Tracker τ}
    {positions' : Tracker υ} (hp : Tracker.Agrees bond positions positions') (gauge : Gauge σ)
    (log : Log σ) :
    Tracker.Agrees bond (gauge.tracker log left positions)
      (gauge.tracker log right positions') := by
  cases gauge with
  | lag lastWrite now => exact hc.tracker lenient _
  | propagation maxPropagation times now => exact hc.tracker lenient _
  | positions => exact hp

end Gauges

namespace Gauging

open Session Sharing

variable {σ π τ υ : Type} (gauging : Gauging σ π)

/-- What the session of an index is built from, in a larger world. -/
def deploy (cell : Cell τ σ) (positions : Tracker τ) (index : Nat) : Deployment τ where
  toSurroundings := (gauging.surroundings index).along cell
  tracker :=
    ((gauging.gauge index).tracker gauging.log cell positions).notedUnder (gauging.names index)
      fun notice => cell.modify (gauging.log notice)

theorem deploy_agrees {bond : Bond τ υ} (lenient : ∀ t, bond.blamed t) {left : Cell τ σ}
    {right : Cell υ σ} (hc : Cell.Agrees bond left right) {positions : Tracker τ}
    {positions' : Tracker υ} (hp : Tracker.Agrees bond positions positions') (index : Nat) :
    Collaborators.Agrees bond (gauging.deploy left positions index).collaborators
      (gauging.deploy right positions' index).collaborators :=
  (hc.surroundings lenient _).collaborators
    (((gauging.gauge index).agrees lenient hc hp gauging.log).notedUnder
      (fun _ => hc.modify lenient _) _)

variable [Ord π]

def deployment (index : Nat) : Deployment (Shared σ π) :=
  gauging.deploy outer (gauging.toSharing.deployment index).tracker index

/-- What the session of an index is built from if the history of the shared tracker is kept. -/
def watched (index : Nat) : Deployment (Chronicle (Shared σ π) (Sighting π)) :=
  gauging.deploy (outer.within world) (gauging.toSharing.watched index).tracker index

/-- Sessions that have been through a run, from a fresh start. -/
def fleet (ids : List String) (start : σ) (moves : List (Fleet.Move σ)) : Fleet (Shared σ π) :=
  Fleet.run (fun index => (gauging.deployment index).collaborators) outer moves
    (.fresh ids { outer := start })

def watchedFleet (ids : List String) (start : σ) (moves : List (Fleet.Move σ)) :
    Fleet (Chronicle (Shared σ π) (Sighting π)) :=
  Fleet.run (fun index => (gauging.watched index).collaborators) (outer.within world) moves
    (.fresh ids { world := { outer := start }, events := [] })

/-- The history of the shared tracker over a run. -/
def history (ids : List String) (start : σ) (moves : List (Fleet.Move σ)) : List (Sighting π) :=
  (gauging.watchedFleet ids start moves).world.events

/-- In every run the shared tracker is what its history has made of it. -/
theorem fleet_remembers (ids : List String) (start : σ) (moves : List (Fleet.Move σ)) :
    (gauging.fleet ids start moves).world.tracker =
      PositionTracker.told (answers (gauging.history ids start moves)) := by
  have hmeets := run_meets (fun index => gauging.deploy_agrees (fun _ => trivial) outer_erasing
    (gauging.toSharing.tracker_erasing index) index) ids start moves
  have hremembers := run_remembers (fun index => gauging.deploy_agrees (fun _ => trivial)
    outer_remembers (gauging.toSharing.tracker_remembers index) index) ids start moves
  have hworld : (gauging.watchedFleet ids start moves).world.world =
      (gauging.fleet ids start moves).world := hmeets.2
  rw [← hworld]
  exact hremembers

/-- A write was recorded, and to the latest one main had a position in answer. -/
def Located (history : List (Sighting π)) : Prop :=
  ∃ latest, (answers history).getLast? = some (.ok latest)

/-- Whatever the sessions have been through, an operation of any one of them asks for a replica at
most once, and only with a warrant. A session that goes by time has found the replica consistent by
then. One that goes by positions has done so without the replica, or the latest write is located. -/
theorem replica_opened_lazily (ids : List String) (start : σ) (moves : List (Fleet.Move σ))
    (index : Nat) (session : Session) (operation : Operation) :
    let deployment := gauging.deployment index
    let world := (gauging.fleet ids start moves).world
    let awaits := gauging.gauge index = .positions ∧ Located (gauging.history ids start moves)
    OpensLazily
      (fun before => ∃ seed, operation = .readHandle seed ∧
        Warrants deployment session seed world awaits before)
      (entries deployment.watched.collaborators session ⟨operation, world⟩) := by
  intro deployment world awaits
  let notes : Log (Shared σ π) := fun notice => outer.modify (gauging.log notice)
  have hpositions := PositionTracker.frugal tracker (gauging.source.along outer) notes
  have hfrugal := ((gauging.gauge index).frugal hpositions gauging.log outer).notedUnder
    (gauging.names index) notes
  refine entries_opensLazily ⟨operation, world⟩ ((hfrugal (deployment.asked world)).mono ?_)
  rintro ⟨hgauge, position, hawaits⟩
  -- to ask whether there is a replica is beyond the tracker
  have hstanding : world.tracker.standing = .awaiting position := hawaits
  rw [gauging.fleet_remembers ids start moves] at hstanding
  exact ⟨hgauge, PositionTracker.located_of_awaiting hstanding⟩

/-- Sessions in a world of two positions that go by these, under one layer. -/
def counting : Gauging (Nat × Nat) Nat where
  toSharing := Sharing.counting
  gauge _ := .positions
  names _ := ["primary"]

/-- After a write that was located, a session that has not done anything yet opens a replica for the
tracker, which finds that it has not come far enough. The session parts with it again. -/
theorem replica_opened_for_located_write :
    let before : List (Fleet.Move (Nat × Nat)) :=
      [.perform 0 (.writeHandle (.write "UPDATE t SET x = 1")), .elsewhere fun _ => (3, 2),
        .perform 0 .recordWrite]
    let fleet := counting.fleet ["a", "b"] (0, 0) before
    let turn : Turn (Shared (Nat × Nat) Nat) := ⟨.readHandle (.read "SELECT 1"), fleet.world⟩
    entries (counting.deployment 1).watched.collaborators { id := "b" } turn =
        [.opened .replica (.ok ⟨1⟩), .supplied (.ok (.replica ⟨1⟩)), .judged false,
          .opened .main (.ok ⟨0⟩), .collected ⟨1⟩ (.ok []), .called ⟨1⟩ .close (.ok ())] ∧
      Located (counting.history ["a", "b"] (0, 0) before) := by
  intro before fleet turn
  have hentries : entries (counting.deployment 1).watched.collaborators { id := "b" } turn =
      [] ++ .opened .replica (.ok ⟨1⟩) :: [.supplied (.ok (.replica ⟨1⟩)), .judged false,
        .opened .main (.ok ⟨0⟩), .collected ⟨1⟩ (.ok []), .called ⟨1⟩ .close (.ok ())] := by
    decide +kernel
  have hlazy : OpensLazily _
      (entries (counting.deployment 1).watched.collaborators { id := "b" } turn) :=
    counting.replica_opened_lazily ["a", "b"] (0, 0) before 1 { id := "b" } turn.operation
  rw [hentries] at hlazy
  obtain ⟨seed, -, hwarrant⟩ := hlazy.warranted rfl
  exact ⟨hentries, (hwarrant.cleared.resolve_right (by simp)).2⟩

end Gauging

end ReplicaRouting
