import ReplicaRouting.Proofs.Chronicle
import ReplicaRouting.Proofs.Fleet.Runs
import ReplicaRouting.Proofs.Routing.Agreement
import ReplicaRouting.Proofs.Tracker.Positions

/-!
Sessions on standard chains that share a tracker of positions. Each has surroundings of its own; the
tracker belongs to none of them and is out of reach of everything but their operations. A history
of the tracker is kept alongside, which nothing reads.
-/

namespace ReplicaRouting

section Parts

variable {σ τ υ α : Type}

/-- Do something to a part of the world. -/
def Cell.along (cell : Cell τ σ) (action : StateM σ α) : StateM τ α := fun world =>
  let (answer, part) := action (cell.get world)
  (answer, cell.set part world)

def Cell.within (inner : Cell σ α) (outer : Cell τ σ) : Cell τ α where
  get world := inner.get (outer.get world)
  set value := outer.modify (inner.set value)

def Database.along (database : Database σ) (cell : Cell τ σ) : Database τ where
  replicaAvailable := cell.along database.replicaAvailable
  openMain := cell.along database.openMain
  openReplica := cell.along database.openReplica
  call connection call := cell.along (database.call connection call)
  warnings connection := cell.along (database.warnings connection)

/-- The surroundings of a session in a larger world. -/
def Surroundings.along (surroundings : Surroundings σ) (cell : Cell τ σ) : Surroundings τ where
  database := surroundings.database.along cell
  classifier := surroundings.classifier
  breaker := surroundings.breaker.within cell
  listener before after := cell.modify (surroundings.listener before after)
  log notice := cell.modify (surroundings.log notice)

def ProgressSource.along {π : Type} (source : ProgressSource σ π) (cell : Cell τ σ) :
    ProgressSource τ π where
  fetchMain main := cell.along (source.fetchMain main)
  fetchReplica replica := cell.along (source.fetchReplica replica)

/-- The consultation about a part of the world, which is looked at anew after every reply. -/
def Inquiry.along {q r : Type} (cell : Cell τ σ) : Inquiry σ q r α → τ → Inquiry τ q r α
  | answered answer part, world => .answered answer (cell.set part world)
  | asking question part resume, world =>
    .asking question (cell.set part world) fun reply world =>
      (resume reply (cell.get world)).along cell world

def Consult.along {q r : Type} (consult : Consult σ q r α) (cell : Cell τ σ) : Consult τ q r α :=
  fun world => (consult (cell.get world)).along cell world

def Tracker.along (tracker : Tracker σ) (cell : Cell τ σ) : Tracker τ where
  write main := cell.modify (tracker.write main)
  preCommit main := cell.modify (tracker.preCommit main)
  isConsistent := tracker.isConsistent.along cell

def Deployment.along (deployment : Deployment σ) (cell : Cell τ σ) : Deployment τ where
  toSurroundings := deployment.toSurroundings.along cell
  tracker := deployment.tracker.along cell

/-- What is put in is there afterwards, and nothing is left of what was put in before. -/
structure Cell.Lawful (cell : Cell τ σ) : Prop where
  get_set : ∀ part world, cell.get (cell.set part world) = part
  set_set : ∀ first second world, cell.set second (cell.set first world) = cell.set second world

/-- To consult about a part of the world and to be replied to by it changes nothing else. -/
theorem Consult.runWithHandle_along {q : Type} {cell : Cell τ σ} (h : cell.Lawful)
    (consult : Consult σ q Supply α) (supply : Fallible σ Handle) (held : Option Handle) :
    (consult.along cell).runWithHandle (cell.along supply) held =
      cell.along (consult.runWithHandle supply held) := by
  have hi (inquiry : Inquiry σ q Supply α) (held : Option Handle) (world : τ) :
      (inquiry.along cell world).run (replyWithHandle (cell.along supply)) held =
        let ended := inquiry.run (replyWithHandle supply) held
        (ended.1, ended.2.1, cell.set ended.2.2 world) := by
    induction inquiry generalizing held world with
    | answered answer part => rfl
    | asking question part resume ih =>
      cases held with
      | some handle =>
        simp only [Inquiry.along, Inquiry.run, replyWithHandle, h.get_set, ih, h.set_set]
      | none =>
        rcases hs : supply part with ⟨fault | handle, after⟩ <;>
          simp only [Inquiry.along, Inquiry.run, replyWithHandle, Cell.along, h.get_set, hs] <;>
          rw [ih] <;> simp only [h.set_set]
  funext world
  rw [runWithHandle_eq]
  exact congrArg (fun ended => ((ended.1, ended.2.1), ended.2.2)) (hi _ held world)

/-- A part of a part is a part. -/
theorem Consult.along_along {q r : Type} (consult : Consult σ q r α) (inner : Cell τ σ)
    (outer : Cell υ τ) :
    (consult.along inner).along outer = consult.along (inner.within outer) := by
  have hi (inquiry : Inquiry σ q r α) (world : υ) :
      (inquiry.along inner (outer.get world)).along outer world =
        inquiry.along (inner.within outer) world := by
    induction inquiry generalizing world with
    | answered answer part => rfl
    | asking question part resume ih =>
      simp only [Inquiry.along]
      congr 1
      funext reply world
      exact ih reply _ world
  funext world
  exact hi _ world

end Parts

section Agreement

variable {σ τ υ α : Type} {bond : Bond τ υ} {left : Cell τ σ} {right : Cell υ σ}

/-- Cells of the same content, whatever is put into both. -/
structure Cell.Agrees (bond : Bond τ υ) (left : Cell τ σ) (right : Cell υ σ) : Prop where
  get : ∀ s t, bond.meets s t → left.get s = right.get t
  set : ∀ value s t, bond.meets s t → bond.meets (left.set value s) (right.set value t)

variable (lenient : ∀ t, bond.blamed t) (h : Cell.Agrees bond left right)
include h

theorem Cell.Agrees.along (action : StateM σ α) :
    bond.Answers (left.along action) (right.along action) := by
  intro s t hm
  unfold Cell.along
  rw [h.get s t hm]
  exact ⟨rfl, h.set _ s t hm⟩

theorem Cell.Agrees.consult {q r : Type} (consult : Consult σ q r α) :
    Consult.Agrees bond (consult.along left) (consult.along right) := by
  have hi (inquiry : Inquiry σ q r α) (s : τ) (t : υ) (hm : bond.meets s t) :
      Inquiry.Agrees bond (inquiry.along left s) (inquiry.along right t) := by
    induction inquiry generalizing s t with
    | answered answer part => exact .answered answer (h.set part s t hm)
    | asking question part resume ih =>
      refine .asking question (h.set part s t hm) fun reply s' t' hm' => ?_
      rw [h.get s' t' hm']
      exact ih reply (right.get t') s' t' hm'
  intro s t hm
  unfold Consult.along
  rw [h.get s t hm]
  exact hi _ s t hm

include lenient

theorem Cell.Agrees.modify (f : σ → σ) : bond.Keeps (left.modify f) (right.modify f) := by
  intro s t hm
  unfold Cell.modify
  rw [h.get s t hm]
  exact ⟨h.set _ s t hm, fun _ => lenient _⟩

theorem Cell.Agrees.fallible (action : Fallible σ α) :
    Fallible.Agrees bond (left.along action) (right.along action) := by
  intro s t hm
  obtain ⟨hr, hw⟩ := h.along action s t hm
  exact ⟨hr, hw, fun _ => lenient _, fun _ _ => lenient _⟩

/-- The same surroundings agree wherever they have been put. -/
theorem Cell.Agrees.surroundings (surroundings : Surroundings σ) :
    Surroundings.Agrees bond (surroundings.along left) (surroundings.along right) where
  database :=
    { available := h.along _
      openMain := h.fallible lenient _
      openReplica := h.fallible lenient _
      call := fun _ _ => h.fallible lenient _
      warnings := fun _ => h.fallible lenient _ }
  classifier := rfl
  breaker s t hm := congrArg surroundings.breaker.get (h.get s t hm)
  listener _ _ := h.modify lenient _
  log _ := h.modify lenient _

theorem Cell.Agrees.tracker (tracker : Tracker σ) :
    Tracker.Agrees bond (tracker.along left) (tracker.along right) where
  write _ := h.modify lenient _
  preCommit _ := h.modify lenient _
  isConsistent := h.consult _

end Agreement

/-- A world with a tracker of positions beside everything else. -/
structure Shared (σ π : Type) where
  outer : σ
  tracker : PositionTracker π := {}

/-- What a tracker of positions has come to see. -/
inductive Sighting (π : Type) where
  /-- It was told of a write, and main answered so when asked for its position. -/
  | recorded (answer : Except Fault π)
  /-- It was asked for its verdict, and the replica answered so. -/
  | compared (replica : Handle) (answer : Except Fault π)
deriving DecidableEq

/-- What main answered after a write, if it is that which was seen. -/
def Sighting.recorded? {π : Type} : Sighting π → Option (Except Fault π)
  | recorded answer => some answer
  | compared .. => none

/-- The answers of main after the writes, in order. -/
def answers {π : Type} (history : List (Sighting π)) : List (Except Fault π) :=
  history.filterMap Sighting.recorded?

/-- Sessions that share a tracker of positions: their surroundings, the way in which the tracker
measures progress, and its log. -/
structure Sharing (σ π : Type) where
  surroundings : Nat → Surroundings σ
  source : ProgressSource σ π
  log : Log σ

namespace Sharing

variable {σ π : Type}

def outer : Cell (Shared σ π) σ := ⟨Shared.outer, fun outer world => { world with outer }⟩

def tracker : Cell (Shared σ π) (PositionTracker π) :=
  ⟨Shared.tracker, fun tracker world => { world with tracker }⟩

def world {ε : Type} : Cell (Chronicle σ ε) σ :=
  ⟨Chronicle.world, fun world chronicle => { chronicle with world }⟩

variable [Ord π] (sharing : Sharing σ π)

/-- What the session of an index is built from. -/
def deployment (index : Nat) : Deployment (Shared σ π) where
  toSurroundings := (sharing.surroundings index).along outer
  tracker := PositionTracker.tracker tracker (sharing.source.along outer)
    fun notice => outer.modify (sharing.log notice)

/-- The source of progress, with an entry for every answer. -/
def watchedSource : ProgressSource (Chronicle (Shared σ π) (Sighting π)) π where
  fetchMain main := Chronicle.entering .recorded ((sharing.source.along outer).fetchMain main)
  fetchReplica replica :=
    Chronicle.entering (.compared replica) ((sharing.source.along outer).fetchReplica replica)

/-- What the session of an index is built from if the history of the tracker is kept. -/
def watched (index : Nat) : Deployment (Chronicle (Shared σ π) (Sighting π)) where
  toSurroundings := (sharing.surroundings index).along (outer.within world)
  tracker := PositionTracker.tracker (tracker.within world) sharing.watchedSource
    fun notice => (outer.within world).modify (sharing.log notice)

/-- Sessions that have been through a run, from a fresh start. -/
def fleet (ids : List String) (start : σ) (moves : List (Fleet.Move σ)) : Fleet (Shared σ π) :=
  Fleet.run (fun index => (sharing.deployment index).collaborators) outer moves
    (.fresh ids { outer := start })

def watchedFleet (ids : List String) (start : σ) (moves : List (Fleet.Move σ)) :
    Fleet (Chronicle (Shared σ π) (Sighting π)) :=
  Fleet.run (fun index => (sharing.watched index).collaborators) (outer.within world) moves
    (.fresh ids { world := { outer := start }, events := [] })

/-- The history of the tracker over a run. -/
def history (ids : List String) (start : σ) (moves : List (Fleet.Move σ)) : List (Sighting π) :=
  (sharing.watchedFleet ids start moves).world.events

/-- To be told of a write is one entry in the history, and one answer for the tracker. -/
theorem watched_write (index : Nat) (main : Handle)
    (chronicle : Chronicle (Shared σ π) (Sighting π)) :
    let answer := ((sharing.source.along outer).fetchMain main chronicle.world).1
    let later := (sharing.watched index).tracker.write main chronicle
    later.world.tracker = chronicle.world.tracker.write answer ∧
      later.events = chronicle.events ++ [.recorded answer] := by
  simp only [watched, PositionTracker.tracker, watchedSource, Chronicle.entering,
    ProgressSource.along, Cell.along]
  rcases sharing.source.fetchMain main (outer.get chronicle.world) with ⟨_ | _, _⟩ <;>
    exact ⟨rfl, rfl⟩

section Erasing

open Chronicle

omit [Ord π] in
theorem outer_erasing :
    Cell.Agrees erasing outer (outer.within world : Cell (Chronicle (Shared σ π) (Sighting π)) σ) where
  get := by
    rintro _ chronicle rfl
    rfl
  set := by
    rintro value _ chronicle rfl
    rfl

theorem tracker_erasing (index : Nat) :
    Tracker.Agrees erasing (sharing.deployment index).tracker (sharing.watched index).tracker where
  write := by
    rintro main _ chronicle rfl
    refine ⟨?_, id⟩
    simp only [deployment, watched, PositionTracker.tracker, watchedSource, Chronicle.entering]
    rcases (sharing.source.along outer).fetchMain main chronicle.world with ⟨_ | _, _⟩ <;> rfl
  preCommit _ _ _ hm := ⟨hm, id⟩
  isConsistent := by
    apply PositionTracker.isConsistent_agrees
    · rintro _ chronicle rfl
      rfl
    · rintro replica _ chronicle rfl
      exact ⟨rfl, rfl⟩
    · exact fun notice => outer_erasing.modify (fun _ => trivial) _

theorem watched_erasing (index : Nat) :
    Collaborators.Agrees erasing (sharing.deployment index).collaborators
      (sharing.watched index).collaborators :=
  (outer_erasing.surroundings (fun _ => trivial) (sharing.surroundings index)).collaborators
    (sharing.tracker_erasing index)

omit [Ord π] in
/-- Keeping a history changes nothing in a run if it changes nothing for the collaborators. -/
theorem run_meets {plain : Nat → Collaborators (Shared σ π)}
    {watched : Nat → Collaborators (Chronicle (Shared σ π) (Sighting π))}
    (h : ∀ index, Collaborators.Agrees erasing (plain index) (watched index)) (ids : List String)
    (start : σ) (moves : List (Fleet.Move σ)) :
    Fleet.Meets erasing (Fleet.run plain outer moves (.fresh ids { outer := start }))
      (Fleet.run watched (outer.within world) moves
        (.fresh ids { world := { outer := start }, events := [] })) := by
  have hstart : Fleet.Meets erasing (.fresh ids { outer := start } : Fleet (Shared σ π))
      (.fresh ids { world := { outer := start }, events := [] } :
        Fleet (Chronicle (Shared σ π) (Sighting π))) := ⟨rfl, rfl⟩
  exact Fleet.run_agrees (fun _ => trivial) h
    (fun change => outer_erasing.modify (fun _ => trivial) change) hstart moves

/-- Keeping the history changes nothing. -/
theorem watchedFleet_meets (ids : List String) (start : σ) (moves : List (Fleet.Move σ)) :
    Fleet.Meets erasing (sharing.fleet ids start moves) (sharing.watchedFleet ids start moves) :=
  run_meets sharing.watched_erasing ids start moves

end Erasing

end Sharing

end ReplicaRouting
