import ReplicaRouting.Proofs.Fleet.Sharing
import ReplicaRouting.Proofs.Obliging
import ReplicaRouting.Proofs.Routing.Settling

/-!
Read your writes across sessions. A replica serves a read only if it has come at least as far as
main had after every write that any session has recorded.
-/

namespace ReplicaRouting.Sharing

variable {σ π : Type}

section Keeping

/-- Whatever concerns only the tracker and its history is beyond the reach of the surroundings. -/
theorem outer_keeping (P : PositionTracker π → List (Sighting π) → Prop) :
    Cell.Agrees (Bond.keeping fun chronicle => P chronicle.world.tracker chronicle.events)
      (outer.within world : Cell (Chronicle (Shared σ π) (Sighting π)) σ) (outer.within world) where
  get := by
    rintro chronicle _ ⟨rfl, -⟩
    rfl
  set := by
    rintro value chronicle _ ⟨rfl, hp⟩
    exact ⟨rfl, hp⟩

theorem answers_recorded (history : List (Sighting π)) (answer : Except Fault π) :
    answers (history ++ [.recorded answer]) = answers history ++ [answer] := by
  rw [answers, List.filterMap_append]
  rfl

theorem answers_compared (history : List (Sighting π)) (replica : Handle)
    (answer : Except Fault π) : answers (history ++ [.compared replica answer]) = answers history := by
  rw [answers, List.filterMap_append]
  exact List.append_nil _

variable [Ord π] (sharing : Sharing σ π)

/-- The tracker is what its history has made of it. -/
def Remembers (chronicle : Chronicle (Shared σ π) (Sighting π)) : Prop :=
  chronicle.world.tracker = PositionTracker.told (answers chronicle.events)

theorem outer_remembers :
    Cell.Agrees (Bond.keeping (Remembers : Chronicle (Shared σ π) (Sighting π) → Prop))
      (outer.within world) (outer.within world) :=
  outer_keeping fun tracker history => tracker = PositionTracker.told (answers history)

theorem tracker_remembers (index : Nat) :
    Tracker.Agrees (Bond.keeping Remembers) (sharing.watched index).tracker
      (sharing.watched index).tracker where
  write := by
    rintro main chronicle _ ⟨rfl, hr⟩
    obtain ⟨ht, he⟩ := sharing.watched_write index main chronicle
    refine ⟨⟨rfl, ?_⟩, id⟩
    unfold Remembers at hr ⊢
    rw [ht, he, hr, answers_recorded, PositionTracker.told_snoc]
  preCommit _ _ _ hm := ⟨hm, id⟩
  isConsistent := by
    apply PositionTracker.isConsistent_agrees
    · rintro chronicle _ ⟨rfl, -⟩
      rfl
    · rintro replica chronicle _ ⟨rfl, hr⟩
      refine ⟨rfl, rfl, ?_⟩
      exact hr.trans (congrArg _ (answers_compared _ _ _).symm)
    · exact fun notice => outer_remembers.modify (fun _ => trivial) _

theorem collaborators_remember (index : Nat) :
    Collaborators.Agrees (Bond.keeping Remembers) (sharing.watched index).collaborators
      (sharing.watched index).collaborators :=
  (outer_remembers.surroundings (fun _ => trivial) _).collaborators
    (sharing.tracker_remembers index)

/-- A tracker that collaborators leave to its history is left to it by every run. -/
theorem run_remembers {watched : Nat → Collaborators (Chronicle (Shared σ π) (Sighting π))}
    (h : ∀ index, Collaborators.Agrees (Bond.keeping Remembers) (watched index) (watched index))
    (ids : List String) (start : σ) (moves : List (Fleet.Move σ)) :
    Remembers (Fleet.run watched (outer.within world) moves
      (.fresh ids { world := { outer := start }, events := [] })).world := by
  -- an empty history and a tracker that was told of nothing
  have hstart : Fleet.Meets (Bond.keeping Remembers)
      (.fresh ids { world := { outer := start }, events := [] } :
        Fleet (Chronicle (Shared σ π) (Sighting π)))
      (.fresh ids { world := { outer := start }, events := [] }) := ⟨rfl, rfl, rfl⟩
  exact (Fleet.run_agrees (fun _ => trivial) h
    (fun change => outer_remembers.modify (fun _ => trivial) change) hstart moves).2.2

/-- In every run the tracker is what its history has made of it. -/
theorem watchedFleet_remembers (ids : List String) (start : σ) (moves : List (Fleet.Move σ)) :
    Remembers (sharing.watchedFleet ids start moves).world :=
  run_remembers sharing.collaborators_remember ids start moves

end Keeping

section Reading

open Session

variable [Ord π] {sharing : Sharing σ π} {index : Nat} {session : Session} {seed : Decision}
  {chronicle : Chronicle (Shared σ π) (Sighting π)} {connection : ConnectionId}

/-- Past the decision a read has nothing to do with the tracker. -/
theorem read_events (ho : session.closed = false) {settled : Decision} {route : Route}
    {after : Chronicle (Shared σ π) (Sighting π)}
    (h : Settles (sharing.watched index) session seed chronicle settled route after) :
    (readHandle (sharing.watched index).collaborators seed ⟨session, chronicle⟩).2.world.events =
      after.events := by
  have hkeep : Cell.Agrees
      (Bond.keeping fun c : Chronicle (Shared σ π) (Sighting π) => c.events = after.events)
      (outer.within world) (outer.within world) :=
    outer_keeping fun _ history => history = after.events
  have hsurround : Surroundings.Agrees _ (sharing.watched index).toSurroundings
      (sharing.watched index).toSurroundings :=
    hkeep.surroundings (fun _ => trivial) (sharing.surroundings index)
  let scene : Scene (Chronicle (Shared σ π) (Sighting π)) := ⟨session, chronicle⟩
  have hopen : scene.session.closed = false := ho
  -- the read is paired with itself from the point where its decision is settled
  have hmeets := readHandle_meets hsurround.surround hopen rfl h.chooseRoute_eq h.chooseRoute_eq
    ⟨rfl, rfl, rfl⟩
  exact hmeets.world.2.2

/-- The tracker sees nothing of how the replica it asks for is opened. -/
theorem reply_events {held kept : Option Handle} {handle : Handle}
    {after : Chronicle (Shared σ π) (Sighting π)}
    (h : Consult.replyWithHandle (sharing.watched index).database.replicaHandle () held chronicle =
      (.ok handle, kept, after)) : after.events = chronicle.events ∧ kept = some handle := by
  cases held with
  | some shown =>
    cases h
    exact ⟨rfl, rfl⟩
  | none =>
    have hkeep : Cell.Agrees
        (Bond.keeping fun c : Chronicle (Shared σ π) (Sighting π) => c.events = chronicle.events)
        (outer.within world) (outer.within world) :=
      outer_keeping fun _ history => history = chronicle.events
    have hdatabase : Database.Agrees _ (sharing.watched index).database
        (sharing.watched index).database :=
      (hkeep.surroundings (fun _ => trivial) (sharing.surroundings index)).database
    have hworld := (hdatabase.replicaHandle chronicle chronicle ⟨rfl, rfl⟩).world.2
    unfold Consult.replyWithHandle at h
    dsimp only at h
    rcases ho : (sharing.watched index).database.replicaHandle chronicle with
      ⟨fault | shown, opened⟩ <;> rw [ho] at h hworld <;> cases h
    exact ⟨hworld, rfl⟩

theorem watched_read [Std.TransOrd π] (hs : session.Sound) (hr : Remembers chronicle)
    (hk : (readHandle (sharing.watched index).collaborators seed ⟨session, chronicle⟩).1 =
      .ok (.replica connection)) :
    answers chronicle.events = [] ∨
      (∃ latest, (answers chronicle.events).getLast? = some (.ok latest)) ∧
        ∃ reached,
          (readHandle (sharing.watched index).collaborators seed
            ⟨session, chronicle⟩).2.world.events =
              chronicle.events ++ [.compared (.replica connection) (.ok reached)] ∧
            ∀ position, .ok position ∈ answers chronicle.events →
              (compare reached position).isGE := by
  let scene : Scene (Chronicle (Shared σ π) (Sighting π)) := ⟨session, chronicle⟩
  have ho : scene.session.closed = false := by
    rw [← Bool.not_eq_true]
    intro hc
    rw [readHandle_of_closed (sharing.watched index).collaborators seed hc] at hk
    cases hk
  obtain ⟨settled, route, after, h⟩ := settles (sharing.watched index) session seed chronicle
  obtain ⟨later, hf, -⟩ := h.read ho hk
  -- a replica handle comes of a favourable verdict and of nothing else
  have hm : settled.runsOnMain = false := by
    rw [← Bool.not_eq_true]
    intro hm
    have hkind := hf.kind_main hs hm
    cases hkind
  obtain ⟨opened, rfl, hv⟩ := h.verdict hm
  -- on the way to the tracker it has stayed what its history made of it
  have htracker : (tracker.within world).get ((sharing.watched index).asked chronicle) =
      PositionTracker.told (answers chronicle.events) := hr
  rcases PositionTracker.consistent_cases _ _ _ hv with
    ⟨hsettled, -⟩ | ⟨position, handle, asked, reached, hawaiting, hreply, hfetch, hge⟩
  · left
    rw [htracker] at hsettled
    exact PositionTracker.told_nil_of_settled hsettled
  · right
    rw [htracker] at hawaiting
    obtain ⟨hlatest, hfurthest⟩ := PositionTracker.told_awaiting hawaiting
    obtain ⟨hasked, hopened⟩ := reply_events hreply
    have hhandle : Handle.replica connection = handle :=
      (hf.kind_replica (fun _ => h.opened_of_held) (h.askable hs ho).opened_kind hm).2 handle hopened
    refine ⟨hlatest, reached, ?_, fun recorded hrec => ?_⟩
    · have hafter : after.events = asked.events ++ [.compared handle (.ok reached)] :=
        Chronicle.entering_events hfetch
      rw [read_events ho h, hafter, hasked, hhandle]
      rfl
    · exact Std.TransOrd.isGE_trans hge (hfurthest recorded hrec)

/-- What a fleet does in a read is done by the session that is asked for it. -/
theorem perform_readHandle {τ : Type} {among : Nat → Collaborators τ} {fleet later : Fleet τ}
    {handle : Handle}
    (h : fleet.perform among index (.readHandle seed) = some (.ok (.handle handle), later)) :
    ∃ session ∈ fleet.sessions,
      (readHandle (among index) seed ⟨session, fleet.world⟩).1 = .ok handle ∧
        (readHandle (among index) seed ⟨session, fleet.world⟩).2.world = later.world := by
  cases hi : fleet.sessions[index]? with
  | none =>
    rw [Fleet.perform_of_none among hi] at h
    cases h
  | some session =>
    rw [Fleet.perform_of_session among hi] at h
    simp only [Session.perform, Fallible.map_apply] at h
    refine ⟨session, List.mem_of_getElem? hi, ?_⟩
    rcases hr : readHandle (among index) seed ⟨session, fleet.world⟩ with ⟨fault | taken, ended⟩ <;>
      rw [hr] at h <;> cases h
    exact ⟨rfl, rfl⟩

/-- Whatever sessions do over one tracker, in any order and with any failures: where a replica
serves a read, either no write was ever recorded, or the latest one was located and the replica has
just been found to have reached every position recorded so far. -/
theorem read_your_writes [Std.TransOrd π] (sharing : Sharing σ π) (ids : List String) (start : σ)
    (moves : List (Fleet.Move σ)) (index : Nat) (seed : Decision)
    {later : Fleet (Shared σ π)}
    (hread : (sharing.fleet ids start moves).perform
      (fun index => (sharing.deployment index).collaborators) index (.readHandle seed) =
        some (.ok (.handle (.replica connection)), later)) :
    let history := sharing.history ids start moves
    answers history = [] ∨
      (∃ latest, (answers history).getLast? = some (.ok latest)) ∧
        ∃ reached,
          sharing.history ids start (moves ++ [.perform index (.readHandle seed)]) =
            history ++ [.compared (.replica connection) (.ok reached)] ∧
          ∀ position, .ok position ∈ answers history → (compare reached position).isGE := by
  intro history
  obtain ⟨watchedLater, hw, -⟩ := Fleet.perform_agrees (fun _ => trivial) sharing.watched_erasing
    (sharing.watchedFleet_meets ids start moves) index (.readHandle seed) hread
  -- the watched run reads with the same answer, and there the history can be looked at
  obtain ⟨session, hmem, hk, hworld⟩ := perform_readHandle hw
  have hsound : session.Sound :=
    Fleet.run_sound _ _ (Fleet.fresh_sound ids _) moves session hmem
  have hnext : sharing.history ids start (moves ++ [.perform index (.readHandle seed)]) =
      watchedLater.world.events := by
    unfold Sharing.history watchedFleet
    rw [Fleet.run_concat]
    exact congrArg (·.world.events) (Fleet.step_of_perform _ _ hw)
  rw [hnext, ← hworld]
  exact watched_read hsound (sharing.watchedFleet_remembers ids start moves) hk

/-- Sessions in a world of two positions, that of main and that of the replica. -/
def counting : Sharing (Nat × Nat) Nat where
  surroundings _ := .obliging _
  source :=
    { fetchMain := fun _ world => (.ok world.1, world)
      fetchReplica := fun _ world => (.ok world.2, world) }
  log _ world := world

/-- A write brings main to position 3. The replica serves a read of another session as soon as it
has reached that position too. -/
theorem replica_serves_after_catching_up :
    let before : List (Fleet.Move (Nat × Nat)) :=
      [.perform 0 (.writeHandle (.write "UPDATE t SET x = 1")), .elsewhere fun _ => (3, 2),
        .perform 0 .recordWrite, .elsewhere fun _ => (3, 3)]
    let reading : Fleet.Move (Nat × Nat) := .perform 1 (.readHandle (.read "SELECT x FROM t"))
    answers (counting.history ["a", "b"] (0, 0) before) = [.ok 3] ∧
      ∃ reached, counting.history ["a", "b"] (0, 0) (before ++ [reading]) =
        [.recorded (.ok 3), .compared (.replica ⟨1⟩) (.ok reached)] ∧
          (compare reached 3).isGE := by
  intro before reading
  have hhistory : counting.history ["a", "b"] (0, 0) before = [.recorded (.ok 3)] := by
    decide +kernel
  have hanswer : ((counting.fleet ["a", "b"] (0, 0) before).perform
      (fun index => (counting.deployment index).collaborators) 1
      (.readHandle (.read "SELECT x FROM t"))).map (·.1) =
        some (.ok (.handle (.replica ⟨1⟩))) := by
    decide +kernel
  obtain ⟨⟨_, later⟩, hread, rfl⟩ := Option.map_eq_some_iff.mp hanswer
  have hserved := read_your_writes counting ["a", "b"] (0, 0) before 1 (.read "SELECT x FROM t")
    hread
  rw [hhistory] at hserved
  refine ⟨by rw [hhistory]; rfl, ?_⟩
  rcases hserved with hnone | ⟨-, reached, happ, hreached⟩
  · cases hnone
  · exact ⟨reached, happ, hreached 3 (by simp [answers, Sighting.recorded?])⟩

end Reading

end ReplicaRouting.Sharing
