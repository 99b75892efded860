import ReplicaRouting.Proofs.Obliging
import ReplicaRouting.Proofs.Session.Reachable

/-!
The pin to main. A session that has once come to stay on main holds that main handle and no other
until it is ended, and serves every read and every write by it.
-/

namespace ReplicaRouting.Session

variable {σ : Type} (among : Collaborators σ)

/-- The session is on main with this handle and no other, until a replica has caught up or for
good. -/
structure OnMain (handle : Handle) (committed : Bool) (session : Session) : Prop where
  closed : session.closed = false
  committed : session.committed = committed
  main : session.main.handle? = some handle
  replica : session.replica = .absent

abbrev PinnedTo (handle : Handle) (session : Session) : Prop := OnMain handle false session

def Operation.isEnd : Operation → Bool
  | .close | .abort _ => true
  | _ => false

variable {session later : Session} {handle : Handle}

theorem PinnedTo.phase (h : PinnedTo handle session) : session.phase = .main := by
  rw [phase_eq_main_iff]
  obtain ⟨since, hm⟩ := (Slot.handle_some_iff _ _).mp h.main
  exact ⟨h.closed, by rw [hm]; rfl, h.committed⟩

/-- The phase `main` stands for a main handle of the right kind and no replica. -/
theorem Sound.pinned (hs : Sound session) (hp : session.phase = .main) :
    ∃ connection, PinnedTo (.main connection) session := by
  obtain ⟨ho, hm, hc⟩ := (phase_eq_main_iff session).mp hp
  obtain ⟨handle, since, hslot⟩ := main_ready_of_phase hp
  have hh : session.main.handle? = some handle := by rw [hslot]; rfl
  have hk := hs.main_kind handle hh
  obtain ⟨kind, connection⟩ := handle
  cases hk
  exact ⟨connection, ho, hc, hh, hs.alone hm hc⟩

theorem PinnedTo.of_core (h : PinnedTo handle session) (hc : later.core = session.core) :
    PinnedTo handle later := by
  obtain ⟨hm, hr, hcom, ho, -⟩ := eq_of_core hc
  exact ⟨ho.trans h.closed, hcom.trans h.committed, by rw [hm]; exact h.main,
    hr.trans h.replica⟩

theorem PinnedTo.concluded (h : PinnedTo handle session) (decision : Decision)
    (result : Except Fault Handle) : PinnedTo handle (session.concluded decision result) := by
  cases result <;> exact ⟨h.closed, h.committed, h.main, h.replica⟩

theorem PinnedTo.repinned (h : PinnedTo handle session) (decision : Decision)
    (result : Except Fault Handle) : PinnedTo handle (session.repinned decision result) := by
  cases result with
  | error fault => exact h
  | ok taken =>
    refine ⟨h.closed, h.committed, ?_, h.replica⟩
    simp only [Session.repinned, Slot.handle_repin]
    exact h.main

theorem takeMain_of_pinned (decision : Decision) {scene : Scene σ}
    (h : PinnedTo handle scene.session) :
    takeMain among decision scene = (.ok handle, scene) := by
  unfold takeMain
  simp only [Act.session_bind, h.main]
  rw [Fallible.bind_of_ok (releaseReplica_of_absent among scene handle h.replica)]
  rfl

theorem chooseRoute_of_pinned (seed : Decision) {scene : Scene σ}
    (h : PinnedTo handle scene.session) :
    ∃ settled, chooseRoute among seed scene = (.ok (settled, .main), scene) := by
  cases hx : scene.session.parameters.exceedsReadCommitted with
  | true => exact ⟨_, chooseRoute_of_strict among scene seed hx⟩
  | false =>
    obtain ⟨since, hm⟩ := (Slot.handle_some_iff _ _).mp h.main
    exact ⟨_, chooseRoute_of_main among scene seed hx hm h.phase⟩

theorem readHandle_of_pinned (seed : Decision) {scene : Scene σ}
    (h : PinnedTo handle scene.session) :
    (readHandle among seed scene).1 = .ok handle ∧
      PinnedTo handle (readHandle among seed scene).2.session := by
  obtain ⟨settled, hc⟩ := chooseRoute_of_pinned among seed h
  have hf : followRoute among settled .main scene = (.ok handle, scene) :=
    takeMain_of_pinned among settled h
  rw [readHandle_of_open among h.closed hc, Act.outcomeOf_bind, hf]
  obtain ⟨world, hw⟩ := conclude_announce among settled scene.session.phase (.ok handle) scene
  rw [hw]
  exact ⟨rfl, h.concluded settled (.ok handle)⟩

theorem writeHandle_of_pinned (seed : Decision) {scene : Scene σ}
    (h : PinnedTo handle scene.session) :
    (writeHandle among seed scene).1 = .ok handle ∧
      PinnedTo handle (writeHandle among seed scene).2.session := by
  -- clearing the flag changes nothing where it is clear
  have hu : ({ scene.session with committed := false } : Session) = scene.session := by
    rw [← h.committed]
  have ht : takeMainForGood among seed scene =
      (.ok handle, { scene with session := scene.session.repinned seed (.ok handle) }) := by
    unfold takeMainForGood
    rw [Act.update_bind]
    simp only [hu]
    rw [Fallible.bind_of_ok (takeMain_of_pinned among seed h)]
    rfl
  unfold writeHandle
  rw [Fallible.bind_of_ok (ensureOpen_of_open h.closed), Act.session_bind, Act.outcomeOf_bind, ht]
  obtain ⟨world, hw⟩ := conclude_announce among seed scene.session.phase (.ok handle)
    { scene with session := scene.session.repinned seed (.ok handle) }
  rw [hw]
  exact ⟨rfl, (h.repinned seed (.ok handle)).concluded seed (.ok handle)⟩

theorem after_pinned (h : PinnedTo handle session) {turn : Turn σ}
    (ht : turn.operation.isEnd = false) : PinnedTo handle (session.after among turn) := by
  unfold after
  by_cases ha : turn.operation.isAside = true
  · exact h.of_core (perform_aside among ha ⟨session, turn.world⟩)
  cases ho : turn.operation with
  | readHandle seed =>
    rw [perform, Fallible.map_apply]
    exact (readHandle_of_pinned among seed h).2
  | writeHandle seed =>
    rw [perform, Fallible.map_apply]
    exact (writeHandle_of_pinned among seed h).2
  | close | abort _ => simp [ho, Operation.isEnd] at ht
  | _ => simp [ho, Operation.isAside] at ha

/-- A property that every turn keeps but the one that ends the session. -/
theorem run_of_unended {P : Session → Prop} (hturn : ∀ {session : Session}, P session →
      ∀ {turn : Turn σ}, turn.operation.isEnd = false → P (session.after among turn))
    (h : P session) (turns : List (Turn σ)) (ht : ∀ turn ∈ turns, turn.operation.isEnd = false) :
    P (session.run among turns) := by
  induction turns generalizing session with
  | nil => exact h
  | cons turn turns ih =>
    apply ih (hturn h (ht turn List.mem_cons_self))
    intro next hn
    exact ht next (List.mem_cons_of_mem _ hn)

theorem run_pinned (h : PinnedTo handle session) (turns : List (Turn σ))
    (ht : ∀ turn ∈ turns, turn.operation.isEnd = false) :
    PinnedTo handle (session.run among turns) :=
  run_of_unended among (after_pinned among) h turns ht

/-- Once a session stays on main, it does so on one connection until it is ended, whatever fails
and whatever its collaborators answer in between. -/
theorem main_pin_is_sticky {among : Collaborators σ} (hr : Reachable among session)
    (hp : session.phase = .main) :
    ∃ connection, ∀ turns : List (Turn σ), (∀ turn ∈ turns, turn.operation.isEnd = false) →
      let later := session.run among turns
      later.phase = .main ∧ later.replica = .absent ∧
        later.main.handle? = some (.main connection) ∧
        ∀ seed world,
          (readHandle among seed ⟨later, world⟩).1 = .ok (.main connection) ∧
            (writeHandle among seed ⟨later, world⟩).1 = .ok (.main connection) := by
  obtain ⟨connection, hpin⟩ := hr.sound.pinned hp
  refine ⟨connection, fun turns ht => ?_⟩
  -- the pin carries through all turns and then serves whatever is asked for
  have hlater := run_pinned among hpin turns ht
  refine ⟨hlater.phase, hlater.replica, hlater.main, fun seed world => ?_⟩
  let scene : Scene σ := ⟨session.run among turns, world⟩
  have hscene : PinnedTo (.main connection) scene.session := hlater
  exact ⟨(readHandle_of_pinned among seed hscene).1, (writeHandle_of_pinned among seed hscene).1⟩

/-- After a write the strictest isolation and a consistent replica change nothing. -/
theorem main_pin_outlasts_isolation :
    let among := Deployment.obliging.collaborators
    let written : Session := after among { id := "a" } ⟨.writeHandle (.write "DELETE FROM t"), true⟩
    let turns : List (Turn Bool) :=
      [⟨.setIsolation .serializable, true⟩, ⟨.readHandle (.read "SELECT 1"), true⟩,
        ⟨.setIsolation .none, true⟩]
    written.phase = .main ∧ (run among turns written).phase = .main := by
  intro among written turns
  have hp : written.phase = .main := by decide
  have hr : Reachable among written := .turn _ (.fresh "a")
  obtain ⟨connection, hc⟩ := main_pin_is_sticky hr hp
  exact ⟨hp, (hc turns (by decide)).1⟩

end ReplicaRouting.Session
