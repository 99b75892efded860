import ReplicaRouting.Proofs.Consult
import ReplicaRouting.Proofs.Session.Operation

/-!
Runs of a session. Every operation finds the world in a state of its own, so that between two of
them anything may have happened. What the handles of a reachable session are like is the invariant
`Sound`, which every operation keeps, failing ones included.
-/

namespace ReplicaRouting.Session

variable {σ : Type} (among : Collaborators σ)

structure Turn (σ : Type) where
  operation : Operation
  world : σ

/-- The session after a turn, whether its operation fails or not. -/
def after (session : Session) (turn : Turn σ) : Session :=
  (perform among turn.operation ⟨session, turn.world⟩).2.session

def run (turns : List (Turn σ)) (session : Session) : Session := turns.foldl (after among) session

/-- A session that has come about by turns from a fresh one. -/
inductive Reachable : Session → Prop where
  | fresh (id : String) : Reachable { id }
  | turn {session : Session} (turn : Turn σ) (earlier : Reachable session) :
    Reachable (session.after among turn)

theorem Reachable.run {session : Session} (hr : Reachable among session) (turns : List (Turn σ)) :
    Reachable among (run among turns session) := by
  induction turns generalizing session with
  | nil => exact hr
  | cons turn turns ih => exact ih (.turn turn hr)

/-- Handles are of the kind of their slot, and a session that stays on main holds no replica. -/
structure Sound (session : Session) : Prop where
  main_kind : ∀ handle, session.main.handle? = some handle → handle.kind = .main
  replica_kind : ∀ handle, session.replica.handle? = some handle → handle.kind = .replica
  alone : session.main.isReady = true → session.committed = false → session.replica = .absent

variable {session : Session} {decision : Decision} {result : Except Fault Handle}
  {later : Session}

theorem Sound.of_core (h : later.core = session.core) (hs : Sound session) : Sound later := by
  obtain ⟨hm, hr, hc, -, -⟩ := eq_of_core h
  exact ⟨by rw [hm]; exact hs.main_kind, by rw [hr]; exact hs.replica_kind,
    by rw [hm, hr, hc]; exact hs.alone⟩

/-- A session without a main handle only has to hold a replica of the right kind. -/
theorem Sound.of_main_absent (hm : session.main = .absent)
    (hr : ∀ handle, session.replica.handle? = some handle → handle.kind = .replica) :
    Sound session :=
  ⟨by simp [hm, Slot.handle?], hr, by simp [hm, Slot.isReady]⟩

theorem Sound.ended (session : Session) (warnings : Warnings) : Sound (session.ended warnings) :=
  ⟨by simp [Session.ended, Slot.handle?], by simp [Session.ended, Slot.handle?],
    fun _ _ => rfl⟩

theorem Sound.concluded (hs : Sound session) : Sound (session.concluded decision result) := by
  cases result <;> exact ⟨hs.main_kind, hs.replica_kind, hs.alone⟩

theorem Sound.repinned (hs : Sound session) : Sound (session.repinned decision result) := by
  cases result with
  | error fault => exact hs
  | ok taken =>
    refine ⟨?_, hs.replica_kind, ?_⟩
    · simp only [Session.repinned, Slot.handle_repin]
      exact hs.main_kind
    · intro hm hc
      apply hs.alone _ hc
      cases hmain : session.main with
      | absent => simp [Session.repinned, hmain, Slot.repin, Slot.isReady] at hm
      | ready _ _ => rfl

/-- Taking main needs no more than handles of the right kinds. -/
theorem TakesMain.sound (ht : TakesMain session decision result later)
    (hm : ∀ handle, session.main.handle? = some handle → handle.kind = .main)
    (hr : ∀ handle, session.replica.handle? = some handle → handle.kind = .replica) :
    Sound later := by
  refine ⟨?_, ?_, fun held _ => ht.replica_absent held⟩
  · cases ht with
    | kept => exact hm
    | refused => exact hm
    | opened connection =>
      intro handle h
      cases h
      rfl
  · cases ht with
    | kept => simp [Slot.handle?]
    | refused => exact hr
    | opened => simp [Slot.handle?]

theorem Diverts.sound (hd : Diverts session decision result later)
    (hm : ∀ handle, session.main.handle? = some handle → handle.kind = .main)
    (hr : ∀ handle, session.replica.handle? = some handle → handle.kind = .replica) :
    Sound later := by
  cases hd with
  | forGood takes pins => exact (takes.sound hm hr).repinned
  | untilCaughtUp takes pins => exact takes.sound hm hr

theorem adopting_replica_kind (hs : Sound session) {opened : Option Handle}
    (ho : ∀ handle, opened = some handle → handle.kind = .replica) (handle : Handle)
    (h : (session.adopting decision opened).replica.handle? = some handle) :
    handle.kind = .replica := by
  cases opened with
  | none => exact hs.replica_kind handle h
  | some fresh =>
    cases hr : session.replica with
    | ready held since =>
      rw [adopting, hr, Slot.install, ← hr] at h
      exact hs.replica_kind handle h
    | absent =>
      rw [adopting, hr, Slot.install] at h
      cases h
      exact ho _ rfl

theorem adopting_main (session : Session) (decision : Decision) (opened : Option Handle) :
    (session.adopting decision opened).main = session.main ∧
      (session.adopting decision opened).committed = session.committed ∧
      (session.adopting decision opened).closed = session.closed := by
  cases opened <;> exact ⟨rfl, rfl, rfl⟩

theorem TakesReplica.sound (ht : TakesReplica session decision result later)
    (hm : session.main = .absent)
    (hr : ∀ handle, session.replica.handle? = some handle → handle.kind = .replica) :
    Sound later := by
  cases ht with
  | kept | refused => exact .of_main_absent hm hr
  | opened connection =>
    refine .of_main_absent hm ?_
    intro handle h
    cases h
    rfl

/-- What the chain may be asked for: an open session that does not stay on main. -/
structure Askable (session : Session) (opened : Option Handle) : Prop where
  closed : session.closed = false
  unpinned : session.phase ≠ .main
  opened_kind : ∀ handle, opened = some handle → handle.kind = .replica

theorem Askable.committed {opened : Option Handle} (h : Askable session opened)
    (hm : session.main.isReady = true) : session.committed = true := by
  have hp := h.unpinned
  rw [ne_eq, phase_eq_main_iff] at hp
  simpa [h.closed, hm] using hp

theorem Askable.main_absent {opened : Option Handle} (h : Askable session opened)
    (hp : session.phase ≠ .committedMain) : session.main = .absent := by
  rw [ne_eq, phase_eq_committedMain_iff] at hp
  cases hm : session.main with
  | absent => rfl
  | ready handle since =>
    have hr : session.main.isReady = true := by rw [hm]; rfl
    exact absurd ⟨h.closed, hr, h.committed hr⟩ hp

theorem Follows.sound {route : Route} (hf : Follows session decision route result later)
    (hs : Sound session) (ha : ∀ opened, route = .byChain opened → Askable session opened) :
    Sound later := by
  cases hf with
  | main takes => exact takes.sound hs.main_kind hs.replica_kind
  | withoutReplica diverts => exact diverts.sound hs.main_kind hs.replica_kind
  | unadopted opened fault =>
    have ha := ha opened rfl
    obtain ⟨hm, hc, -⟩ := adopting_main session decision opened
    -- the adopted replica may stand beside main, but only where main was lent
    refine ⟨by rw [hm]; exact hs.main_kind, adopting_replica_kind hs ha.opened_kind, ?_⟩
    intro held lent
    rw [hm] at held
    rw [hc, ha.committed held] at lent
    cases lent
  | @diverted opened _ _ onMain diverts =>
    have ha := ha opened rfl
    apply diverts.sound _ (adopting_replica_kind hs ha.opened_kind)
    rw [(adopting_main session decision opened).1]
    exact hs.main_kind
  | unclosed opened fault warnings onReplica =>
    exact .of_main_absent rfl (adopting_replica_kind hs (ha opened rfl).opened_kind)
  | @returned opened _ _ warnings onReplica held takes =>
    exact takes.sound rfl (adopting_replica_kind hs (ha opened rfl).opened_kind)
  | @stayed opened _ _ onReplica held takes =>
    have ha := ha opened rfl
    apply takes.sound _ (adopting_replica_kind hs ha.opened_kind)
    exact (adopting_main session decision opened).1.trans (ha.main_absent held)

theorem chooseRoute_askable {scene chosen : Scene σ} {seed settled : Decision}
    {opened : Option Handle} (hs : Sound scene.session) (ho : scene.session.closed = false)
    (hc : chooseRoute among seed scene = (.ok (settled, .byChain opened), chosen)) :
    Askable scene.session opened := by
  cases hx : scene.session.parameters.exceedsReadCommitted with
  | true =>
    rw [chooseRoute_of_strict among scene seed hx] at hc
    cases hc
  | false =>
    by_cases hp : scene.session.phase = .main
    · obtain ⟨handle, since, hm⟩ := main_ready_of_phase hp
      rw [chooseRoute_of_main among scene seed hx hm hp] at hc
      cases hc
    · cases ha : (among.database.replicaAvailable scene.world).1 with
      | false =>
        rw [chooseRoute_of_unavailable among scene seed hx hp ha rfl] at hc
        cases hc
      | true =>
        rw [chooseRoute_of_available among scene seed hx hp ha rfl] at hc
        cases hc
        refine ⟨ho, hp, fun handle h => ?_⟩
        -- the handle was held in the replica slot before, or the provider opened it
        exact Consult.runWithHandle_held _ _ _ hs.replica_kind
          (fun _ _ _ hr => by obtain ⟨connection, rfl⟩ := replicaHandle_kind hr; rfl) _ handle h

theorem readHandle_sound {scene : Scene σ} (seed : Decision) (hs : Sound scene.session) :
    Sound (readHandle among seed scene).2.session := by
  cases ho : scene.session.closed with
  | true =>
    rw [readHandle_of_closed among seed ho]
    exact hs
  | false =>
    obtain ⟨settled, route, world, hc⟩ := chooseRoute_settles among scene seed
    obtain ⟨after, hf, hw⟩ := readHandle_follows among ho hc
    rw [hw]
    apply Sound.concluded
    apply hf.sound hs
    rintro opened rfl
    exact chooseRoute_askable among hs ho hc

theorem writeHandle_sound {scene : Scene σ} (seed : Decision) (hs : Sound scene.session) :
    Sound (writeHandle among seed scene).2.session := by
  cases ho : scene.session.closed with
  | true =>
    rw [writeHandle_of_closed among seed ho]
    exact hs
  | false =>
    obtain ⟨after, ht, hw⟩ := writeHandle_takes among seed ho
    rw [hw]
    exact (ht.sound hs.main_kind hs.replica_kind).repinned.concluded

theorem perform_sound (operation : Operation) {scene : Scene σ} (hs : Sound scene.session) :
    Sound (perform among operation scene).2.session := by
  -- most operations touch neither slot; the four that do are taken one by one
  by_cases ha : operation.isAside = true
  · exact hs.of_core (perform_aside among ha scene)
  cases operation with
  | readHandle seed =>
    rw [perform, Fallible.map_apply]
    exact readHandle_sound among seed hs
  | writeHandle seed =>
    rw [perform, Fallible.map_apply]
    exact writeHandle_sound among seed hs
  | close =>
    rw [perform, Fallible.bind_pure_world]
    cases ho : scene.session.closed with
    | true =>
      rw [close_eq, ending_of_closed among _ ho]
      exact hs
    | false =>
      obtain ⟨warnings, hw⟩ := close_session among ho
      exact hw ▸ .ended _ warnings
  | abort deadline =>
    rw [perform, Fallible.bind_pure_world]
    cases ho : scene.session.closed with
    | true =>
      rw [abort_eq, ending_of_closed among _ ho]
      exact hs
    | false => exact abort_session among deadline ho ▸ .ended _ _
  | _ => exact absurd rfl ha

theorem Reachable.sound {among : Collaborators σ} (hr : Reachable among session) :
    Sound session := by
  induction hr with
  | fresh id => exact .of_main_absent rfl (by simp [Slot.handle?])
  | turn turn _ ih => exact perform_sound among turn.operation ih

end ReplicaRouting.Session
