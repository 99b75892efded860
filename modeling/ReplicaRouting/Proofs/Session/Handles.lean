import ReplicaRouting.Session.Handles

/-!
How a session comes by its handles and parts with them, whatever its collaborators do. Taking the
main handle has three courses, and whenever main is held afterwards the replica is not.
-/

namespace ReplicaRouting

theorem Slot.handle_none_iff (slot : Slot) : slot.handle? = none ↔ slot = .absent := by
  cases slot <;> simp [Slot.handle?]

theorem Slot.handle_some_iff (slot : Slot) (handle : Handle) :
    slot.handle? = some handle ↔ ∃ decision, slot = .ready handle decision := by
  cases slot <;> simp [Slot.handle?, eq_comm]

theorem Slot.handle_repin (slot : Slot) (decision : Decision) :
    (slot.repin decision).handle? = slot.handle? := by
  cases slot with
  | absent => rfl
  | ready handle kept =>
    unfold Slot.repin
    dsimp only
    split <;> rfl

namespace Session

variable {σ : Type} (among : Collaborators σ)

theorem phase_eq_main_iff (session : Session) :
    session.phase = .main ↔
      session.closed = false ∧ session.main.isReady = true ∧ session.committed = false := by
  unfold phase
  cases session.closed <;> cases session.main.isReady <;> cases session.committed <;>
    cases session.replica.isReady <;> simp

theorem phase_eq_committedMain_iff (session : Session) :
    session.phase = .committedMain ↔
      session.closed = false ∧ session.main.isReady = true ∧ session.committed = true := by
  unfold phase
  cases session.closed <;> cases session.main.isReady <;> cases session.committed <;>
    cases session.replica.isReady <;> simp

theorem main_ready_of_phase {session : Session} (h : session.phase = .main) :
    ∃ handle since, session.main = .ready handle since := by
  obtain ⟨-, hr, -⟩ := (phase_eq_main_iff session).mp h
  cases hm : session.main with
  | absent => simp [hm, Slot.isReady] at hr
  | ready handle since => exact ⟨handle, since, rfl⟩

section Closing

variable (scene : Scene σ)

theorem closeSlot_of_empty {kind : HandleKind} (h : (scene.session.slot kind).handle? = none) :
    closeSlot among kind scene = (.ok (), scene) := by
  unfold closeSlot
  simp [h]

theorem without_of_empty {session : Session} {kind : HandleKind}
    (h : (session.slot kind).handle? = none) : session.without kind = session := by
  have ha := (Slot.handle_none_iff _).mp h
  cases kind <;> simp only [slot] at ha <;> simp [without, ← ha]

theorem closeSlot_of_held {kind : HandleKind} {handle : Handle}
    (h : (scene.session.slot kind).handle? = some handle) :
    closeSlot among kind scene =
      let reading := among.database.warnings handle.connection scene.world
      let collected := match reading.1 with
        | .ok warnings => warnings
        | .error fault => [{ message := fault.message }]
      let session := { scene.session.without kind with
        warnings := (scene.session.without kind).warnings.saveAll collected }
      match among.database.call handle.connection .close reading.2 with
      | (.ok (), world) => (.ok (), ⟨session, world⟩)
      | (.error fault, world) =>
        (.error fault, ⟨session, among.log (.closeFailed session.id kind fault) world⟩) := by
  unfold closeSlot
  simp only [Act.session_bind, h, Act.update_bind, Act.attempt_bind]
  rcases among.database.call handle.connection .close _ with ⟨_ | _, _⟩ <;> rfl

/-- The slot is empty afterwards, also when closing failed. -/
theorem closeSlot_session (kind : HandleKind) :
    ∃ warnings, (closeSlot among kind scene).2.session =
      { scene.session.without kind with warnings } := by
  cases h : (scene.session.slot kind).handle? with
  | none =>
    rw [closeSlot_of_empty among scene h, without_of_empty h]
    exact ⟨_, rfl⟩
  | some handle =>
    rw [closeSlot_of_held among scene h]
    dsimp only
    rcases among.database.call handle.connection .close _ with ⟨_ | _, _⟩ <;> exact ⟨_, rfl⟩

theorem releaseReplica_session (main : Handle) :
    ∃ warnings, (releaseReplica among main scene).2.session =
      { scene.session with replica := .absent, warnings } := by
  unfold releaseReplica
  simp only [Act.session_bind]
  split
  · exact ⟨_, rfl⟩
  · exact closeSlot_session among scene .replica

/-- Where there is no replica to part with, nothing happens. -/
theorem releaseReplica_of_absent (main : Handle) (h : scene.session.replica = .absent) :
    releaseReplica among main scene = (.ok (), scene) := by
  unfold releaseReplica
  have hn : (scene.session.slot .replica).handle? = none := by simp only [slot, h, Slot.handle?]
  simp only [Act.session_bind, h, Slot.handle?, Option.any_none, Bool.false_eq_true, ↓reduceIte]
  exact closeSlot_of_empty among scene hn

theorem bringInLine_session (handle : Handle) :
    (bringInLine among handle scene).2.session = scene.session := rfl

theorem bringInLine_return (handle : Handle) :
    let settled := (do
      bringInLine among handle
      return handle : Act σ Handle) scene
    settled.2.session = scene.session ∧ ∀ taken, settled.1 = .ok taken → taken = handle := by
  have hs := bringInLine_session among scene handle
  rcases hb : bringInLine among handle scene with ⟨_ | _, settled⟩
  · rw [Fallible.bind_of_error hb]
    rw [hb] at hs
    exact ⟨hs, by simp⟩
  · rw [Fallible.bind_of_ok hb]
    rw [hb] at hs
    exact ⟨hs, by simp [eq_comm]⟩

theorem releaseReplica_bringInLine (handle : Handle) :
    let settled := (do
      releaseReplica among handle
      bringInLine among handle
      return handle : Act σ Handle) scene
    (∃ warnings, settled.2.session = { scene.session with replica := .absent, warnings }) ∧
      ∀ taken, settled.1 = .ok taken → taken = handle := by
  obtain ⟨warnings, hs⟩ := releaseReplica_session among scene handle
  rcases hr : releaseReplica among handle scene with ⟨_ | _, released⟩
  · rw [Fallible.bind_of_error hr]
    rw [hr] at hs
    exact ⟨⟨warnings, hs⟩, by simp⟩
  · rw [Fallible.bind_of_ok hr]
    rw [hr] at hs
    obtain ⟨hb, hg⟩ := bringInLine_return among released handle
    exact ⟨⟨warnings, hb.trans hs⟩, hg⟩

theorem mainHandle_kind {database : Database σ} {world after : σ} {handle : Handle}
    (h : database.mainHandle world = (.ok handle, after)) : ∃ connection, handle = .main connection := by
  unfold Database.mainHandle at h
  rw [Fallible.bind_apply] at h
  rcases ho : database.openMain world with ⟨_ | connection, _⟩ <;> rw [ho] at h <;> cases h
  exact ⟨connection, rfl⟩

end Closing

/-- The courses of taking the main handle: what the caller gets and what becomes of the session. -/
inductive TakesMain (session : Session) (decision : Decision) :
    Except Fault Handle → Session → Prop where
  | kept {handle : Handle} {since : Decision} (result : Except Fault Handle) (warnings : Warnings)
      (held : session.main = .ready handle since)
      (given : ∀ taken, result = .ok taken → taken = handle) :
      TakesMain session decision result { session with replica := .absent, warnings }
  | refused (fault : Fault) (held : session.main = .absent) :
      TakesMain session decision (.error fault) session
  | opened (connection : ConnectionId) (result : Except Fault Handle) (warnings : Warnings)
      (held : session.main = .absent)
      (given : ∀ taken, result = .ok taken → taken = .main connection) :
      TakesMain session decision result
        { session with main := .ready (.main connection) decision, replica := .absent, warnings }

theorem takeMain_takes (decision : Decision) (scene : Scene σ) :
    TakesMain scene.session decision (takeMain among decision scene).1
      (takeMain among decision scene).2.session := by
  unfold takeMain
  cases h : scene.session.main with
  | ready handle since =>
    -- main is handed over as it is, and only the replica has to go
    obtain ⟨warnings, hs⟩ := releaseReplica_session among scene handle
    simp only [Act.session_bind, h, Slot.handle?]
    rcases hc : releaseReplica among handle scene with ⟨_ | _, after⟩
    · rw [Fallible.bind_of_error hc]
      rw [hc] at hs
      exact hs ▸ .kept _ _ h (by simp)
    · rw [Fallible.bind_of_ok hc]
      rw [hc] at hs
      exact hs ▸ .kept _ _ h (by simp)
  | absent =>
    -- a failure from here on finds the new handle in its slot, where it stays
    simp only [Act.session_bind, h, Slot.handle?, Act.request_bind]
    rcases ho : among.database.mainHandle scene.world with ⟨_ | handle, world⟩
    · exact .refused _ h
    · obtain ⟨connection, rfl⟩ := mainHandle_kind ho
      simp only [Act.update_bind, Act.session_bind, Act.affect_bind, h, Slot.install]
      obtain ⟨⟨warnings, hs⟩, hg⟩ := releaseReplica_bringInLine among _ (.main connection)
      rw [hs]
      exact .opened connection _ warnings h hg

theorem TakesMain.replica_absent {session after : Session} {decision : Decision}
    {result : Except Fault Handle} (h : TakesMain session decision result after)
    (hm : after.main.isReady = true) : after.replica = .absent := by
  cases h with
  | kept => rfl
  | refused fault held => simp [held, Slot.isReady] at hm
  | opened => rfl

theorem TakesMain.committed_eq {session after : Session} {decision : Decision}
    {result : Except Fault Handle} (h : TakesMain session decision result after) :
    after.committed = session.committed := by
  cases h <;> rfl

/-- The session once a pinning decision has been noted with main. -/
def repinned (session : Session) (decision : Decision) : Except Fault Handle → Session
  | .ok _ => { session with main := session.main.repin decision }
  | .error _ => session

/-- The session with the replica that was opened while the chain was asked. -/
def adopting (session : Session) (decision : Decision) : Option Handle → Session
  | some handle => { session with replica := session.replica.install handle decision }
  | none => session

/-- The courses of taking main for a decision that sends an operation there. -/
inductive Diverts (session : Session) (decision : Decision) :
    Except Fault Handle → Session → Prop where
  | forGood {result : Except Fault Handle} {after : Session}
      (takes : TakesMain { session with committed := false } decision result after)
      (pins : decision.pinsMain = true) :
      Diverts session decision result (after.repinned decision result)
  | untilCaughtUp {result : Except Fault Handle} {after : Session}
      (takes : TakesMain { session with committed := true } decision result after)
      (pins : decision.pinsMain = false) : Diverts session decision result after

/-- The courses of taking the replica handle. -/
inductive TakesReplica (session : Session) (decision : Decision) :
    Except Fault Handle → Session → Prop where
  | kept {handle : Handle} {since : Decision} (held : session.replica = .ready handle since) :
      TakesReplica session decision (.ok handle) session
  | refused (fault : Fault) (held : session.replica = .absent) :
      TakesReplica session decision (.error fault) session
  | opened (connection : ConnectionId) (result : Except Fault Handle)
      (held : session.replica = .absent)
      (given : ∀ taken, result = .ok taken → taken = .replica connection) :
      TakesReplica session decision result
        { session with replica := .ready (.replica connection) decision }

theorem TakesReplica.frame {session after : Session} {decision : Decision}
    {result : Except Fault Handle} (h : TakesReplica session decision result after) :
    after.main = session.main ∧ after.committed = session.committed := by
  cases h <;> exact ⟨rfl, rfl⟩

theorem takeMainForGood_takes (decision : Decision) (scene : Scene σ) :
    ∃ after, TakesMain { scene.session with committed := false } decision
        (takeMainForGood among decision scene).1 after ∧
      (takeMainForGood among decision scene).2.session =
        after.repinned decision (takeMainForGood among decision scene).1 := by
  have ht := takeMain_takes among decision
    { scene with session := { scene.session with committed := false } }
  unfold takeMainForGood
  rw [Act.update_bind]
  rcases hm : takeMain among decision _ with ⟨_ | _, taken⟩
  · rw [Fallible.bind_of_error hm]
    rw [hm] at ht
    exact ⟨_, ht, rfl⟩
  · rw [Fallible.bind_of_ok hm]
    rw [hm] at ht
    exact ⟨_, ht, rfl⟩

theorem divertToMain_diverts (decision : Decision) (scene : Scene σ) :
    Diverts scene.session decision (divertToMain among decision scene).1
      (divertToMain among decision scene).2.session := by
  unfold divertToMain
  split
  · rename_i hp
    obtain ⟨after, ht, hs⟩ := takeMainForGood_takes among decision scene
    rw [hs]
    exact .forGood ht hp
  · rename_i hp
    exact .untilCaughtUp (takeMain_takes among decision
      { scene with session := { scene.session with committed := true } }) (by simpa using hp)

theorem adoptReplica_session (decision : Decision) (opened : Option Handle) (scene : Scene σ) :
    (adoptReplica among decision opened scene).2.session =
      scene.session.adopting decision opened := by
  unfold adoptReplica adopting
  rw [Act.session_bind]
  cases hr : scene.session.replica with
  | ready held since =>
    -- a replica that was held before is not replaced
    cases opened <;> simp [Slot.isReady, Slot.install, ← hr]
  | absent =>
    cases opened with
    | none => rfl
    | some handle =>
      simp only [Slot.isReady, Bool.false_eq_true, ↓reduceIte, Act.update_bind, hr]
      exact bringInLine_session among _ handle

theorem replicaHandle_kind {database : Database σ} {world after : σ} {handle : Handle}
    (h : database.replicaHandle world = (.ok handle, after)) :
    ∃ connection, handle = .replica connection := by
  unfold Database.replicaHandle at h
  rw [Fallible.bind_apply] at h
  rcases ho : database.openReplica world with ⟨_ | connection, _⟩ <;> rw [ho] at h <;> cases h
  exact ⟨connection, rfl⟩

theorem takeReplica_takes (decision : Decision) (scene : Scene σ) :
    TakesReplica scene.session decision (takeReplica among decision scene).1
      (takeReplica among decision scene).2.session := by
  unfold takeReplica
  rw [Act.session_bind, Act.request_bind]
  cases hr : scene.session.replica with
  | ready held since =>
    have hs : ({ scene.session with replica := .ready held since } : Session) = scene.session := by
      rw [← hr]
    simp only [Slot.getOrOpen, Fallible.pure_apply, Act.update_bind, Bool.false_eq_true,
      ↓reduceIte, hs]
    exact .kept hr
  | absent =>
    simp only [Slot.getOrOpen, Fallible.bind_apply]
    rcases ho : among.database.replicaHandle scene.world with ⟨_ | handle, world⟩
    · exact .refused _ hr
    · obtain ⟨connection, rfl⟩ := replicaHandle_kind ho
      simp only [Fallible.pure_apply, Act.update_apply, ↓reduceIte, Act.session_bind,
        Act.affect_bind]
      obtain ⟨hs, hg⟩ := bringInLine_return among _ (.replica connection)
      rw [hs]
      exact .opened connection _ hr hg

end Session

end ReplicaRouting
