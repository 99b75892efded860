import ReplicaRouting.Proofs.Session.Handles
import ReplicaRouting.Session.Routing

/-!
The courses of a read and of a write. A read settles its decision without touching the session, and
what it does to the session then depends on the decision, the route and the session alone.
-/

namespace ReplicaRouting.Session

variable {σ : Type} (among : Collaborators σ)

def concluded (session : Session) (decision : Decision) : Except Fault Handle → Session
  | .ok _ => { session with lastDecision := some decision }
  | .error _ => session

/-- The courses of a read whose decision and route are settled. -/
inductive Follows (session : Session) (decision : Decision) :
    Route → Except Fault Handle → Session → Prop where
  | main {result : Except Fault Handle} {after : Session}
      (takes : TakesMain session decision result after) :
      Follows session decision .main result after
  | withoutReplica {result : Except Fault Handle} {after : Session}
      (diverts : Diverts session decision result after) :
      Follows session decision .withoutReplica result after
  | unadopted (opened : Option Handle) (fault : Fault) :
      Follows session decision (.byChain opened) (.error fault) (session.adopting decision opened)
  | diverted {opened : Option Handle} {result : Except Fault Handle} {after : Session}
      (onMain : decision.runsOnMain = true)
      (diverts : Diverts (session.adopting decision opened) decision result after) :
      Follows session decision (.byChain opened) result after
  | unclosed (opened : Option Handle) (fault : Fault) (warnings : Warnings)
      (onReplica : decision.runsOnMain = false) :
      Follows session decision (.byChain opened) (.error fault)
        { session.adopting decision opened with main := .absent, warnings }
  | returned {opened : Option Handle} {result : Except Fault Handle} {after : Session}
      (warnings : Warnings) (onReplica : decision.runsOnMain = false)
      (held : session.phase = .committedMain)
      (takes : TakesReplica
        { session.adopting decision opened with main := .absent, warnings, committed := false }
        decision result after) :
      Follows session decision (.byChain opened) result after
  | stayed {opened : Option Handle} {result : Except Fault Handle} {after : Session}
      (onReplica : decision.runsOnMain = false) (held : session.phase ≠ .committedMain)
      (takes : TakesReplica { session.adopting decision opened with committed := false }
        decision result after) :
      Follows session decision (.byChain opened) result after

theorem adopting_committedMain_iff (session : Session) (decision : Decision)
    (opened : Option Handle) :
    (session.adopting decision opened).phase = .committedMain ↔
      session.phase = .committedMain := by
  rw [phase_eq_committedMain_iff, phase_eq_committedMain_iff]
  cases opened <;> exact Iff.rfl

theorem followRoute_follows (decision : Decision) (route : Route) (scene : Scene σ) :
    Follows scene.session decision route (followRoute among decision route scene).1
      (followRoute among decision route scene).2.session := by
  cases route with
  | main => exact .main (takeMain_takes among decision scene)
  | withoutReplica => exact .withoutReplica (divertToMain_diverts among decision scene)
  | byChain opened =>
    have ha := adoptReplica_session among decision opened scene
    unfold followRoute
    dsimp only
    rcases hr : adoptReplica among decision opened scene with ⟨fault | _, adopted⟩
    · rw [Fallible.bind_of_error hr]
      rw [hr] at ha
      exact ha ▸ .unadopted opened fault
    rw [Fallible.bind_of_ok hr]
    rw [hr] at ha
    dsimp only at ha
    cases hm : decision.runsOnMain with
    | true =>
      simp only [↓reduceIte]
      exact .diverted hm (ha ▸ divertToMain_diverts among decision adopted)
    | false =>
      -- whether main was lent is asked after adoption, which cannot change it
      simp only [Bool.false_eq_true, ↓reduceIte, Act.session_bind]
      have hc := adopting_committedMain_iff scene.session decision opened
      rw [← ha] at hc
      by_cases hp : adopted.session.phase = .committedMain
      · -- main is closed on the way back to the replica
        obtain ⟨warnings, hw⟩ := closeSlot_session among adopted .main
        simp only [hp, ↓reduceIte]
        rcases hcl : closeSlot among .main adopted with ⟨fault | _, closed⟩ <;> rw [hcl] at hw
        all_goals
          have hs : closed.session =
              { scene.session.adopting decision opened with main := .absent, warnings } := by
            rw [← ha]
            exact hw
        · rw [Fallible.bind_of_error hcl]
          exact hs ▸ .unclosed opened fault warnings hm
        · rw [Fallible.bind_of_ok hcl, Act.update_bind]
          have ht := takeReplica_takes among decision
            { closed with session := { closed.session with committed := false } }
          rw [hs] at ht ⊢
          exact .returned warnings hm (hc.mp hp) ht
      · simp only [hp, ↓reduceIte]
        rw [Act.update_bind]
        have ht := takeReplica_takes among decision
          { adopted with session := { adopted.session with committed := false } }
        rw [ha] at ht ⊢
        exact .stayed hm (fun h => hp (hc.mpr h)) ht

section Choosing

variable (scene : Scene σ) (seed : Decision)

theorem chooseRoute_of_strict (h : scene.session.parameters.exceedsReadCommitted = true) :
    chooseRoute among seed scene = (.ok (seed.withReason .highIsolation, .main), scene) := by
  unfold chooseRoute
  simp only [Act.session_bind, h, ↓reduceIte, Fallible.pure_apply]

theorem chooseRoute_of_main (h : scene.session.parameters.exceedsReadCommitted = false)
    {handle : Handle} {cause : Decision} (held : scene.session.main = .ready handle cause)
    (hp : scene.session.phase = .main) :
    chooseRoute among seed scene =
      (.ok ((seed.withCause cause.rootCause).withReason .mainReuse, .main), scene) := by
  unfold chooseRoute
  simp only [Act.session_bind, h, Bool.false_eq_true, ↓reduceIte, hp, held, Slot.decision?,
    Fallible.pure_apply]

theorem chooseRoute_of_available (h : scene.session.parameters.exceedsReadCommitted = false)
    (hp : scene.session.phase ≠ .main)
    (ha : (among.database.replicaAvailable scene.world).1 = true) {settled : Decision}
    {opened : Option Handle} {after : σ}
    (hd : decideWithReplica among seed scene.session.replica.handle?
      (among.database.replicaAvailable scene.world).2 = ((settled, opened), after)) :
    chooseRoute among seed scene = (.ok (settled, .byChain opened), { scene with world := after }) := by
  unfold chooseRoute
  simp only [Act.session_bind, h, Bool.false_eq_true, ↓reduceIte, hp, Act.consult_bind, ha, hd,
    Fallible.pure_apply]

theorem chooseRoute_of_unavailable (h : scene.session.parameters.exceedsReadCommitted = false)
    (hp : scene.session.phase ≠ .main)
    (ha : (among.database.replicaAvailable scene.world).1 = false) {settled : Decision} {after : σ}
    (hd : decideWithoutReplica among seed (among.database.replicaAvailable scene.world).2 =
      (settled, after)) :
    chooseRoute among seed scene = (.ok (settled, .withoutReplica), { scene with world := after }) := by
  unfold chooseRoute
  simp only [Act.session_bind, h, Bool.false_eq_true, ↓reduceIte, hp, Act.consult_bind, ha, hd,
    Fallible.pure_apply]

/-- Settling a decision never fails and leaves the session alone. -/
theorem chooseRoute_settles : ∃ settled route world,
    chooseRoute among seed scene = (.ok (settled, route), { scene with world }) := by
  cases hs : scene.session.parameters.exceedsReadCommitted with
  | true => exact ⟨_, _, _, chooseRoute_of_strict among scene seed hs⟩
  | false =>
    by_cases hp : scene.session.phase = .main
    · obtain ⟨handle, since, hm⟩ := main_ready_of_phase hp
      exact ⟨_, _, _, chooseRoute_of_main among scene seed hs hm hp⟩
    · cases ha : (among.database.replicaAvailable scene.world).1 with
      | true => exact ⟨_, _, _, chooseRoute_of_available among scene seed hs hp ha rfl⟩
      | false => exact ⟨_, _, _, chooseRoute_of_unavailable among scene seed hs hp ha rfl⟩

/-- A lenient read of a session that does not stay on main takes no shortcut. -/
theorem chooseRoute_ne_main {scene chosen : Scene σ} {seed settled : Decision} {route : Route}
    (hx : scene.session.parameters.exceedsReadCommitted = false) (hp : scene.session.phase ≠ .main)
    (hc : chooseRoute among seed scene = (.ok (settled, route), chosen)) : route ≠ .main := by
  rintro rfl
  cases ha : (among.database.replicaAvailable scene.world).1 with
  | true =>
    rw [chooseRoute_of_available among scene seed hx hp ha rfl] at hc
    cases hc
  | false =>
    rw [chooseRoute_of_unavailable among scene seed hx hp ha rfl] at hc
    cases hc

end Choosing

section Concluding

theorem announce_apply (before : Phase) (scene : Scene σ) :
    ∃ world, announce among before scene = (.ok (), { scene with world }) := by
  unfold announce
  simp only [Act.session_bind]
  split <;> exact ⟨_, rfl⟩

theorem conclude_announce (decision : Decision) (before : Phase) (result : Except Fault Handle)
    (scene : Scene σ) :
    ∃ world, (do
      conclude among decision result
      announce among before
      Act.ofOutcome result : Act σ Handle) scene =
        (result, { session := scene.session.concluded decision result, world }) := by
  have hc : ∃ world, conclude among decision result scene =
      (.ok (), { session := scene.session.concluded decision result, world }) := by
    unfold conclude
    cases result <;> exact ⟨_, rfl⟩
  obtain ⟨noted, hn⟩ := hc
  obtain ⟨world, hw⟩ := announce_apply among before
    { session := scene.session.concluded decision result, world := noted }
  refine ⟨world, ?_⟩
  rw [Fallible.bind_of_ok hn, Fallible.bind_of_ok hw, Act.ofOutcome_apply]

end Concluding

section Reading

variable {scene : Scene σ} {seed : Decision}

theorem ensureOpen_of_open (h : scene.session.closed = false) :
    ensureOpen scene = (.ok (), scene) := by
  unfold ensureOpen
  simp only [Act.session_bind, h, Bool.false_eq_true, ↓reduceIte, Fallible.pure_apply]

theorem ensureOpen_of_closed (h : scene.session.closed = true) :
    ensureOpen scene = (.error (.sessionClosed scene.session.id), scene) := by
  unfold ensureOpen
  simp only [Act.session_bind, h, ↓reduceIte, Fallible.throw_apply]

theorem readHandle_of_open (h : scene.session.closed = false) {settled : Decision} {route : Route}
    {chosen : Scene σ} (hc : chooseRoute among seed scene = (.ok (settled, route), chosen)) :
    readHandle among seed scene =
      (do
        let result ← Act.outcomeOf (followRoute among settled route)
        conclude among settled result
        announce among scene.session.phase
        Act.ofOutcome result : Act σ Handle) chosen := by
  unfold readHandle
  rw [Fallible.bind_of_ok (ensureOpen_of_open h), Act.session_bind, Fallible.bind_of_ok hc]

/-- A read of an open session follows the decision that was settled. -/
theorem readHandle_follows (h : scene.session.closed = false) {settled : Decision} {route : Route}
    {world : σ} (hc : chooseRoute among seed scene = (.ok (settled, route), { scene with world })) :
    ∃ after, Follows scene.session settled route (readHandle among seed scene).1 after ∧
      (readHandle among seed scene).2.session =
        after.concluded settled (readHandle among seed scene).1 := by
  have hf := followRoute_follows among settled route { scene with world }
  rw [readHandle_of_open among h hc, Act.outcomeOf_bind]
  obtain ⟨world', hw⟩ := conclude_announce among settled scene.session.phase
    (followRoute among settled route { scene with world }).1
    (followRoute among settled route { scene with world }).2
  rw [hw]
  exact ⟨_, hf, rfl⟩

variable (seed)

theorem writeHandle_takes (h : scene.session.closed = false) :
    ∃ after, TakesMain { scene.session with committed := false } seed
        (writeHandle among seed scene).1 after ∧
      (writeHandle among seed scene).2.session =
        (after.repinned seed (writeHandle among seed scene).1).concluded seed
          (writeHandle among seed scene).1 := by
  obtain ⟨after, ht, hs⟩ := takeMainForGood_takes among seed scene
  unfold writeHandle
  rw [Fallible.bind_of_ok (ensureOpen_of_open h), Act.session_bind, Act.outcomeOf_bind]
  obtain ⟨world, hw⟩ := conclude_announce among seed scene.session.phase
    (takeMainForGood among seed scene).1 (takeMainForGood among seed scene).2
  rw [hw]
  exact ⟨after, ht, by rw [← hs]⟩

theorem readHandle_of_closed (h : scene.session.closed = true) :
    readHandle among seed scene = (.error (.sessionClosed scene.session.id), scene) := by
  unfold readHandle
  rw [Fallible.bind_of_error (ensureOpen_of_closed h)]

theorem writeHandle_of_closed (h : scene.session.closed = true) :
    writeHandle among seed scene = (.error (.sessionClosed scene.session.id), scene) := by
  unfold writeHandle
  rw [Fallible.bind_of_error (ensureOpen_of_closed h)]

variable {seed} {session : Session} {world : σ} {handle : Handle}

theorem open_of_readHandle (h : (readHandle among seed ⟨session, world⟩).1 = .ok handle) :
    session.closed = false := by
  let scene : Scene σ := ⟨session, world⟩
  rw [← Bool.not_eq_true]
  intro hc
  have hscene : scene.session.closed = true := hc
  rw [readHandle_of_closed among seed hscene] at h
  cases h

theorem open_of_writeHandle (h : (writeHandle among seed ⟨session, world⟩).1 = .ok handle) :
    session.closed = false := by
  let scene : Scene σ := ⟨session, world⟩
  rw [← Bool.not_eq_true]
  intro hc
  have hscene : scene.session.closed = true := hc
  rw [writeHandle_of_closed among seed hscene] at h
  cases h

end Reading

end ReplicaRouting.Session
