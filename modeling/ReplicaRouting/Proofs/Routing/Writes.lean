import ReplicaRouting.Proofs.Routing.Settling
import ReplicaRouting.Proofs.Session.MainPin

/-!
Writes that come as reads. Such a write is meant to keep the session on main for good. It does not
where the read is sent to main on a way that looks neither at the statement nor at the flag that
main is held for the time being only.
-/

namespace ReplicaRouting.Session

section OnMain

variable {σ : Type} {session later : Session} {decision : Decision} {handle : Handle}

theorem TakesMain.onMain (ht : TakesMain session decision (.ok handle) later)
    (ho : session.closed = false) : OnMain handle session.committed later := by
  cases ht with
  | kept result warnings held given =>
    have hg := given handle rfl
    exact ⟨ho, rfl, by rw [hg, held]; rfl, rfl⟩
  | opened connection result warnings held given =>
    have hg := given handle rfl
    exact ⟨ho, rfl, by rw [hg]; rfl, rfl⟩

/-- On the way that is taken for a reason, the reason says whether the session stays. -/
theorem Diverts.onMain (hd : Diverts session decision (.ok handle) later)
    (ho : session.closed = false) : OnMain handle (!decision.pinsMain) later := by
  generalize hr : Except.ok handle = result at hd
  cases hd with
  | forGood takes pins =>
    subst hr
    rw [pins]
    exact PinnedTo.repinned (takes.onMain ho) decision (.ok handle)
  | untilCaughtUp takes pins =>
    subst hr
    rw [pins]
    exact takes.onMain ho

/-- Where a decision for main leaves the session. -/
theorem Follows.onMain {route : Route} (hf : Follows session decision route (.ok handle) later)
    (ho : session.closed = false) (hm : decision.runsOnMain = true) :
    OnMain handle (if route = .main then session.committed else !decision.pinsMain) later := by
  cases hf with
  | main takes => exact takes.onMain ho
  | withoutReplica diverts => exact diverts.onMain ho
  | @diverted opened _ _ onMain diverts =>
    exact diverts.onMain ((adopting_main session decision opened).2.2.trans ho)
  | returned _ onReplica => rw [hm] at onReplica; cases onReplica
  | stayed onReplica => rw [hm] at onReplica; cases onReplica

theorem OnMain.phase {committed : Bool} (h : OnMain handle committed session) :
    session.phase = if committed then .committedMain else .main := by
  obtain ⟨since, hm⟩ := (Slot.handle_some_iff _ _).mp h.main
  unfold Session.phase
  rw [h.closed, h.committed, hm]
  rfl

variable (among : Collaborators σ) {committed : Bool}

/-- A write that commits by itself is told to the tracker if the session stays on main. -/
theorem OnMain.recordWrite_eq (h : OnMain handle committed session) (world : σ) :
    recordWrite among ⟨session, world⟩ =
      if !committed && session.parameters.autoCommits then
        Act.affect (among.tracker.write handle) ⟨session, world⟩
      else (.ok (), ⟨session, world⟩) := by
  unfold recordWrite
  rw [Act.session_bind]
  simp only [h.phase, h.main]
  cases committed <;> cases session.parameters.autoCommits <;> rfl

/-- A commit is told to the tracker if the session stays on main: before it, and after it where it
is what makes writes durable. -/
theorem OnMain.commit_eq (h : OnMain handle committed session) (world : σ) :
    commit among ⟨session, world⟩ =
      (if committed then Act.request (among.database.call handle.connection .commit)
        else do
          Act.affect (among.tracker.preCommit handle)
          Act.request (among.database.call handle.connection .commit)
          if !session.parameters.autoCommits then Act.affect (among.tracker.write handle)
          else return () : Act σ Unit) ⟨session, world⟩ := by
  have hc : session.currentHandle = some handle := by
    unfold currentHandle
    rw [h.phase, h.main]
    cases committed <;> rfl
  unfold commit
  rw [Fallible.bind_of_ok (ensureOpen_of_open h.closed), Act.session_bind]
  simp only [hc, h.phase]
  cases committed with
  | false => rfl
  | true =>
    simp only [↓reduceIte, decide_eq_true_eq]
    rw [if_neg (by decide), Act.request_bind, Act.request_apply]
    rcases among.database.call handle.connection .commit world with ⟨_ | _, _⟩ <;> rfl

end OnMain

section Writes

variable {σ : Type} {deployment : Deployment σ} {session : Session} {seed : Decision}

/-- The read is a write by its reason or by its statement. -/
def comesAsWrite (deployment : Deployment σ) (seed : Decision) : Prop :=
  seed.pinsMain = true ∨ deployment.classifier.isWrite seed.sql = true ∨
    deployment.classifier.isLock seed.sql = true

/-- The session stays on main after a write that comes as a read. Under strict isolation the
statement is not looked at, and main is kept for as long as it was to be kept before. -/
def pinsWrite (session : Session) (seed : Decision) : Prop :=
  if session.parameters.exceedsReadCommitted then session.committed = false
  else session.phase = .main ∨ seed.pinsMain = true ∨ seed.runsOnMain = false

theorem runsOnMain_of_pinsMain (h : seed.pinsMain = true) : seed.runsOnMain = true := by
  unfold Decision.pinsMain Decision.runsOnMain at *
  cases hr : seed.reason <;> simp_all [Reason.pinsMain, Reason.runsOnMain]

theorem comesAsWrite.early (h : comesAsWrite deployment seed) (world : σ) :
    ∃ reason, deployment.earlyReason seed world = some reason ∧
      (reason.pinsMain = true ↔ seed.pinsMain = true ∨ seed.runsOnMain = false) := by
  unfold Deployment.earlyReason
  by_cases hm : seed.runsOnMain = true
  · exact ⟨seed.reason, by simp [hm], by simp [hm, Decision.pinsMain]⟩
  have hp : seed.pinsMain = false := by
    rw [← Bool.not_eq_true]
    exact fun hp => hm (runsOnMain_of_pinsMain hp)
  have hread : seed.runsOnMain = false := Bool.not_eq_true _ ▸ hm
  have hsql : deployment.classifier.isWrite seed.sql = true ∨
      deployment.classifier.isLock seed.sql = true := by
    rcases h with h | h
    · rw [hp] at h
      cases h
    · exact h
  -- every reason that is left pins
  by_cases hb : (deployment.breaker.get world).isOpen = true
  · exact ⟨.circuitOpen, by simp [hread, hb], by simp [hread, Reason.pinsMain]⟩
  by_cases hw : deployment.classifier.isWrite seed.sql = true
  · exact ⟨.writeOperation, by simp [hread, hb, hw], by simp [hread, Reason.pinsMain]⟩
  · have hl := hsql.resolve_left hw
    exact ⟨.lock, by simp [hread, hb, hw, hl], by simp [hread, Reason.pinsMain]⟩

/-- A write that comes as a read goes to main, to stay there under `pinsWrite`. -/
theorem Settles.written {settled : Decision} {route : Route} {world after : σ}
    (h : Settles deployment session seed world settled route after)
    (hw : comesAsWrite deployment seed) :
    settled.runsOnMain = true ∧
      ((if route = .main then session.committed else !settled.pinsMain) = false ↔
        pinsWrite session seed) := by
  obtain ⟨reason, hreason, hpins⟩ := hw.early (deployment.asked world)
  cases h with
  | strict strict => exact ⟨rfl, by simp [pinsWrite, strict]⟩
  | reused lenient pinned held =>
    have hc := ((phase_eq_main_iff session).mp pinned).2.2
    exact ⟨rfl, by simp [pinsWrite, lenient, pinned, hc]⟩
  | forced lenient unpinned available early =>
    cases hreason.symm.trans early
    refine ⟨Deployment.runsOnMain_of_earlyReason early, ?_⟩
    simpa [pinsWrite, lenient, unpinned] using hpins
  | forcedWithoutReplica lenient unpinned unavailable early =>
    cases hreason.symm.trans early
    refine ⟨Deployment.runsOnMain_of_earlyReason early, ?_⟩
    simpa [pinsWrite, lenient, unpinned] using hpins
  | unavailable _ _ _ undecided | inconsistent _ _ _ undecided | consistent _ _ _ undecided =>
    cases hreason.symm.trans undecided

variable (among : Collaborators σ)

/-- Writes and commits of the session are told to the tracker. -/
structure Reports (handle : Handle) (session : Session) : Prop where
  recordWrite : ∀ world, session.parameters.autoCommits = true →
    (recordWrite among ⟨session, world⟩).2.world = among.tracker.write handle world
  commit : ∀ world,
    let told := among.tracker.preCommit handle world
    let called := among.database.call handle.connection .commit told
    (commit among ⟨session, world⟩).2.world =
      if called.1.isOk && !session.parameters.autoCommits then among.tracker.write handle called.2
      else called.2

/-- Writes and commits of the session are kept from the tracker. -/
structure Withholds (handle : Handle) (session : Session) : Prop where
  recordWrite : ∀ world, (recordWrite among ⟨session, world⟩).2.world = world
  commit : ∀ world,
    (commit among ⟨session, world⟩).2.world =
      (among.database.call handle.connection .commit world).2

variable {among} {handle : Handle}

theorem PinnedTo.reports (h : PinnedTo handle session) : Reports among handle session where
  recordWrite world hc := by
    rw [h.recordWrite_eq among world, hc]
    rfl
  commit world := by
    rw [h.commit_eq among world]
    simp only [Bool.false_eq_true, ↓reduceIte, Act.affect_bind, Act.request_bind]
    rcases among.database.call handle.connection .commit _ with ⟨_ | _, _⟩
    · rfl
    · cases session.parameters.autoCommits <;> rfl

theorem OnMain.withholds (h : OnMain handle true session) : Withholds among handle session where
  recordWrite world := by
    rw [h.recordWrite_eq among world]
    rfl
  commit world := by
    rw [h.commit_eq among world]
    rfl

/-- A write that comes as a read makes the session stay on main, tell the tracker of what it writes
and read from main only, if `pinsWrite` holds. If not, main is held for the time being and the
tracker is told of nothing. -/
theorem written_read_pins_iff (hr : Reachable deployment.collaborators session)
    (ho : session.closed = false) (hw : comesAsWrite deployment seed) {world : σ}
    (hk : (readHandle deployment.collaborators seed ⟨session, world⟩).1 = .ok handle) :
    let among := deployment.collaborators
    let later := (readHandle among seed ⟨session, world⟩).2.session
    handle.kind = .main ∧
      (pinsWrite session seed →
        later.phase = .main ∧ Reports among handle later ∧
          ∀ turns : List (Turn σ), (∀ turn ∈ turns, turn.operation.isEnd = false) →
            ∀ seed' world',
              (readHandle among seed' ⟨later.run among turns, world'⟩).1 = .ok handle) ∧
      (¬ pinsWrite session seed → later.phase = .committedMain ∧ Withholds among handle later) := by
  intro among later
  obtain ⟨settled, route, after, h⟩ := settles deployment session seed world
  obtain ⟨hm, hpins⟩ := h.written hw
  obtain ⟨followed, hf, hs⟩ := h.read ho hk
  have hlater : OnMain handle (if route = .main then session.committed else !settled.pinsMain)
      later := by
    have hon := hf.onMain ho hm
    change OnMain _ _ (readHandle among seed ⟨session, world⟩).2.session
    rw [hs]
    exact ⟨hon.closed, hon.committed, hon.main, hon.replica⟩
  refine ⟨hf.kind_main hr.sound hm, fun hp => ?_, fun hp => ?_⟩
  · rw [hpins.mpr hp] at hlater
    refine ⟨PinnedTo.phase hlater, PinnedTo.reports hlater, fun turns ht seed' world' => ?_⟩
    let scene : Scene σ := ⟨later.run among turns, world'⟩
    have hscene : PinnedTo handle scene.session := run_pinned among hlater turns ht
    exact (readHandle_of_pinned among seed' hscene).1
  · have hc := (not_congr hpins).mpr hp
    rw [Bool.not_eq_false] at hc
    rw [hc] at hlater
    exact ⟨hlater.phase, hlater.withholds⟩

/-- After a lagging read under strict isolation an update is not pinned, and once the isolation is
lowered again the next read is served by a replica. -/
theorem update_escapes_pin :
    let among := Deployment.obliging.collaborators
    let lagging := run among
      [⟨.readHandle (.read "SELECT 1"), false⟩, ⟨.setIsolation .serializable, false⟩] { id := "a" }
    let update := readHandle among (.read "UPDATE t SET x = 1") ⟨lagging, false⟩
    let lowered := update.2.session.after among ⟨.setIsolation .readCommitted, false⟩
    update.1 = .ok (.main ⟨0⟩) ∧ update.2.session.phase = .committedMain ∧
      (readHandle among (.read "SELECT 1") ⟨lowered, true⟩).1 = .ok (.replica ⟨1⟩) := by
  intro among lagging update lowered
  have hr : Reachable among lagging := (Reachable.fresh "a").run among _
  have hk : update.1 = .ok (.main ⟨0⟩) := by decide +kernel
  have hw : comesAsWrite Deployment.obliging (.read "UPDATE t SET x = 1") :=
    .inr (.inl (by decide +kernel))
  have hp : ¬ pinsWrite lagging (.read "UPDATE t SET x = 1") := by
    have hx : lagging.parameters.exceedsReadCommitted = true := by decide +kernel
    have hc : lagging.committed = true := by decide +kernel
    simp [pinsWrite, hx, hc]
  obtain ⟨-, -, hescapes⟩ := written_read_pins_iff hr (by decide +kernel) hw hk
  exact ⟨hk, (hescapes hp).1, by decide +kernel⟩

end Writes

end ReplicaRouting.Session
