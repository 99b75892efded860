import ReplicaRouting.Proofs.Chronicle
import ReplicaRouting.Proofs.Obliging
import ReplicaRouting.Proofs.Routing.Settling

/-!
Where the standard chain sends reads. A read is served by a replica exactly if nothing speaks for
main and the tracker has found that very replica consistent during the read.
-/

namespace ReplicaRouting.Session

section Conditions

variable {σ : Type} (deployment : Deployment σ) (session : Session) (seed : Decision) (world : σ)

/-- Nothing but the verdict of the tracker can send the read to main. -/
structure Admits : Prop where
  lenient : session.parameters.exceedsReadCommitted = false
  unpinned : session.phase ≠ .main
  available : (deployment.database.replicaAvailable world).1 = true
  onReplica : seed.runsOnMain = false
  breaker : (deployment.breaker.get (deployment.asked world)).isOpen = false
  notWrite : deployment.classifier.isWrite seed.sql = false
  notLock : deployment.classifier.isLock seed.sql = false

/-- Why a read runs on main if it does: the first reason that applies. -/
def mainReason : Reason :=
  if session.parameters.exceedsReadCommitted then .highIsolation
  else if session.phase = .main then .mainReuse
  else if seed.runsOnMain then seed.reason
  else if (deployment.breaker.get (deployment.asked world)).isOpen then .circuitOpen
  else if deployment.classifier.isWrite seed.sql then .writeOperation
  else if deployment.classifier.isLock seed.sql then .lock
  else if (deployment.database.replicaAvailable world).1 then .replicaInconsistent
  else .replicaUnavailable

/-- What happens to the database and the tracker in the course of a read. -/
def readEvents : List Event :=
  (readHandle deployment.watched.collaborators seed ⟨session, ⟨world, []⟩⟩).2.world.events

variable {deployment session seed world}

theorem undecided_iff :
    deployment.earlyReason seed (deployment.asked world) = none ↔
      seed.runsOnMain = false ∧ (deployment.breaker.get (deployment.asked world)).isOpen = false ∧
        deployment.classifier.isWrite seed.sql = false ∧
        deployment.classifier.isLock seed.sql = false := by
  unfold Deployment.earlyReason
  split_ifs <;> simp_all

theorem Admits.of_undecided (lenient : session.parameters.exceedsReadCommitted = false)
    (unpinned : session.phase ≠ .main)
    (available : (deployment.database.replicaAvailable world).1 = true)
    (undecided : deployment.earlyReason seed (deployment.asked world) = none) :
    Admits deployment session seed world := by
  obtain ⟨hr, hb, hw, hl⟩ := undecided_iff.mp undecided
  exact ⟨lenient, unpinned, available, hr, hb, hw, hl⟩

theorem mainReason_of_consulted (hx : session.parameters.exceedsReadCommitted = false)
    (hp : session.phase ≠ .main) :
    mainReason deployment session seed world =
      (deployment.earlyReason seed (deployment.asked world)).getD
        (if (deployment.database.replicaAvailable world).1 then .replicaInconsistent
          else .replicaUnavailable) := by
  unfold mainReason Deployment.earlyReason
  simp only [hx, hp, Bool.false_eq_true, ↓reduceIte]
  split_ifs <;> rfl

variable {settled : Decision} {route : Route} {after : σ}

/-- A decision for main has been settled for the first reason that applies. -/
theorem Settles.reason_eq (h : Settles deployment session seed world settled route after)
    (hm : settled.runsOnMain = true) :
    settled.reason = mainReason deployment session seed world := by
  cases h with
  | strict strict => simp only [mainReason, strict, ↓reduceIte, Decision.withReason]
  | reused lenient pinned held =>
    simp only [mainReason, lenient, pinned, Bool.false_eq_true, ↓reduceIte, Decision.withReason]
  | forced lenient unpinned available early =>
    rw [mainReason_of_consulted lenient unpinned, early]
    rfl
  | forcedWithoutReplica lenient unpinned unavailable early =>
    rw [mainReason_of_consulted lenient unpinned, early]
    rfl
  | unavailable lenient unpinned unavailable undecided =>
    rw [mainReason_of_consulted lenient unpinned, undecided, unavailable]
    rfl
  | inconsistent lenient unpinned available undecided verdict =>
    rw [mainReason_of_consulted lenient unpinned, undecided, available]
    rfl
  | consistent lenient unpinned available undecided verdict =>
    rw [Deployment.runsOnMain_of_undecided undecided] at hm
    cases hm

/-- A decision for a replica is settled only where nothing else spoke for main. -/
theorem Settles.admits (h : Settles deployment session seed world settled route after)
    (hm : settled.runsOnMain = false) : Admits deployment session seed world := by
  cases h with
  | forced _ _ _ early | forcedWithoutReplica _ _ _ early =>
    cases (Deployment.runsOnMain_of_earlyReason early).symm.trans hm
  | consistent lenient unpinned available undecided verdict =>
    exact .of_undecided lenient unpinned available undecided
  | _ => cases hm

variable (deployment session seed world settled route) in
/-- The account bears out what was settled: the tracker was asked if nothing else spoke for main,
its verdict settled the decision, and a handle it got is the one passed on. -/
structure BornOut (events : List Event) : Prop where
  verdict : .judged true ∈ events ↔ settled.runsOnMain = false
  asked : Admits deployment session seed world → .judged (!settled.runsOnMain) ∈ events
  supplied : ∀ given, .supplied (.ok given) ∈ events → route = .byChain (some given)

/-- A watched session settles the same decision, and its account bears that out. -/
theorem Settles.watched (h : Settles deployment session seed world settled route after) :
    ∃ later : List Event,
      Settles deployment.watched session seed ⟨world, []⟩ settled route ⟨after, later⟩ ∧
        BornOut deployment session seed world settled route later := by
  have hd (ha : Admits deployment session seed world) :
      deployment.earlyReason seed (deployment.asked world) = none :=
    undecided_iff.mpr ⟨ha.onReplica, ha.breaker, ha.notWrite, ha.notLock⟩
  -- where the tracker is not asked the account stays empty
  have silent {settled : Decision} {route : Route} {after : σ}
      (hw : Settles deployment.watched session seed ⟨world, []⟩ settled route ⟨after, []⟩)
      (hm : settled.runsOnMain = true) (ha : ¬ Admits deployment session seed world) :
      ∃ later : List Event,
        Settles deployment.watched session seed ⟨world, []⟩ settled route ⟨after, later⟩ ∧
          BornOut deployment session seed world settled route later :=
    ⟨[], hw, by simp [hm], fun h => absurd h ha, by simp⟩
  cases h with
  | strict strict =>
    exact silent (.strict strict) rfl fun ha => by simp [ha.lenient] at strict
  | reused lenient pinned held =>
    exact silent (.reused lenient pinned held) rfl fun ha => ha.unpinned pinned
  | forced lenient unpinned available early =>
    exact silent (.forced lenient unpinned available early)
      (Deployment.runsOnMain_of_earlyReason early) fun ha => by simp [hd ha] at early
  | forcedWithoutReplica lenient unpinned unavailable early =>
    exact silent (.forcedWithoutReplica lenient unpinned unavailable early)
      (Deployment.runsOnMain_of_earlyReason early) fun ha => by simp [hd ha] at early
  | unavailable lenient unpinned unavailable undecided =>
    exact silent (.unavailable lenient unpinned unavailable undecided) rfl
      fun ha => by simp [ha.available] at unavailable
  | @inconsistent opened decided lenient unpinned available undecided verdict =>
    obtain ⟨later, hw, hj, hs⟩ := deployment.tracker.watched_run deployment.database verdict
    have hset : Settles deployment.watched session seed ⟨world, []⟩
        (seed.withReason .replicaInconsistent) (.byChain opened)
        (deployment.watched.log (.replicaInconsistent seed.sql) ⟨decided, later⟩) :=
      .inconsistent lenient unpinned available undecided hw
    refine ⟨later, hset, ?_, fun _ => ?_, fun given hg => congrArg _ (hs given hg)⟩
    · rw [hj]
      simp [Reason.runsOnMain]
    · exact (hj _).mpr rfl
  | consistent lenient unpinned available undecided verdict =>
    obtain ⟨later, hw, hj, hs⟩ := deployment.tracker.watched_run deployment.database verdict
    have hm := Deployment.runsOnMain_of_undecided undecided
    refine ⟨later, .consistent lenient unpinned available undecided hw, ?_, fun _ => ?_,
      fun given hg => congrArg _ (hs given hg)⟩
    · rw [hj]
      simp [hm]
    · rw [hj, hm]
      rfl

theorem Settles.meets (h : Settles deployment session seed world settled route after)
    (ho : session.closed = false) {later : List Event}
    (hw : Settles deployment.watched session seed ⟨world, []⟩ settled route ⟨after, later⟩) :
    Fallible.Meets (watching (later.filter (·.ofTracker))).onScenes ⟨session, ⟨after, later⟩⟩
      (readHandle deployment.collaborators seed ⟨session, world⟩)
      (readHandle deployment.watched.collaborators seed ⟨session, ⟨world, []⟩⟩) := by
  let plain : Scene σ := ⟨session, world⟩
  have hopen : plain.session.closed = false := ho
  exact readHandle_meets deployment.watched_surround hopen rfl h.chooseRoute_eq hw.chooseRoute_eq
    ⟨rfl, rfl, rfl⟩

/-- The account of the whole read bears out what was settled, and has an entry for every failure. -/
theorem Settles.readEvents (h : Settles deployment session seed world settled route after)
    (ho : session.closed = false) :
    let events := Session.readEvents deployment session seed world
    BornOut deployment session seed world settled route events ∧
      ∀ fault, (readHandle deployment.collaborators seed ⟨session, world⟩).1 = .error fault →
        ∃ event ∈ events, event.isFailure = true := by
  obtain ⟨later, hw, hborne⟩ := h.watched
  obtain ⟨hr, ⟨-, -, haccount⟩, -, hf⟩ := h.meets ho hw
  intro events
  -- after the decision has been settled the tracker has no part in the read
  have hmem (event : Event) (ht : event.ofTracker = true) : event ∈ events ↔ event ∈ later := by
    have he : event ∈ events.filter (·.ofTracker) ↔ event ∈ later.filter (·.ofTracker) :=
      Iff.of_eq (congrArg (event ∈ ·) haccount)
    simpa [ht] using he
  refine ⟨⟨(hmem _ rfl).trans hborne.verdict, fun ha => (hmem _ rfl).mpr (hborne.asked ha),
    fun given hg => hborne.supplied given ((hmem _ rfl).mp hg)⟩, fun fault he => ?_⟩
  exact hf fault (hr.symm.trans he)

/-- A decision for a replica leads to a replica, the very one that the tracker was given. -/
theorem Settles.handle_of_replica (h : Settles deployment session seed world settled route after)
    (hs : Sound session) (ho : session.closed = false) {events : List Event}
    (hborne : BornOut deployment session seed world settled route events) {handle : Handle}
    (hok : (readHandle deployment.collaborators seed ⟨session, world⟩).1 = .ok handle)
    (hm : settled.runsOnMain = false) :
    handle.kind = .replica ∧
      ∀ given, .supplied (.ok given) ∈ events → given.connection = handle.connection := by
  obtain ⟨opened, rfl, -⟩ := h.verdict hm
  obtain ⟨later, hfollow, -⟩ := h.read ho hok
  obtain ⟨hk, hshown⟩ := hfollow.kind_replica (fun _ => h.opened_of_held)
    (h.askable hs ho).opened_kind hm
  refine ⟨hk, fun given hg => ?_⟩
  rw [hshown given (Route.byChain.inj (hborne.supplied given hg))]

/-- A read for which anything but the tracker speaks for main leads to main. -/
theorem readHandle_kind_of_not_admits (hs : Sound session) {handle : Handle}
    (ha : ¬ Admits deployment session seed world)
    (hok : (readHandle deployment.collaborators seed ⟨session, world⟩).1 = .ok handle) :
    handle.kind = .main := by
  have ho := open_of_readHandle _ hok
  obtain ⟨settled, route, after, h⟩ := settles deployment session seed world
  obtain ⟨later, hfollow, -⟩ := h.read ho hok
  have hm : settled.runsOnMain = true := by
    rw [← Bool.not_eq_false]
    exact fun hm => ha (h.admits hm)
  exact hfollow.kind_main hs hm

end Conditions

section Routing

variable {σ : Type} {deployment : Deployment σ} {session : Session}

/-- Reads go to a replica exactly if nothing speaks for main and the tracker finds the replica
consistent; else they go to main for the first reason that applies. -/
theorem read_routing (hr : Reachable deployment.collaborators session)
    (ho : session.closed = false) (seed : Decision) (world : σ) :
    let read := readHandle deployment.collaborators seed ⟨session, world⟩
    let events := readEvents deployment session seed world
    (∀ handle, read.1 = .ok handle → handle.kind = .replica →
      Admits deployment session seed world ∧ .judged true ∈ events ∧
        ∀ given, .supplied (.ok given) ∈ events → given.connection = handle.connection) ∧
    (Admits deployment session seed world → .judged true ∈ events →
      (∀ event ∈ events, event.isFailure = false) →
      ∃ connection, read.1 = .ok (.replica connection)) ∧
    (∀ handle, read.1 = .ok handle → handle.kind ≠ .replica →
      handle.kind = .main ∧
        (Admits deployment session seed world → .judged false ∈ events) ∧
        ∃ decision, read.2.session.lastDecision = some decision ∧
          decision.reason = mainReason deployment session seed world) := by
  intro read events
  obtain ⟨settled, route, after, h⟩ := settles deployment session seed world
  obtain ⟨hborne, hf⟩ := h.readEvents ho
  have hsound := hr.sound
  have hkind (handle : Handle) (hok : read.1 = .ok handle) (hm : settled.runsOnMain = false) :=
    h.handle_of_replica hsound ho hborne hok hm
  refine ⟨fun handle hok hk => ?_, fun hadm hverdict hclean => ?_, fun handle hok hk => ?_⟩
  · cases hm : settled.runsOnMain with
    | true =>
      obtain ⟨later, hfollow, -⟩ := h.read ho hok
      rw [hfollow.kind_main hsound hm] at hk
      cases hk
    | false => exact ⟨h.admits hm, hborne.verdict.mpr hm, (hkind handle hok hm).2⟩
  · have hm := hborne.verdict.mp hverdict
    cases hread : read.1 with
    | error fault =>
      obtain ⟨event, he, hfailed⟩ := hf fault hread
      rw [hclean event he] at hfailed
      cases hfailed
    | ok handle =>
      obtain ⟨kind, connection⟩ := handle
      cases (hkind _ hread hm).1
      exact ⟨connection, rfl⟩
  · have hm : settled.runsOnMain = true := by
      rw [← Bool.not_eq_false]
      exact fun hm => hk (hkind handle hok hm).1
    obtain ⟨later, hfollow, hlast⟩ := h.read ho hok
    refine ⟨hfollow.kind_main hsound hm, fun hadm => ?_, settled, ?_, h.reason_eq hm⟩
    · have hverdict := hborne.asked hadm
      rw [hm] at hverdict
      exact hverdict
    · exact congrArg Session.lastDecision hlast

/-- A consistent replica serves a plain read of a fresh session. -/
theorem replica_serves_plain_read :
    let deployment := Deployment.obliging
    let session : Session := { id := "a" }
    readEvents deployment session (.read "SELECT 1") true =
        [.opened .replica (.ok ⟨1⟩), .supplied (.ok (.replica ⟨1⟩)), .judged true] ∧
      ∃ connection, (readHandle deployment.collaborators (.read "SELECT 1") ⟨session, true⟩).1 =
        .ok (.replica connection) := by
  intro deployment session
  have he : readEvents deployment session (.read "SELECT 1") true =
      [.opened .replica (.ok ⟨1⟩), .supplied (.ok (.replica ⟨1⟩)), .judged true] := by
    decide +kernel
  have hr : Reachable deployment.collaborators session := .fresh "a"
  obtain ⟨-, hserved, -⟩ := read_routing hr (by decide) (.read "SELECT 1") true
  refine ⟨he, hserved ?_ ?_ ?_⟩
  · exact ⟨by decide, by decide, by decide, by decide, by decide, by decide +kernel,
      by decide +kernel⟩
  · rw [he]
    simp
  · rw [he]
    decide

end Routing

end ReplicaRouting.Session
