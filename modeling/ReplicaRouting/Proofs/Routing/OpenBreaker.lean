import ReplicaRouting.Proofs.Routing.Writes
import ReplicaRouting.Proofs.Session.Conduct
import ReplicaRouting.Proofs.Session.Requests

/-!
A session while its breaker is open. The chain sends every read to main that gets as far as the
chain, without a look at any replica, and the other ways of a read lead to main as well.
-/

namespace ReplicaRouting

section Deciding

variable {σ : Type} {deployment : Deployment σ} {seed : Decision} {world : σ}

theorem Deployment.earlyReason_of_open (seed : Decision)
    (hb : (deployment.breaker.get world).isOpen = true) :
    deployment.earlyReason seed world =
      some (if seed.runsOnMain then seed.reason else .circuitOpen) := by
  unfold earlyReason
  rw [if_pos hb]
  split <;> rfl

variable {among : Collaborators σ} {settled : Decision} {after : σ}

/-- A chain that settles a decision at once is passed over as a whole. -/
theorem Collaborators.watched_decide {replicas : Nat}
    (h : among.chain.decide seed replicas world = .answered settled after) (events : List Event) :
    among.watched.chain.decide seed replicas { world, events } =
      .answered settled { world := after, events } := by
  have hd : among.watched.chain.decide seed replicas =
      (among.chain.decide seed replicas).silently := among.silently_decide seed replicas
  rw [hd]
  exact congrArg (Inquiry.silently · events) h

namespace Session

theorem decideWithReplica_of_answered
    (h : among.chain.decide seed 1 world = .answered settled after) (held : Option Handle) :
    decideWithReplica among seed held world = ((settled, held), after) := by
  unfold decideWithReplica
  rw [Consult.runWithHandle_eq]
  unfold Consult.run
  rw [h]
  rfl

theorem decideWithoutReplica_of_answered
    (h : among.chain.decide seed 0 world = .answered settled after)
    (hm : settled.runsOnMain = true) :
    decideWithoutReplica among seed world = (settled, after) := by
  unfold decideWithoutReplica Consult.run
  rw [h]
  simp only [Inquiry.run, hm, ↓reduceIte]

end Session

end Deciding

namespace Session

section Settling

variable {σ : Type} {deployment : Deployment σ} {session : Session} {seed settled : Decision}
  {world after : σ} {route : Route}

/-- The decision leads to main, and on the way no replica turns up that was not held before. -/
structure Bypasses (session : Session) (settled : Decision) (route : Route) : Prop where
  onMain : settled.runsOnMain = true
  unopened : ∀ opened, route = .byChain opened → opened = session.hand .replica

theorem Settles.bypasses (h : Settles deployment session seed world settled route after)
    (hb : (deployment.breaker.get (deployment.asked world)).isOpen = true) :
    Bypasses session settled route := by
  have hearly := Deployment.earlyReason_of_open seed hb
  cases h with
  | strict => exact ⟨rfl, by rintro _ ⟨⟩⟩
  | reused => exact ⟨rfl, by rintro _ ⟨⟩⟩
  | forced _ _ _ early =>
    exact ⟨Deployment.runsOnMain_of_earlyReason early, by rintro _ ⟨⟩; rfl⟩
  | forcedWithoutReplica _ _ _ early =>
    exact ⟨Deployment.runsOnMain_of_earlyReason early, by rintro _ ⟨⟩⟩
  | unavailable _ _ _ undecided | inconsistent _ _ _ undecided | consistent _ _ _ undecided =>
    cases hearly.symm.trans undecided

/-- A lenient read that was not meant for main comes to stay there. -/
theorem Settles.pins_of_open (h : Settles deployment session seed world settled route after)
    (hb : (deployment.breaker.get (deployment.asked world)).isOpen = true)
    (hx : session.parameters.exceedsReadCommitted = false) (hm : seed.runsOnMain = false) :
    (if route = .main then session.committed else !settled.pinsMain) = false := by
  have hearly : deployment.earlyReason seed (deployment.asked world) = some .circuitOpen := by
    rw [Deployment.earlyReason_of_open seed hb, hm]
    rfl
  cases h with
  | strict strict => cases hx.symm.trans strict
  | reused _ pinned => exact ((phase_eq_main_iff session).mp pinned).2.2
  | forced _ _ _ early | forcedWithoutReplica _ _ _ early =>
    cases hearly.symm.trans early
    rfl
  | unavailable _ _ _ undecided | inconsistent _ _ _ undecided | consistent _ _ _ undecided =>
    cases hearly.symm.trans undecided

/-- Settled so early, a decision is settled without an entry in the account. -/
theorem Settles.chooseRoute_watched (h : Settles deployment session seed world settled route after)
    (hb : (deployment.breaker.get (deployment.asked world)).isOpen = true) (events : List Event) :
    chooseRoute deployment.collaborators.watched seed ⟨session, { world, events }⟩ =
      (.ok (settled, route), ⟨session, { world := after, events }⟩) := by
  let scene : Scene (Chronicle σ Event) := ⟨session, { world, events }⟩
  have hearly := Deployment.earlyReason_of_open seed hb
  cases h with
  | strict strict => exact chooseRoute_of_strict _ scene seed strict
  | reused lenient pinned held => exact chooseRoute_of_main _ scene seed lenient held pinned
  | forced lenient unpinned available early =>
    have hd := Collaborators.watched_decide (Deployment.decide_of_early early 1) events
    exact chooseRoute_of_available _ scene seed lenient unpinned available
      (decideWithReplica_of_answered hd _)
  | forcedWithoutReplica lenient unpinned unavailable early =>
    have hd := Collaborators.watched_decide (Deployment.decide_of_early early 0) events
    exact chooseRoute_of_unavailable _ scene seed lenient unpinned unavailable
      (decideWithoutReplica_of_answered hd (Deployment.runsOnMain_of_earlyReason early))
  | unavailable _ _ _ undecided | inconsistent _ _ _ undecided | consistent _ _ _ undecided =>
    cases hearly.symm.trans undecided

end Settling

section Reading

variable {σ : Type} {deployment : Deployment σ} {session : Session} {world : σ} {handle : Handle}

theorem readHandle_unasked (seed : Decision)
    (hb : (deployment.breaker.get (deployment.asked world)).isOpen = true) :
    Unasked .replica (readHandle deployment.collaborators.watched seed
      ⟨session, { world, events := [] }⟩).2.world.events := by
  let scene : Scene (Chronicle σ Event) := ⟨session, { world, events := [] }⟩
  cases ho : scene.session.closed with
  | true =>
    rw [readHandle_of_closed _ seed ho]
    exact .nil
  | false =>
    obtain ⟨settled, route, after, h⟩ := settles deployment session seed world
    rw [readHandle_of_open _ ho (h.chooseRoute_watched hb [])]
    have hfollow := followRoute_onMain_unasked deployment.collaborators session settled route
      (h.bypasses hb).onMain
    have hread := concluded_proceeds deployment.collaborators session settled scene.session.phase
      hfollow
    obtain ⟨result, later, after', events, hr, hu⟩ := hread after []
    rw [hr]
    exact hu

/-- No operation asks for a replica. -/
theorem entries_unasked {turn : Turn σ}
    (hb : (deployment.breaker.get (deployment.asked turn.world)).isOpen = true) :
    Unasked .replica (entries deployment.collaborators.watched session turn) := by
  by_cases hr : ∃ seed, turn.operation = .readHandle seed
  · obtain ⟨operation, world⟩ := turn
    obtain ⟨seed, rfl⟩ := hr
    unfold entries
    rw [perform, Fallible.map_apply]
    exact readHandle_unasked seed hb
  · exact (turn_performing _ session turn).unasked (not_exists.mp hr)

/-- Every read leads to main. -/
theorem readHandle_kind_of_open {seed : Decision} (hs : Sound session)
    (hb : (deployment.breaker.get (deployment.asked world)).isOpen = true)
    (hk : (readHandle deployment.collaborators seed ⟨session, world⟩).1 = .ok handle) :
    handle.kind = .main := by
  have ho := open_of_readHandle _ hk
  obtain ⟨settled, route, after, h⟩ := settles deployment session seed world
  obtain ⟨later, hf, -⟩ := h.read ho hk
  exact hf.kind_main hs (h.bypasses hb).onMain

/-- A lenient read that was not meant for main pins the session there. -/
theorem readHandle_pinned_of_open {seed : Decision}
    (hb : (deployment.breaker.get (deployment.asked world)).isOpen = true)
    (hx : session.parameters.exceedsReadCommitted = false) (hm : seed.runsOnMain = false)
    (hk : (readHandle deployment.collaborators seed ⟨session, world⟩).1 = .ok handle) :
    PinnedTo handle (readHandle deployment.collaborators seed ⟨session, world⟩).2.session := by
  have ho := open_of_readHandle _ hk
  obtain ⟨settled, route, after, h⟩ := settles deployment session seed world
  obtain ⟨later, hf, hlater⟩ := h.read ho hk
  have hon := hf.onMain ho (h.bypasses hb).onMain
  rw [h.pins_of_open hb hx hm] at hon
  rw [hlater]
  exact PinnedTo.concluded hon settled (.ok handle)

theorem writeHandle_kind {among : Collaborators σ} {seed : Decision} (hs : Sound session)
    (hk : (writeHandle among seed ⟨session, world⟩).1 = .ok handle) : handle.kind = .main := by
  let scene : Scene σ := ⟨session, world⟩
  have ho : scene.session.closed = false := open_of_writeHandle among hk
  obtain ⟨later, ht, -⟩ := writeHandle_takes among seed ho
  rw [hk] at ht
  exact ht.kind hs.main_kind

/-- Whatever operation answers a handle, it is one of main. -/
theorem answer_kind_of_open {turn : Turn σ} (hs : Sound session)
    (hb : (deployment.breaker.get (deployment.asked turn.world)).isOpen = true)
    (hk : session.answer deployment.collaborators turn = .ok (.handle handle)) :
    handle.kind = .main := by
  obtain ⟨operation, world⟩ := turn
  rcases (turn_performing deployment.collaborators session ⟨operation, world⟩).routed hk with
    ⟨seed, rfl⟩ | ⟨seed, rfl⟩
  · exact readHandle_kind_of_open hs hb ((answer_readHandle _ _ _ _ _).mp hk)
  · exact writeHandle_kind hs ((answer_writeHandle _ _ _ _ _).mp hk)

end Reading

end Session

end ReplicaRouting
