import ReplicaRouting.Proofs.Routing.StandardChain
import ReplicaRouting.Proofs.Session.Reachable

/-!
How a session on the standard chain settles the decision of a read, and which handle comes of it.
-/

namespace ReplicaRouting

/-- The world once the provider was asked whether there is a replica. -/
def Deployment.asked {σ : Type} (deployment : Deployment σ) (world : σ) : σ :=
  (deployment.database.replicaAvailable world).2

namespace Session

section Settling

variable {σ : Type} (deployment : Deployment σ) (session : Session) (seed : Decision) (world : σ)

/-- The courses of settling a decision: what it becomes, the route, and the world afterwards. -/
inductive Settles : Decision → Route → σ → Prop where
  | strict (strict : session.parameters.exceedsReadCommitted = true) :
      Settles (seed.withReason .highIsolation) .main world
  | reused {handle : Handle} {since : Decision}
      (lenient : session.parameters.exceedsReadCommitted = false) (pinned : session.phase = .main)
      (held : session.main = .ready handle since) :
      Settles ((seed.withCause since.rootCause).withReason .mainReuse) .main world
  | forced {reason : Reason} (lenient : session.parameters.exceedsReadCommitted = false)
      (unpinned : session.phase ≠ .main)
      (available : (deployment.database.replicaAvailable world).1 = true)
      (early : deployment.earlyReason seed (deployment.asked world) = some reason) :
      Settles (seed.withReason reason) (.byChain session.replica.handle?) (deployment.asked world)
  | forcedWithoutReplica {reason : Reason}
      (lenient : session.parameters.exceedsReadCommitted = false)
      (unpinned : session.phase ≠ .main)
      (unavailable : (deployment.database.replicaAvailable world).1 = false)
      (early : deployment.earlyReason seed (deployment.asked world) = some reason) :
      Settles (seed.withReason reason) .withoutReplica (deployment.asked world)
  | unavailable (lenient : session.parameters.exceedsReadCommitted = false)
      (unpinned : session.phase ≠ .main)
      (unavailable : (deployment.database.replicaAvailable world).1 = false)
      (undecided : deployment.earlyReason seed (deployment.asked world) = none) :
      Settles (seed.withReason .replicaUnavailable) .withoutReplica
        (deployment.log .noReplicaToCheck (deployment.asked world))
  | inconsistent {opened : Option Handle} {after : σ}
      (lenient : session.parameters.exceedsReadCommitted = false)
      (unpinned : session.phase ≠ .main)
      (available : (deployment.database.replicaAvailable world).1 = true)
      (undecided : deployment.earlyReason seed (deployment.asked world) = none)
      (verdict : deployment.tracker.isConsistent.runWithHandle deployment.database.replicaHandle
        session.replica.handle? (deployment.asked world) = ((false, opened), after)) :
      Settles (seed.withReason .replicaInconsistent) (.byChain opened)
        (deployment.log (.replicaInconsistent seed.sql) after)
  | consistent {opened : Option Handle} {after : σ}
      (lenient : session.parameters.exceedsReadCommitted = false)
      (unpinned : session.phase ≠ .main)
      (available : (deployment.database.replicaAvailable world).1 = true)
      (undecided : deployment.earlyReason seed (deployment.asked world) = none)
      (verdict : deployment.tracker.isConsistent.runWithHandle deployment.database.replicaHandle
        session.replica.handle? (deployment.asked world) = ((true, opened), after)) :
      Settles seed (.byChain opened) after

variable {deployment session seed world} {settled : Decision} {route : Route} {after : σ}

theorem Settles.chooseRoute_eq (h : Settles deployment session seed world settled route after) :
    chooseRoute deployment.collaborators seed ⟨session, world⟩ =
      (.ok (settled, route), ⟨session, after⟩) := by
  let scene : Scene σ := ⟨session, world⟩
  cases h with
  | strict strict => exact chooseRoute_of_strict _ scene seed strict
  | reused lenient pinned held => exact chooseRoute_of_main _ scene seed lenient held pinned
  | forced lenient unpinned available early =>
    have hd := Deployment.decideWithReplica_of_early session.replica.handle? early
    exact chooseRoute_of_available _ scene seed lenient unpinned available hd
  | forcedWithoutReplica lenient unpinned unavailable early =>
    have hd := Deployment.decideWithoutReplica_of_early early
    exact chooseRoute_of_unavailable _ scene seed lenient unpinned unavailable hd
  | unavailable lenient unpinned unavailable undecided =>
    have hd := Deployment.decideWithoutReplica_of_undecided undecided
    exact chooseRoute_of_unavailable _ scene seed lenient unpinned unavailable hd
  | inconsistent lenient unpinned available undecided verdict =>
    have hd := Deployment.decideWithReplica_of_undecided session.replica.handle? undecided
    rw [verdict] at hd
    exact chooseRoute_of_available _ scene seed lenient unpinned available hd
  | consistent lenient unpinned available undecided verdict =>
    have hd := Deployment.decideWithReplica_of_undecided session.replica.handle? undecided
    rw [verdict] at hd
    exact chooseRoute_of_available _ scene seed lenient unpinned available hd

variable (deployment session seed world)

theorem settles : ∃ settled route after,
    Settles deployment session seed world settled route after := by
  cases hx : session.parameters.exceedsReadCommitted with
  | true => exact ⟨_, _, _, .strict hx⟩
  | false =>
    by_cases hp : session.phase = .main
    · obtain ⟨handle, since, hm⟩ := main_ready_of_phase hp
      exact ⟨_, _, _, .reused hx hp hm⟩
    cases ha : (deployment.database.replicaAvailable world).1 <;>
      cases he : deployment.earlyReason seed (deployment.asked world) with
      | some reason => first
        | exact ⟨_, _, _, .forced hx hp ha he⟩
        | exact ⟨_, _, _, .forcedWithoutReplica hx hp ha he⟩
      | none => ?_
    · exact ⟨_, _, _, .unavailable hx hp ha he⟩
    · -- what is still open is up to the tracker
      rcases hv : deployment.tracker.isConsistent.runWithHandle deployment.database.replicaHandle
        session.replica.handle? (deployment.asked world) with ⟨⟨_ | _, opened⟩, after⟩
      · exact ⟨_, _, _, .inconsistent hx hp ha he hv⟩
      · exact ⟨_, _, _, .consistent hx hp ha he hv⟩

variable {deployment session seed world}

/-- A decision for a replica is the verdict of the tracker. -/
theorem Settles.verdict (h : Settles deployment session seed world settled route after)
    (hm : settled.runsOnMain = false) :
    ∃ opened, route = .byChain opened ∧
      deployment.tracker.isConsistent.runWithHandle deployment.database.replicaHandle
        session.replica.handle? (deployment.asked world) = ((true, opened), after) := by
  cases h with
  | forced _ _ _ early | forcedWithoutReplica _ _ _ early =>
    cases (Deployment.runsOnMain_of_earlyReason early).symm.trans hm
  | @consistent opened after lenient unpinned available undecided verdict =>
    exact ⟨opened, rfl, verdict⟩
  | _ => cases hm

/-- The replica that the session held before is still held once the chain has been asked. -/
theorem Settles.opened_of_held {opened : Option Handle} {handle : Handle}
    (h : Settles deployment session seed world settled (.byChain opened) after)
    (hh : session.replica.handle? = some handle) : opened = some handle := by
  cases h with
  | forced => exact hh
  | inconsistent _ _ _ _ verdict | consistent _ _ _ _ verdict =>
    have hk := Consult.run_kept deployment.database.replicaHandle handle
      (deployment.tracker.isConsistent (deployment.asked world))
    rw [hh] at verdict
    exact (congrArg (·.1.2) verdict).symm.trans hk

end Settling

section Returning

variable {session later : Session} {decision : Decision} {handle : Handle}

theorem TakesMain.kind (ht : TakesMain session decision (.ok handle) later)
    (hm : ∀ held, session.main.handle? = some held → held.kind = .main) : handle.kind = .main := by
  cases ht with
  | kept _ _ held given =>
    rw [given handle rfl]
    exact hm _ (by rw [held]; rfl)
  | opened _ _ _ _ given => rw [given handle rfl]; rfl

theorem Diverts.kind (hd : Diverts session decision (.ok handle) later)
    (hm : ∀ held, session.main.handle? = some held → held.kind = .main) : handle.kind = .main := by
  generalize hr : Except.ok handle = result at hd
  cases hd with
  | forGood takes => subst hr; exact takes.kind hm
  | untilCaughtUp takes => subst hr; exact takes.kind hm

/-- A decision for main leads to a main handle on every route. -/
theorem Follows.kind_main {route : Route} (hf : Follows session decision route (.ok handle) later)
    (hs : Sound session) (hm : decision.runsOnMain = true) : handle.kind = .main := by
  cases hf with
  | main takes => exact takes.kind hs.main_kind
  | withoutReplica diverts => exact diverts.kind hs.main_kind
  | @diverted opened _ _ onMain diverts =>
    apply diverts.kind
    rw [(adopting_main session decision opened).1]
    exact hs.main_kind
  | returned _ onReplica | stayed onReplica => rw [hm] at onReplica; cases onReplica

theorem TakesReplica.kind (ht : TakesReplica session decision (.ok handle) later)
    (hr : ∀ held, session.replica.handle? = some held → held.kind = .replica) :
    handle.kind = .replica ∧ ∀ held, session.replica.handle? = some held → handle = held := by
  cases ht with
  | kept held =>
    have hh : session.replica.handle? = some handle := by rw [held]; rfl
    exact ⟨hr _ hh, fun other ho => Option.some.inj (hh.symm.trans ho)⟩
  | opened _ _ held given =>
    rw [given handle rfl, held]
    exact ⟨rfl, by simp [Slot.handle?]⟩

/-- After adoption the session holds the handle that was open when the chain had been asked. -/
theorem adopting_handle (decision : Decision) {opened : Option Handle}
    (hk : ∀ held, session.replica.handle? = some held → opened = some held) :
    (session.adopting decision opened).replica.handle? = opened := by
  cases hr : session.replica with
  | ready held since =>
    have ho := hk held (by rw [hr]; rfl)
    rw [ho, adopting, hr]
    rfl
  | absent =>
    cases opened with
    | none => rw [adopting, hr]; rfl
    | some fresh => rw [adopting, hr]; rfl

/-- A decision for a replica leads to the very replica that the chain was shown, if it was. -/
theorem Follows.kind_replica {opened : Option Handle}
    (hf : Follows session decision (.byChain opened) (.ok handle) later)
    (hk : ∀ held, session.replica.handle? = some held → opened = some held)
    (hr : ∀ shown, opened = some shown → shown.kind = .replica)
    (hm : decision.runsOnMain = false) :
    handle.kind = .replica ∧ ∀ shown, opened = some shown → handle = shown := by
  have ha := adopting_handle decision hk
  cases hf with
  | diverted onMain => rw [hm] at onMain; cases onMain
  | returned _ _ _ takes | stayed _ _ takes =>
    have hh := takes.kind (by simpa only [ha] using hr)
    simpa only [ha] using hh

end Returning

section Reading

variable {σ : Type} {deployment : Deployment σ} {session : Session} {seed settled : Decision}
  {world after : σ} {route : Route} {handle : Handle}

/-- A successful read follows what was settled and remembers the decision. -/
theorem Settles.read (h : Settles deployment session seed world settled route after)
    (ho : session.closed = false)
    (hk : (readHandle deployment.collaborators seed ⟨session, world⟩).1 = .ok handle) :
    ∃ later, Follows session settled route (.ok handle) later ∧
      (readHandle deployment.collaborators seed ⟨session, world⟩).2.session =
        { later with lastDecision := some settled } := by
  let scene : Scene σ := ⟨session, world⟩
  have hopen : scene.session.closed = false := ho
  obtain ⟨later, hf, hs⟩ := readHandle_follows deployment.collaborators hopen h.chooseRoute_eq
  rw [hk] at hf hs
  exact ⟨later, hf, hs⟩

theorem Settles.askable {opened : Option Handle} (hs : Sound session)
    (ho : session.closed = false)
    (h : Settles deployment session seed world settled (.byChain opened) after) :
    Askable session opened := by
  let scene : Scene σ := ⟨session, world⟩
  have hsound : Sound scene.session := hs
  exact chooseRoute_askable deployment.collaborators hsound ho h.chooseRoute_eq

end Reading

end Session

end ReplicaRouting
