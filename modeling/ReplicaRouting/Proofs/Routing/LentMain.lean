import ReplicaRouting.Proofs.Routing.Reads
import ReplicaRouting.Proofs.Session.Phases

/-!
Main for the time being. As long as a session is asked for reads that nothing pins, the flag that
main is only lent stands whenever main is held: it is set before main is taken, and cleared only
once main has been parted with. Such a session is never on main for good, and goes back to the
replica as soon as that can serve.
-/

namespace ReplicaRouting.Session

section Steps

variable {session later : Session} {decision : Decision} {result : Except Fault Handle}

/-- Main is held for the time being only, if it is held. -/
def Lent (session : Session) : Prop := session.main.isReady = true → session.committed = true

theorem Lent.of_main_absent (hm : session.main = .absent) : Lent session := by
  simp [Lent, hm, Slot.isReady]

theorem Lent.unpinned (h : Lent session) : session.phase ≠ .main := by
  intro hp
  obtain ⟨-, hm, hc⟩ := (phase_eq_main_iff session).mp hp
  cases hc.symm.trans (h hm)

/-- Where main is lent, a session that is not on main at all holds none. -/
theorem Lent.main_absent (h : Lent session) (ho : session.closed = false)
    (hp : session.phase ≠ .committedMain) : session.main = .absent := by
  apply main_absent_of_unready
  intro hm
  exact hp ((phase_eq_committedMain_iff session).mpr ⟨ho, hm, h hm⟩)

theorem Lent.of_core (h : Lent session) (hc : later.core = session.core) : Lent later := by
  obtain ⟨hm, -, hcom, -, -⟩ := eq_of_core hc
  rwa [Lent, hm, hcom]

theorem Lent.concluded (h : Lent session) : Lent (session.concluded decision result) := by
  cases result <;> exact h

theorem Diverts.lent (hd : Diverts session decision result later)
    (hp : decision.pinsMain = false) : Lent later := by
  cases hd with
  | forGood _ pins => cases hp.symm.trans pins
  | untilCaughtUp takes => exact fun _ => takes.committed_eq

/-- Off the shortcut to main, a decision that does not pin leaves main lent at most. -/
theorem Follows.lent {route : Route} (hf : Follows session decision route result later)
    (hs : Lent session) (ho : session.closed = false) (hr : route ≠ .main)
    (hp : decision.pinsMain = false) : Lent later := by
  cases hf with
  | main => exact absurd rfl hr
  | withoutReplica diverts => exact diverts.lent hp
  | unadopted opened =>
    obtain ⟨hm, hc, -⟩ := adopting_main session decision opened
    rwa [Lent, hm, hc]
  | diverted _ diverts => exact diverts.lent hp
  | unclosed => exact .of_main_absent rfl
  | returned _ _ _ takes => exact .of_main_absent takes.frame.1
  | @stayed opened _ _ _ held takes =>
    apply Lent.of_main_absent
    calc
      later.main = (session.adopting decision opened).main := takes.frame.1
      _ = session.main := (adopting_main session decision opened).1
      _ = .absent := hs.main_absent ho held

end Steps

section Running

variable {σ : Type} (among : Collaborators σ) {session : Session}

/-- Nothing that speaks for a stay on main: no write, no read under strict isolation, and none whose
decision comes to pin. What a closed session is asked for counts for nothing. -/
def Tentative (session : Session) (turn : Turn σ) : Prop :=
  session.closed = false →
    match turn.operation with
    | .writeHandle _ => False
    | .readHandle seed => session.parameters.exceedsReadCommitted = false ∧
        ∀ settled route chosen,
          chooseRoute among seed ⟨session, turn.world⟩ = (.ok (settled, route), chosen) →
            settled.pinsMain = false
    | _ => True

/-- Turns that are tentative, each where it is taken. -/
def TentativeRun : List (Turn σ) → Session → Prop
  | [], _ => True
  | turn :: turns, session =>
    Tentative among session turn ∧ TentativeRun turns (session.after among turn)

variable {among}

theorem TentativeRun.of_prefix {earlier turns : List (Turn σ)} (hp : earlier <+: turns)
    (h : TentativeRun among turns session) : TentativeRun among earlier session := by
  induction earlier generalizing turns session with
  | nil => trivial
  | cons turn earlier ih =>
    obtain ⟨rest, rfl⟩ := hp
    exact ⟨h.1, ih (List.prefix_append earlier rest) h.2⟩

theorem readHandle_lent {seed : Decision} {scene : Scene σ} (hs : Lent scene.session)
    (ht : Tentative among scene.session ⟨.readHandle seed, scene.world⟩) :
    Lent (readHandle among seed scene).2.session := by
  cases ho : scene.session.closed with
  | true =>
    rw [readHandle_of_closed among seed ho]
    exact hs
  | false =>
    obtain ⟨hx, hpins⟩ := ht ho
    obtain ⟨settled, route, world, hc⟩ := chooseRoute_settles among scene seed
    obtain ⟨later, hf, hw⟩ := readHandle_follows among ho hc
    rw [hw]
    exact (hf.lent hs ho (chooseRoute_ne_main among hx hs.unpinned hc) (hpins _ _ _ hc)).concluded

theorem after_lent {turn : Turn σ} (hs : Lent session) (ht : Tentative among session turn) :
    Lent (session.after among turn) := by
  obtain ⟨operation, world⟩ := turn
  let scene : Scene σ := ⟨session, world⟩
  have hscene : Lent scene.session := hs
  unfold after
  by_cases ha : operation.isAside = true
  · exact hs.of_core (perform_aside among ha scene)
  cases operation with
  | readHandle seed =>
    simp only [perform, Fallible.map_apply]
    exact readHandle_lent hscene ht
  | writeHandle seed =>
    simp only [perform, Fallible.map_apply]
    have hc : scene.session.closed = true := by
      rw [← Bool.not_eq_false]
      exact ht
    rw [writeHandle_of_closed among seed hc]
    exact hs
  | close =>
    -- a closed session stays as it is, and one that is ended holds main no longer
    simp only [perform, Fallible.bind_pure_world]
    cases ho : scene.session.closed with
    | true =>
      rw [close_eq, ending_of_closed among _ ho]
      exact hs
    | false =>
      obtain ⟨warnings, hw⟩ := close_session among ho
      exact .of_main_absent (congrArg Session.main hw)
  | abort deadline =>
    simp only [perform, Fallible.bind_pure_world]
    cases ho : scene.session.closed with
    | true =>
      rw [abort_eq, ending_of_closed among _ ho]
      exact hs
    | false => exact .of_main_absent (congrArg Session.main (abort_session among deadline ho))
  | _ => exact absurd rfl ha

theorem run_lent {turns : List (Turn σ)} (hs : Lent session)
    (ht : TentativeRun among turns session) : Lent (session.run among turns) := by
  induction turns generalizing session with
  | nil => exact hs
  | cons turn turns ih => exact ih (after_lent hs ht.1) ht.2

end Running

section Serving

variable {σ : Type} {deployment : Deployment σ} {session later : Session} {seed decision : Decision}
  {world : σ} {handle : Handle}

theorem TakesReplica.phase (ht : TakesReplica session decision (.ok handle) later)
    (ho : session.closed = false) (hm : session.main = .absent) : later.phase = .replica := by
  rw [phase_eq_replica_iff]
  cases ht with
  | kept held => exact ⟨ho, hm, by rw [held]; rfl⟩
  | opened => exact ⟨ho, hm, rfl⟩

/-- A decision for a replica leaves main behind. -/
theorem Follows.phase_replica {opened : Option Handle}
    (hf : Follows session decision (.byChain opened) (.ok handle) later)
    (ha : Askable session opened) (hm : decision.runsOnMain = false) : later.phase = .replica := by
  obtain ⟨hmain, -, hclosed⟩ := adopting_main session decision opened
  have ho := hclosed.trans ha.closed
  cases hf with
  | diverted onMain => cases hm.symm.trans onMain
  | returned _ _ _ takes => exact takes.phase ho rfl
  | stayed _ held takes => exact takes.phase ho (hmain.trans (ha.main_absent held))

variable (deployment session seed world) in
/-- Nothing stands in the way of a replica: the read is plain, there is a replica, no one finds
fault with it, and nothing fails. -/
structure Unhindered : Prop where
  lenient : session.parameters.exceedsReadCommitted = false
  onReplica : seed.runsOnMain = false
  notWrite : deployment.classifier.isWrite seed.sql = false
  notLock : deployment.classifier.isLock seed.sql = false
  available : (deployment.database.replicaAvailable world).1 = true
  breaker : (deployment.breaker.get (deployment.asked world)).isOpen = false
  consistent : .judged false ∉ readEvents deployment session seed world
  unfailing : ∀ event ∈ readEvents deployment session seed world, event.isFailure = false

theorem Unhindered.admits (h : Unhindered deployment session seed world)
    (hp : session.phase ≠ .main) : Admits deployment session seed world :=
  ⟨h.lenient, hp, h.available, h.onReplica, h.breaker, h.notWrite, h.notLock⟩

theorem Unhindered.served (h : Unhindered deployment session seed world) (hs : Sound session)
    (ho : session.closed = false) (hp : session.phase ≠ .main) :
    let read := readHandle deployment.collaborators seed ⟨session, world⟩
    ∃ connection, read.1 = .ok (.replica connection) ∧ read.2.session.phase = .replica := by
  intro read
  obtain ⟨settled, route, after, hset⟩ := settles deployment session seed world
  obtain ⟨hborne, hfailed⟩ := hset.readEvents ho
  -- the tracker was asked, and has not said no
  have hm : settled.runsOnMain = false := by
    have hasked := hborne.asked (h.admits hp)
    cases hm : settled.runsOnMain with
    | false => rfl
    | true =>
      rw [hm] at hasked
      exact absurd hasked h.consistent
  cases hread : read.1 with
  | error fault =>
    obtain ⟨event, he, hfault⟩ := hfailed fault hread
    cases (h.unfailing event he).symm.trans hfault
  | ok handle =>
    obtain ⟨kind, connection⟩ := handle
    cases (hset.handle_of_replica hs ho hborne hread hm).1
    obtain ⟨opened, rfl, -⟩ := hset.verdict hm
    obtain ⟨later, hfollow, hlater⟩ := hset.read ho hread
    have hphase := hfollow.phase_replica (hset.askable hs ho) hm
    refine ⟨connection, rfl, ?_⟩
    change (readHandle deployment.collaborators seed ⟨session, world⟩).2.session.phase = _
    rw [hlater]
    exact hphase

/-- Lag and outages alone never pin. While nothing speaks for a stay on main, a session is never
there for good, whatever its collaborators answer and whatever fails; and if it is still open, the
first read that nothing hinders is served by a replica and leaves the session on it. -/
theorem lag_never_pins {among : Collaborators σ} {id : String} {turns : List (Turn σ)}
    (ht : TentativeRun among turns { id }) :
    (∀ earlier, earlier <+: turns →
      let session := run among earlier { id }
      session.phase ≠ .main ∧ session.causingDecision = none) ∧
    ∀ deployment : Deployment σ, among = deployment.collaborators →
      let session := run among turns { id }
      session.closed = false → ∀ seed world, Unhindered deployment session seed world →
        let read := readHandle among seed ⟨session, world⟩
        ∃ connection, read.1 = .ok (.replica connection) ∧ read.2.session.phase = .replica := by
  have hfresh : Lent { id } := .of_main_absent rfl
  refine ⟨fun earlier hp => ?_, ?_⟩
  · intro session
    have hunpinned : session.phase ≠ .main := (run_lent hfresh (ht.of_prefix hp)).unpinned
    exact ⟨hunpinned, by rw [causingDecision, if_neg hunpinned]⟩
  · rintro deployment rfl session ho seed world hu
    have hr : Reachable deployment.collaborators session := (Reachable.fresh id).run _ turns
    exact hu.served hr.sound ho (run_lent hfresh ht).unpinned

/-- A read that lag has sent to main gives way to one by a replica that has caught up. -/
theorem caught_up_replica_serves :
    let deployment := Deployment.obliging
    let turns : List (Turn Bool) := [⟨.readHandle (.read "SELECT 1"), false⟩]
    let lagging := run deployment.collaborators turns { id := "a" }
    lagging.phase = .committedMain ∧ lagging.causingDecision = none ∧
      ∃ connection, (readHandle deployment.collaborators (.read "SELECT 1") ⟨lagging, true⟩).1 =
        .ok (.replica connection) := by
  intro deployment turns lagging
  have hfinal : (chooseRoute deployment.collaborators (.read "SELECT 1")
      ⟨{ id := "a" }, false⟩).1.toOption.map (·.1.pinsMain) = some false := by decide +kernel
  have ht : TentativeRun deployment.collaborators turns { id := "a" } := by
    refine ⟨fun _ => ⟨by decide, fun settled route chosen hc => ?_⟩, trivial⟩
    rw [hc] at hfinal
    exact Option.some.inj hfinal
  have he : readEvents deployment lagging (.read "SELECT 1") true =
      [.opened .replica (.ok ⟨1⟩), .supplied (.ok (.replica ⟨1⟩)), .judged true,
        .collected ⟨0⟩ (.ok []), .called ⟨0⟩ .close (.ok ())] := by
    decide +kernel
  have hu : Unhindered deployment lagging (.read "SELECT 1") true := by
    refine ⟨by decide +kernel, by decide, by decide +kernel, by decide +kernel, by decide,
      by decide, ?_, ?_⟩
    · rw [he]
      decide
    · rw [he]
      decide
  obtain ⟨hnever, hserved⟩ := lag_never_pins ht
  obtain ⟨connection, hread, -⟩ :=
    hserved deployment rfl (by decide +kernel) (.read "SELECT 1") true hu
  exact ⟨by decide +kernel, (hnever turns List.prefix_rfl).2, connection, hread⟩

end Serving

end ReplicaRouting.Session
