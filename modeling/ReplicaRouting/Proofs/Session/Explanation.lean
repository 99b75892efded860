import ReplicaRouting.Proofs.Routing.Writes
import ReplicaRouting.Proofs.Session.Account

/-!
Why a session stays on main. The decision that is kept with the main handle gives way once, to the
first that pins. From then on it is the cause of every read, and the line of causes is cut back to
its first decision each time, so that it does not grow.
-/

namespace ReplicaRouting

section Repinning

variable (handle : Handle) {kept decision : Decision}

theorem Slot.repin_of_pins (h : kept.pinsMain = true) :
    (Slot.ready handle kept).repin decision = .ready handle kept := by
  simp [Slot.repin, h]

/-- After a decision that pins, the one that is kept pins. -/
theorem Slot.repin_pinning (kept : Decision) (h : decision.pinsMain = true) :
    ∃ cause, (Slot.ready handle kept).repin decision = .ready handle cause ∧
      cause.pinsMain = true := by
  cases hk : kept.pinsMain with
  | true => exact ⟨kept, repin_of_pins handle hk, hk⟩
  | false => exact ⟨decision, by simp [Slot.repin, hk, h], h⟩

end Repinning

namespace Session

section Keeping

variable {session later : Session} {decision cause : Decision} {handle : Handle}

/-- The session stays on main, and keeps `cause` as the reason for it. -/
structure ExplainedBy (cause : Decision) (handle : Handle) (session : Session) : Prop where
  pinned : PinnedTo handle session
  held : session.main = .ready handle cause
  pins : cause.pinsMain = true

theorem ExplainedBy.causingDecision_eq (h : ExplainedBy cause handle session) :
    session.causingDecision = some cause := by
  unfold causingDecision
  rw [if_pos h.pinned.phase, h.held]
  rfl

theorem ExplainedBy.of_main_eq (h : ExplainedBy cause handle session) (hp : PinnedTo handle later)
    (hm : later.main = session.main) : ExplainedBy cause handle later :=
  ⟨hp, hm.trans h.held, h.pins⟩

/-- Noting a decision that pins with main gives the session its explanation. -/
theorem PinnedTo.explained (h : PinnedTo handle session) (hp : decision.pinsMain = true) :
    ∃ cause, ExplainedBy cause handle (session.repinned decision (.ok handle)) := by
  obtain ⟨kept, hm⟩ := (Slot.handle_some_iff _ _).mp h.main
  obtain ⟨cause, hc, hpins⟩ := Slot.repin_pinning handle kept hp
  refine ⟨cause, h.repinned decision (.ok handle), ?_, hpins⟩
  simp only [Session.repinned, hm, hc]

theorem ExplainedBy.concluded (h : ExplainedBy cause handle session)
    (result : Except Fault Handle) : ExplainedBy cause handle (session.concluded decision result) := by
  refine h.of_main_eq (h.pinned.concluded decision result) ?_
  cases result <;> rfl

theorem ExplainedBy.repinned (h : ExplainedBy cause handle session)
    (result : Except Fault Handle) : ExplainedBy cause handle (session.repinned decision result) := by
  refine h.of_main_eq (h.pinned.repinned decision result) ?_
  cases result with
  | error fault => rfl
  | ok taken => simp only [Session.repinned, h.held, Slot.repin_of_pins _ h.pins]

theorem TakesMain.main_of_held {result : Except Fault Handle}
    (ht : TakesMain session decision result later) (hm : session.main ≠ .absent) :
    later.main = session.main := by
  cases ht with
  | kept => rfl
  | refused _ held | opened _ _ _ held => exact absurd held hm

theorem Diverts.explained (hd : Diverts session decision (.ok handle) later)
    (ho : session.closed = false) (hp : decision.pinsMain = true) :
    ∃ cause, ExplainedBy cause handle later := by
  generalize hr : Except.ok handle = result at hd
  cases hd with
  | forGood takes =>
    subst hr
    exact PinnedTo.explained (takes.onMain ho) hp
  | untilCaughtUp _ pins => cases pins.symm.trans hp

/-- Where the chain, or the lack of a replica, has settled a decision that pins. -/
theorem Follows.explained {route : Route} (hf : Follows session decision route (.ok handle) later)
    (ho : session.closed = false) (hr : route ≠ .main) (hp : decision.pinsMain = true) :
    ∃ cause, ExplainedBy cause handle later := by
  have hm := runsOnMain_of_pinsMain hp
  cases hf with
  | main => exact absurd rfl hr
  | withoutReplica diverts => exact diverts.explained ho hp
  | @diverted opened _ _ _ diverts =>
    exact diverts.explained ((adopting_main session decision opened).2.2.trans ho) hp
  | returned _ onReplica | stayed onReplica => cases onReplica.symm.trans hm

end Keeping

section Running

variable {σ : Type} (among : Collaborators σ) {session : Session} {cause : Decision}
  {handle : Handle}

/-- A decision that is settled without the chain does not pin. -/
theorem chooseRoute_main_pinsMain {scene chosen : Scene σ} {seed settled : Decision}
    (hc : chooseRoute among seed scene = (.ok (settled, .main), chosen)) :
    settled.pinsMain = false := by
  cases hx : scene.session.parameters.exceedsReadCommitted with
  | true =>
    rw [chooseRoute_of_strict among scene seed hx] at hc
    cases hc
    rfl
  | false =>
    by_cases hp : scene.session.phase = .main
    · obtain ⟨handle, since, hm⟩ := main_ready_of_phase hp
      rw [chooseRoute_of_main among scene seed hx hm hp] at hc
      cases hc
      rfl
    · exact absurd rfl (chooseRoute_ne_main among hx hp hc)

theorem readHandle_of_explained (seed : Decision) {scene : Scene σ}
    (h : ExplainedBy cause handle scene.session) :
    ExplainedBy cause handle (readHandle among seed scene).2.session := by
  obtain ⟨settled, hc⟩ := chooseRoute_of_pinned among seed h.pinned
  obtain ⟨later, hf, hs⟩ := readHandle_follows among h.pinned.closed hc
  have hpinned := (readHandle_of_pinned among seed h.pinned).2
  cases hf with
  | main takes =>
    refine h.of_main_eq hpinned ?_
    have hm : later.main = scene.session.main := takes.main_of_held (by simp [h.held])
    rw [hs, ← hm]
    cases (readHandle among seed scene).1 <;> rfl

theorem writeHandle_of_explained (seed : Decision) {scene : Scene σ}
    (h : ExplainedBy cause handle scene.session) :
    ExplainedBy cause handle (writeHandle among seed scene).2.session := by
  obtain ⟨later, ht, hs⟩ := writeHandle_takes among seed h.pinned.closed
  have hm : later.main = scene.session.main := ht.main_of_held (by simp [h.held])
  rw [(writeHandle_of_pinned among seed h.pinned).1] at ht hs
  have hlater : ExplainedBy cause handle later := h.of_main_eq (ht.onMain h.pinned.closed) hm
  rw [hs]
  exact (hlater.repinned _).concluded _

theorem after_explained (h : ExplainedBy cause handle session) {turn : Turn σ}
    (ht : turn.operation.isEnd = false) : ExplainedBy cause handle (session.after among turn) := by
  unfold after
  by_cases ha : turn.operation.isAside = true
  · have hc := perform_aside among ha ⟨session, turn.world⟩
    exact h.of_main_eq (h.pinned.of_core hc) (eq_of_core hc).1
  cases ho : turn.operation with
  | readHandle seed =>
    rw [perform, Fallible.map_apply]
    exact readHandle_of_explained among seed h
  | writeHandle seed =>
    rw [perform, Fallible.map_apply]
    exact writeHandle_of_explained among seed h
  | close | abort _ => simp [ho, Operation.isEnd] at ht
  | _ => simp [ho, Operation.isAside] at ha

theorem run_explained (h : ExplainedBy cause handle session) (turns : List (Turn σ))
    (ht : ∀ turn ∈ turns, turn.operation.isEnd = false) :
    ExplainedBy cause handle (session.run among turns) :=
  run_of_unended among (after_explained among) h turns ht

/-- The turn is a write for a reason that pins, or a read that was settled for such a reason. -/
def pinsBy (session : Session) (turn : Turn σ) : Prop :=
  match turn.operation with
  | .writeHandle seed => seed.pinsMain = true
  | .readHandle _ => ∃ final, (session.after among turn).lastDecision = some final ∧
      final.pinsMain = true
  | _ => False

theorem readHandle_explained {seed : Decision} {scene : Scene σ}
    (hk : (readHandle among seed scene).1 = .ok handle)
    (hp : ∃ final, (readHandle among seed scene).2.session.lastDecision = some final ∧
      final.pinsMain = true) :
    ∃ cause, ExplainedBy cause handle (readHandle among seed scene).2.session := by
  have ho := open_of_readHandle among hk
  obtain ⟨settled, route, world, hc⟩ := chooseRoute_settles among scene seed
  obtain ⟨later, hf, hs⟩ := readHandle_follows among ho hc
  rw [hk] at hf hs
  -- the decision that was settled is the one remembered
  obtain ⟨final, hfinal, hpins⟩ := hp
  rw [hs] at hfinal
  cases hfinal
  have hr : route ≠ .main := by
    rintro rfl
    cases (chooseRoute_main_pinsMain among hc).symm.trans hpins
  obtain ⟨cause, hlater⟩ := hf.explained ho hr hpins
  exact ⟨cause, hs ▸ hlater.concluded _⟩

theorem writeHandle_explained {seed : Decision} {scene : Scene σ}
    (hk : (writeHandle among seed scene).1 = .ok handle) (hp : seed.pinsMain = true) :
    ∃ cause, ExplainedBy cause handle (writeHandle among seed scene).2.session := by
  have ho := open_of_writeHandle among hk
  obtain ⟨later, ht, hs⟩ := writeHandle_takes among seed ho
  rw [hk] at ht hs
  obtain ⟨cause, hlater⟩ := PinnedTo.explained (ht.onMain ho) hp
  exact ⟨cause, hs ▸ hlater.concluded _⟩

/-- From the turn on that pins it a session is on main for one reason. -/
theorem after_pinsBy {turn : Turn σ} (hk : session.answer among turn = .ok (.handle handle))
    (hp : pinsBy among session turn) :
    ∃ cause, ExplainedBy cause handle (session.after among turn) := by
  obtain ⟨operation, world⟩ := turn
  cases operation with
  | readHandle seed =>
    have hk := (answer_readHandle among session seed world handle).mp hk
    simp only [pinsBy, after, perform, Fallible.map_apply] at hp ⊢
    exact readHandle_explained among hk hp
  | writeHandle seed =>
    have hk := (answer_writeHandle among session seed world handle).mp hk
    simp only [after, perform, Fallible.map_apply]
    exact writeHandle_explained among hk hp
  | _ => exact hp.elim

/-- A lenient read of a session that stays on main is caused by the first decision in the line of
the one kept, and by nothing else. -/
theorem readHandle_caused (seed : Decision) {scene : Scene σ}
    (h : ExplainedBy cause handle scene.session)
    (hx : scene.session.parameters.exceedsReadCommitted = false) :
    ∃ last, (readHandle among seed scene).2.session.lastDecision = some last ∧
      last.reason = .mainReuse ∧ last.cause? = some cause.rootCause ∧ last.depth = 1 := by
  have hc := chooseRoute_of_main among scene seed hx h.held h.pinned.phase
  obtain ⟨later, -, hs⟩ := readHandle_follows among h.pinned.closed hc
  rw [(readHandle_of_pinned among seed h.pinned).1] at hs
  rw [hs]
  exact ⟨_, rfl, rfl, rfl, rfl⟩

/-- Once a write, or a read that is settled as one, has pinned a session to main, the session keeps
one pinning decision as the reason until it is ended, whatever else it does and whatever fails. Each
lenient read is explained by the first decision in the line of that one alone, however many there
have been. -/
theorem pin_explained_by_one_decision {among : Collaborators σ} {turn : Turn σ}
    (hk : session.answer among turn = .ok (.handle handle)) (hp : pinsBy among session turn) :
    ∃ cause, cause.pinsMain = true ∧
      ∀ turns : List (Turn σ), (∀ turn ∈ turns, turn.operation.isEnd = false) →
        let later := run among turns (session.after among turn)
        later.causingDecision = some cause ∧
          (later.parameters.exceedsReadCommitted = false → ∀ seed world,
            let read := readHandle among seed ⟨later, world⟩
            read.1 = .ok handle ∧
              ∃ last, read.2.session.lastDecision = some last ∧ last.reason = .mainReuse ∧
                last.cause? = some cause.rootCause ∧ last.depth = 1) := by
  obtain ⟨cause, hexplained⟩ := after_pinsBy among hk hp
  refine ⟨cause, hexplained.pins, fun turns ht => ?_⟩
  have hlater := run_explained among hexplained turns ht
  refine ⟨hlater.causingDecision_eq, fun hx seed world => ?_⟩
  let scene : Scene σ := ⟨run among turns (session.after among turn), world⟩
  have hscene : ExplainedBy cause handle scene.session := hlater
  exact ⟨(readHandle_of_pinned among seed hscene.pinned).1, readHandle_caused among seed hscene hx⟩

/-- A session that was on main for lag is pinned by an update; after more reads, one of them under
strict isolation, the update is all there is to the cause of a read. -/
theorem update_after_lag_explains_reads :
    let among := Deployment.obliging.collaborators
    let update : Decision := .write "UPDATE t SET x = 1"
    let lagging := run among [⟨.readHandle (.read "SELECT 1"), false⟩] { id := "a" }
    let turns : List (Turn Bool) :=
      [⟨.readHandle (.read "SELECT 1"), true⟩, ⟨.setIsolation .serializable, true⟩,
        ⟨.readHandle (.read "SELECT 2"), true⟩, ⟨.setIsolation .readCommitted, true⟩]
    let later := run among turns (lagging.after among ⟨.writeHandle update, true⟩)
    lagging.main.decision?.map (·.reason) = some .replicaInconsistent ∧
      later.causingDecision = some update ∧
      ∃ last, (readHandle among (.read "SELECT 3") ⟨later, true⟩).2.session.lastDecision =
        some last ∧ last.cause? = some update ∧ last.depth = 1 := by
  intro among update lagging turns later
  have hk : lagging.answer among ⟨.writeHandle update, true⟩ = .ok (.handle (.main ⟨0⟩)) := by
    decide +kernel
  obtain ⟨cause, -, hcause⟩ := pin_explained_by_one_decision hk rfl
  obtain ⟨hkept, hread⟩ := hcause turns (by decide)
  have hlater : run among turns (lagging.after among ⟨.writeHandle update, true⟩) = later := rfl
  rw [hlater] at hkept hread
  have hc : later.causingDecision = some update := by decide +kernel
  cases hkept.symm.trans hc
  obtain ⟨-, last, hlast, -, hroot, hdepth⟩ :=
    hread (by decide +kernel) (.read "SELECT 3") true
  exact ⟨by decide +kernel, hc, last, hlast, hroot, hdepth⟩

end Running

end Session

end ReplicaRouting
