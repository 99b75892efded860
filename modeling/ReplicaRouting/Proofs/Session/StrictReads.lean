import Mathlib.Data.List.Induction
import ReplicaRouting.Proofs.Routing.Writes
import ReplicaRouting.Proofs.Session.FailedOpenings

/-!
Reads under strict isolation of a session that is not on main. They go to main without a look at the
flag that main is lent. The flag is set before main is obtained, and cleared only after lent main
has been closed, so that a failure in between leaves it standing in a session that holds no main.
The next strict read is then lent main that it should have been given for good.
-/

namespace ReplicaRouting.Session

section Courses

variable {session later : Session} {decision : Decision} {events : List Event}
  {result : Except Fault Handle}

/-- The flag stands that main is lent, and main is not held. -/
structure Owing (session : Session) : Prop where
  opened : session.closed = false
  vacant : session.main = .absent
  flagged : session.committed = true

theorem Owing.of_eq (h : Owing later) (hc : later.closed = session.closed)
    (hm : later.main = session.main) (hf : later.committed = session.committed) : Owing session :=
  ⟨hc.symm.trans h.opened, hm.symm.trans h.vacant, hf.symm.trans h.flagged⟩

/-- How a read leaves the flag behind: main was refused when it was to be lent, or lent main could
not be closed on the way back to a replica. -/
inductive Stalls (session : Session) (fault : Fault) (events : List Event) : Prop where
  | unopened (last : Refused .main fault events)
  | unclosed {main : Handle} (lent : session.phase = .committedMain)
      (held : session.hand .main = some main)
      (last : events.getLast? = some (.called main.connection .close (.error fault)))

/-- Main is missing once it was to be taken only if it was refused, and nothing else was done. -/
theorem TakingMain.vacant (h : TakingMain session decision result later events)
    (hm : later.main = .absent) :
    later = session ∧ ∃ fault, result = .error fault ∧ events = [.opened .main (.error fault)] := by
  cases h with
  | kept held releases =>
    obtain ⟨warnings, rfl⟩ := releases.later_eq
    cases held.symm.trans hm
  | refused fault held => exact ⟨rfl, fault, rfl, rfl⟩
  | unreleased held releases | opened held releases =>
    obtain ⟨warnings, rfl⟩ := releases.later_eq
    cases hm

theorem Pinning.unflagged (h : Pinning session decision result later events) :
    later.committed = false := by
  cases h with
  | taken takes =>
    have hc := takes.takes.committed_eq
    cases result <;> exact hc

theorem Diverting.stalls (h : Diverting session decision result later events) (hl : Owing later) :
    ∃ fault, result = .error fault ∧ events = [.opened .main (.error fault)] := by
  cases h with
  | forGood _ pins => cases pins.unflagged.symm.trans hl.flagged
  | untilCaughtUp _ takes => exact (takes.vacant hl.vacant).2

theorem Closing.stalls {fault : Fault} {adopted : Session} {first : List Event}
    (h : Closing .main adopted (.error fault) later events)
    (lent : session.phase = .committedMain) (hm : adopted.main = session.main) :
    Stalls session fault (first ++ events) := by
  cases h with
  | @closed main held read =>
    have hheld : session.hand .main = some main := by
      rw [← held]
      exact congrArg Slot.handle? hm.symm
    refine .unclosed lent hheld ?_
    rw [List.getLast?_append]
    rfl

/-- A read leaves the flag standing without main if it did before, or if it stalls. -/
theorem Following.owing (h : Following session decision result later events) (hl : Owing later) :
    Owing session ∨ ∃ fault, result = .error fault ∧ Stalls session fault events := by
  cases h with
  | main takes =>
    obtain ⟨rfl, -⟩ := takes.vacant hl.vacant
    exact .inl hl
  | withoutReplica _ diverts =>
    obtain ⟨fault, hr, rfl⟩ := diverts.stalls hl
    exact .inr ⟨fault, hr, .unopened rfl⟩
  | unadopted _ consults =>
    obtain ⟨hm, hf, hc, -⟩ := consults.frame
    exact .inl (hl.of_eq hc hm hf)
  | diverted _ _ diverts =>
    obtain ⟨fault, hr, rfl⟩ := diverts.stalls hl
    exact .inr ⟨fault, hr, .unopened (refused_concat _ _ _)⟩
  | @unclosed fault _ _ _ _ consults lent closes =>
    exact .inr ⟨fault, rfl, closes.stalls lent consults.frame.1⟩
  | returned _ _ _ takes | stayed _ _ _ takes => cases takes.takes.frame.2.symm.trans hl.flagged

theorem Owing.of_concluded (h : Owing (session.concluded decision result)) : Owing session := by
  cases result <;> exact ⟨h.opened, h.vacant, h.flagged⟩

/-- No operation but a read that stalls brings about that the flag stands without main. -/
theorem Performing.owing {operation : Operation} {answer : Except Fault Answer}
    (h : Performing session operation answer later events) (hl : Owing later) :
    Owing session ∨ (∃ seed, operation = .readHandle seed) ∧
      ∃ fault, answer = .error fault ∧ Stalls session fault events := by
  cases h with
  | read seed reads =>
    cases reads with
    | refused => exact .inl hl
    | followed _ _ follows =>
      refine (follows.owing hl.of_concluded).imp_right fun ⟨fault, hr, hs⟩ => ?_
      exact ⟨⟨seed, rfl⟩, fault, by rw [hr]; rfl, hs⟩
  | write seed writes =>
    cases writes with
    | refused => exact .inl hl
    | pinned _ pins => cases pins.unflagged.symm.trans hl.of_concluded.flagged
  | close ends => cases (ends.closed fun h => h.standing).symm.trans hl.opened
  | abort _ ends => cases (ends.closed fun h => h.standing).symm.trans hl.opened
  | aside _ _ haside =>
    obtain ⟨hm, -, hf, hc, -⟩ := eq_of_core haside.core
    exact .inl (hl.of_eq hc hm hf)

end Courses

section Runs

variable {σ : Type} (among : Collaborators σ)

/-- The turn is a read that stalls. -/
def StallsIn (session : Session) (turn : Turn σ) : Prop :=
  (∃ seed, turn.operation = .readHandle seed) ∧
    ∃ fault, session.answer among turn = .error fault ∧
      Stalls session fault (entries among.watched session turn)

/-- In some turn a read has stalled, and ever since then the flag has been standing without main. -/
def LeftOwing (turns : List (Turn σ)) (session : Session) : Prop :=
  ∃ earlier turn later, turns = earlier ++ turn :: later ∧
    StallsIn among (run among earlier session) turn ∧
    ∀ between, between <+: later → Owing (run among (earlier ++ turn :: between) session)

theorem owing_leftOwing (turns : List (Turn σ)) {session : Session}
    (hstart : session.committed = false) (h : Owing (run among turns session)) :
    LeftOwing among turns session := by
  -- from the end, back to the turn that has set the flag
  induction turns using List.reverseRecOn with
  | nil => cases hstart.symm.trans h.flagged
  | append_singleton turns turn ih =>
    have hafter := h
    rw [run_concat] at hafter
    rcases (turn_performing among (run among turns session) turn).owing hafter with hbefore | hstalls
    · obtain ⟨earlier, stalling, later, rfl, hs, howing⟩ := ih hbefore
      refine ⟨earlier, stalling, later ++ [turn], by simp, hs, fun between hp => ?_⟩
      rcases List.prefix_concat_iff.mp hp with rfl | hp
      · simpa using h
      · exact howing between hp
    · refine ⟨turns, turn, [], rfl, hstalls, fun between hp => ?_⟩
      rw [List.prefix_nil.mp hp]
      exact h

/-- Under strict isolation a read of a session without main leads to main, lent or for good as the
flag says. -/
theorem readHandle_of_strict {session : Session} {seed : Decision} {world : σ} {handle : Handle}
    (ho : session.closed = false) (hm : session.main = .absent)
    (hx : session.parameters.exceedsReadCommitted = true)
    (hk : (readHandle among seed ⟨session, world⟩).1 = .ok handle) :
    handle.kind = .main ∧
      OnMain handle session.committed (readHandle among seed ⟨session, world⟩).2.session := by
  let scene : Scene σ := ⟨session, world⟩
  have hopen : scene.session.closed = false := ho
  obtain ⟨later, hf, hs⟩ := readHandle_follows among hopen (chooseRoute_of_strict among scene seed hx)
  rw [hk] at hf hs
  rw [hs]
  cases hf with
  | main takes =>
    refine ⟨takes.kind (by simp [scene, hm, Slot.handle?]), ?_⟩
    have hon := takes.onMain hopen
    exact ⟨hon.closed, hon.committed, hon.main, hon.replica⟩

/-- A strict read of a session that is not on main leads to main, where the session stays for good
exactly if the flag is clear. The flag stands only where an earlier read has stalled: main is lent
then, as though a replica lagged behind. -/
theorem strict_read_pins_iff {among : Collaborators σ} {id : String} {turns : List (Turn σ)}
    {session : Session} (hrun : run among turns { id } = session)
    (hp : session.phase = .notInitialised ∨ session.phase = .replica)
    (hx : session.parameters.exceedsReadCommitted = true) {seed : Decision} {world : σ}
    {handle : Handle} (hk : (readHandle among seed ⟨session, world⟩).1 = .ok handle) :
    let later := (readHandle among seed ⟨session, world⟩).2.session
    handle.kind = .main ∧ (later.phase = .main ↔ session.committed = false) ∧
      (session.committed = false →
        ∀ more : List (Turn σ), (∀ turn ∈ more, turn.operation.isEnd = false) →
          ∀ seed' world',
            (readHandle among seed' ⟨later.run among more, world'⟩).1 = .ok handle) ∧
      (session.committed = true →
        later.phase = .committedMain ∧ LeftOwing among turns { id }) := by
  intro later
  have ho := open_of_readHandle among hk
  have hm : session.main = .absent := by
    apply main_absent_of_unready
    intro hready
    rw [phase_of_main_ready ho hready] at hp
    cases hc : session.committed <;> simp [hc] at hp
  obtain ⟨hkind, hon⟩ := readHandle_of_strict among ho hm hx hk
  have hon : OnMain handle session.committed later := hon
  have hphase := hon.phase
  refine ⟨hkind, ?_, fun hc more hmore seed' world' => ?_, fun hc => ⟨?_, ?_⟩⟩
  · rw [hphase]
    cases session.committed <;> simp
  · rw [hc] at hon
    let meanwhile : Scene σ := ⟨later.run among more, world'⟩
    have hpinned : PinnedTo handle meanwhile.session := run_pinned among hon more hmore
    exact (readHandle_of_pinned among seed' hpinned).1
  · rw [hphase, hc]
    rfl
  · apply owing_leftOwing among turns rfl
    rw [hrun]
    exact ⟨ho, hm, hc⟩

/-- The world of the deployment tells whether main can be reached and the replica has caught up. -/
def fleetingMain : Deployment Bool :=
  { Deployment.obliging with
    database := { Database.obliging Bool with
      openMain := fun world =>
        (if world then .ok ⟨0⟩ else .error (.creationFailed .main "refused"), world) } }

/-- A lagging read finds no main. The next read, under strict isolation, is lent main, and once the
isolation is lowered again a replica serves. -/
theorem strict_read_lent_main_after_refusal :
    let among := fleetingMain.collaborators
    let turns : List (Turn Bool) :=
      [⟨.readHandle (.read "SELECT 1"), false⟩, ⟨.setIsolation .serializable, true⟩]
    let session := run among turns { id := "a" }
    let strict := readHandle among (.read "SELECT 1") ⟨session, true⟩
    let lowered := strict.2.session.after among ⟨.setIsolation .readCommitted, true⟩
    session.phase = .replica ∧ strict.1 = .ok (.main ⟨0⟩) ∧
      strict.2.session.phase = .committedMain ∧ LeftOwing among turns { id := "a" } ∧
      (readHandle among (.read "SELECT 1") ⟨lowered, true⟩).1 = .ok (.replica ⟨1⟩) := by
  intro among turns session strict lowered
  have hp : session.phase = .replica := by decide +kernel
  have hk : strict.1 = .ok (.main ⟨0⟩) := by decide +kernel
  have hx : session.parameters.exceedsReadCommitted = true := by decide +kernel
  obtain ⟨-, -, -, hlent⟩ := strict_read_pins_iff rfl (.inr hp) hx hk
  obtain ⟨hphase, hleft⟩ := hlent (by decide +kernel)
  exact ⟨hp, hk, hphase, hleft, by decide +kernel⟩

end Runs

end ReplicaRouting.Session
