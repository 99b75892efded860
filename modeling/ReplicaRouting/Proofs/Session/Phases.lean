import ReplicaRouting.Proofs.Session.Courses

/-!
What the courses of operations do to the phase of a session. Every operation leaves the phase or
takes it one step further.
-/

namespace ReplicaRouting

/-- The phases that may come next. -/
def Phase.successors : Phase → List Phase
  | notInitialised => [replica, main, committedMain, closed]
  | replica => [main, committedMain, closed]
  | committedMain => [replica, notInitialised, main, closed]
  | main => [closed]
  | closed => []

theorem Slot.isReady_repin (slot : Slot) (decision : Decision) :
    (slot.repin decision).isReady = slot.isReady := by
  cases slot with
  | absent => rfl
  | ready handle kept =>
    unfold Slot.repin
    dsimp only
    split <;> rfl

namespace Session

theorem core_phase {session later : Session} (h : later.core = session.core) :
    later.phase = session.phase := by
  obtain ⟨hm, hr, hc, ho, -⟩ := eq_of_core h
  unfold phase
  rw [hm, hr, hc, ho]

variable {session later : Session} {decision : Decision} {events : List Event}
  {result : Except Fault Handle}

theorem main_absent_of_unready (h : ¬session.main.isReady = true) : session.main = .absent := by
  cases hm : session.main with
  | absent => rfl
  | ready => simp [hm, Slot.isReady] at h

theorem phase_of_main_ready (ho : session.closed = false) (hm : session.main.isReady = true) :
    session.phase = if session.committed then .committedMain else .main := by
  simp only [phase, ho, Bool.false_eq_true, ↓reduceIte, hm]

theorem lent_of_main_ready (ho : session.closed = false) (hm : session.main.isReady = true)
    (unpinned : session.phase ≠ .main) : session.phase = .committedMain := by
  have hp := phase_of_main_ready ho hm
  cases hc : session.committed with
  | false =>
    rw [hc] at hp
    exact absurd hp unpinned
  | true =>
    rw [hc] at hp
    exact hp

theorem phase_of_main_absent (ho : session.closed = false) (hm : session.main = .absent) :
    session.phase = if session.replica.isReady then .replica else .notInitialised := by
  simp only [phase, ho, hm, Slot.isReady, Bool.false_eq_true, ↓reduceIte]

theorem phase_of_emptied (ho : session.closed = false) (hm : session.main = .absent)
    (hr : session.replica = .absent) : session.phase = .notInitialised := by
  rw [phase_of_main_absent ho hm, hr]
  rfl

theorem unlent_of_main_absent (hm : session.main = .absent) : session.phase ≠ .committedMain := by
  intro hp
  obtain ⟨-, hready, -⟩ := (phase_eq_committedMain_iff session).mp hp
  rw [hm] at hready
  cases hready

theorem phase_eq_replica_iff (session : Session) :
    session.phase = .replica ↔
      session.closed = false ∧ session.main = .absent ∧ session.replica.isReady = true := by
  unfold phase
  cases session.closed <;> cases session.main <;> cases session.committed <;>
    cases session.replica.isReady <;> simp [Slot.isReady]

theorem currentHandle_of_replica (h : session.phase = .replica) :
    session.currentHandle = session.hand .replica := by
  unfold currentHandle
  rw [h]
  rfl

theorem currentHandle_of_main (h : session.phase.holdsMain = true) :
    session.currentHandle = session.hand .main := by
  unfold currentHandle
  cases hp : session.phase <;> rw [hp] at h
  case main | committedMain => rfl
  all_goals cases h

theorem phase_of_closed (h : session.closed = true) : session.phase = .closed := by
  simp only [phase, h, ↓reduceIte]

theorem phase_ne_closed (ho : session.closed = false) : session.phase ≠ .closed := by
  unfold phase
  rw [ho]
  cases session.main.isReady <;> cases session.committed <;> cases session.replica.isReady <;> simp

theorem concluded_phase (session : Session) (decision : Decision) (result : Except Fault Handle) :
    (session.concluded decision result).phase = session.phase := by
  cases result <;> rfl

theorem repinned_phase (session : Session) (decision : Decision) (result : Except Fault Handle) :
    (session.repinned decision result).phase = session.phase := by
  cases result with
  | error fault => rfl
  | ok taken =>
    have hm : (session.repinned decision (.ok taken)).main.isReady = session.main.isReady :=
      Slot.isReady_repin session.main decision
    unfold phase
    rw [hm]
    rfl

/-- The phase stays or goes on to a next one, and only a failure empties a session on main. -/
structure Passes (session later : Session) (failed : Prop) : Prop where
  onward : later.phase = session.phase ∨ later.phase ∈ session.phase.successors
  emptied : session.phase = .committedMain → later.phase = .notInitialised → failed

variable {failed : Prop}

theorem Passes.same (h : later.phase = session.phase) : Passes session later failed :=
  ⟨.inl h, fun hs hl => by rw [h, hs] at hl; cases hl⟩

theorem Passes.mono {other : Prop} (h : Passes session later failed) (hf : failed → other) :
    Passes session later other :=
  ⟨h.onward, fun hs hl => hf (h.emptied hs hl)⟩

/-- Any open session may go on to main, unless it is there for good. -/
theorem Passes.to_main (ho : session.closed = false) (unpinned : session.phase ≠ .main)
    (h : later.phase = .main ∨ later.phase = .committedMain) : Passes session later failed := by
  have hc := phase_ne_closed ho
  refine ⟨?_, fun _ hl => ?_⟩
  · cases hp : session.phase with
    | main => exact absurd hp unpinned
    | closed => exact absurd hp hc
    | notInitialised | replica | committedMain =>
      rcases h with h | h <;> simp [h, Phase.successors]
  · rcases h with h | h <;> rw [h] at hl <;> cases hl

theorem Passes.to_closed (ho : session.closed = false) (hl : later.closed = true) :
    Passes session later failed := by
  have hp := phase_of_closed hl
  have hc := phase_ne_closed ho
  refine ⟨.inr ?_, fun _ hn => ?_⟩
  · rw [hp]
    cases hs : session.phase with
    | closed => exact absurd hs hc
    | _ => simp [Phase.successors]
  · rw [hp] at hn
    cases hn

theorem committed_phase (lent : Bool) (hm : session.main = .absent) :
    ({ session with committed := lent } : Session).phase = session.phase := by
  simp only [phase, hm, Slot.isReady, Bool.false_eq_true, ↓reduceIte]

/-- The session has kept its phase, or come to main from somewhere else. -/
def ComesToMain (session later : Session) : Prop :=
  later.phase = session.phase ∨
    session.phase ≠ .main ∧ (later.phase = .main ∨ later.phase = .committedMain)

theorem ComesToMain.passes (h : ComesToMain session later) (ho : session.closed = false) :
    Passes session later failed := by
  rcases h with hp | ⟨unpinned, hp⟩
  · exact .same hp
  · exact .to_main ho unpinned hp

theorem TakesMain.comesToMain {lent : Bool}
    (h : TakesMain { session with committed := lent } decision result later)
    (ho : session.closed = false) (hl : session.phase = .main → lent = false) :
    ComesToMain session later := by
  have hlent : (if lent = true then Phase.committedMain else .main) = .main ∨
      (if lent = true then Phase.committedMain else .main) = .committedMain := by
    cases lent <;> simp
  cases h with
  | refused _ held => exact .inl (committed_phase lent held)
  | @kept handle since _ warnings held =>
    have hr : session.main.isReady = true := by
      have hm : session.main = .ready handle since := held
      rw [hm]
      rfl
    have hp : ({ session with committed := lent, replica := .absent, warnings } : Session).phase =
        if lent then .committedMain else .main := phase_of_main_ready ho hr
    by_cases pinned : session.phase = .main
    · rw [hl pinned] at hp ⊢
      exact .inl (hp.trans pinned.symm)
    · exact .inr ⟨pinned, hp ▸ hlent⟩
  | @opened connection _ warnings held =>
    have hm : session.main = .absent := held
    have hp : ({ session with
        main := .ready (.main connection) decision, committed := lent, replica := .absent,
        warnings } : Session).phase = if lent then .committedMain else .main :=
      phase_of_main_ready ho rfl
    refine .inr ⟨?_, hp ▸ hlent⟩
    rw [phase_of_main_absent ho hm]
    split <;> simp

theorem TakingMain.comesToMain (h : TakingMain session decision result later events)
    (ho : session.closed = false) : ComesToMain session later :=
  -- the flag stays as it is, and it is not set on a session that is on main for good
  TakesMain.comesToMain h.takes ho fun pinned => ((phase_eq_main_iff session).mp pinned).2.2

theorem Pinning.comesToMain (h : Pinning session decision result later events)
    (ho : session.closed = false) : ComesToMain session later := by
  cases h with
  | taken takes =>
    have ht := TakesMain.comesToMain takes.takes ho fun _ => rfl
    unfold ComesToMain
    rw [repinned_phase]
    exact ht

theorem Diverting.comesToMain (h : Diverting session decision result later events)
    (ho : session.closed = false) (unpinned : session.phase ≠ .main) :
    ComesToMain session later := by
  cases h with
  | forGood _ takes => exact takes.comesToMain ho
  | untilCaughtUp _ takes =>
    exact TakesMain.comesToMain takes.takes ho fun hp => absurd hp unpinned

theorem Passes.of_eq {last : Session} (h : Passes session later failed)
    (hp : last.phase = later.phase) : Passes session last failed :=
  ⟨hp ▸ h.onward, fun hs hl => h.emptied hs (hp ▸ hl)⟩

/-- To keep a replica is to go on to it if nothing was held before. -/
theorem Consulting.passes {asked : Except Fault Unit}
    (h : Consulting session decision asked later events) (ho : session.closed = false) :
    Passes session later failed := by
  cases h with
  | idle => exact .same rfl
  | @adopted _ connection _ _ held =>
    by_cases hr : session.main.isReady = true
    · refine .same ?_
      simp only [phase, ho, hr, Bool.false_eq_true, ↓reduceIte]
    · have hm := main_absent_of_unready hr
      have hs : session.phase = .notInitialised := by
        rw [phase_of_main_absent ho hm, held]
        rfl
      have hl : ({ session with replica := .ready (.replica connection) decision } :
          Session).phase = .replica := phase_of_main_absent ho hm
      refine ⟨.inr ?_, fun hc => ?_⟩
      · rw [hl, hs]
        simp [Phase.successors]
      · rw [hs] at hc
        cases hc

/-- Back from main that was lent a session holds a replica, or nothing if taking one failed. -/
theorem passes_back (lent : session.phase = .committedMain) (ho : later.closed = false)
    (hm : later.main = .absent) (hf : later.replica.isReady = true ∨ failed) :
    Passes session later failed := by
  have hp := phase_of_main_absent ho hm
  cases hr : later.replica.isReady with
  | true =>
    have hl : later.phase = .replica := by
      rw [hp, hr]
      rfl
    refine ⟨.inr ?_, fun _ hn => ?_⟩
    · rw [hl, lent]
      simp [Phase.successors]
    · rw [hl] at hn
      cases hn
  | false =>
    have hl : later.phase = .notInitialised := by
      rw [hp, hr]
      rfl
    refine ⟨.inr ?_, fun _ _ => ?_⟩
    · rw [hl, lent]
      simp [Phase.successors]
    · rcases hf with h | h
      · rw [hr] at h
        cases h
      · exact h

theorem main_absent_of_phase (ho : session.closed = false) (unpinned : session.phase ≠ .main)
    (unlent : session.phase ≠ .committedMain) : session.main = .absent := by
  apply main_absent_of_unready
  intro hr
  have hp := phase_of_main_ready ho hr
  cases hc : session.committed <;> rw [hc] at hp
  · exact unpinned hp
  · exact unlent hp

theorem Following.passes (h : Following session decision result later events)
    (ho : session.closed = false) : Passes session later (∃ fault, result = .error fault) := by
  cases h with
  | main takes => exact (takes.comesToMain ho).passes ho
  | withoutReplica unpinned diverts => exact (diverts.comesToMain ho unpinned).passes ho
  | unadopted _ consults => exact consults.passes ho
  | @diverted _ adopted _ _ _ unpinned consults diverts =>
    obtain ⟨hm, hc, hcl, -⟩ := consults.frame
    have hopen : adopted.closed = false := hcl.trans ho
    have hunpinned : adopted.phase ≠ .main := by
      rw [ne_eq, phase_eq_main_iff, hm, hc, hcl, ← phase_eq_main_iff]
      exact unpinned
    rcases diverts.comesToMain hopen hunpinned with hp | ⟨-, hp⟩
    · exact (consults.passes ho).of_eq hp
    · exact .to_main ho unpinned hp
  | @unclosed fault _ _ _ _ consults lent closes =>
    obtain ⟨-, -, hcl, -⟩ := consults.frame
    obtain ⟨warnings, rfl⟩ := closes.later_eq
    exact passes_back lent (hcl.trans ho) rfl (.inr ⟨fault, rfl⟩)
  | returned consults lent closes takes =>
    obtain ⟨-, -, hcl, -⟩ := consults.frame
    obtain ⟨warnings, rfl⟩ := closes.later_eq
    obtain ⟨hm, hc⟩ := takes.frame
    apply passes_back lent (hc.trans (hcl.trans ho)) hm
    rcases takes.ready with hr | ⟨-, -, hf⟩
    · exact .inl hr
    · exact .inr hf
  | stayed unpinned unlent consults takes =>
    obtain ⟨hm, -, hcl, -⟩ := consults.frame
    obtain ⟨hm', hc'⟩ := takes.frame
    have habsent := main_absent_of_phase ho unpinned unlent
    have hs := phase_of_main_absent ho habsent
    have hl := phase_of_main_absent (hc'.trans (hcl.trans ho)) (hm'.trans (hm.trans habsent))
    rcases takes.ready with hr | ⟨rfl, ha, -⟩
    · rw [hr] at hl
      cases hsr : session.replica.isReady with
      | true =>
        rw [hsr] at hs
        exact .same (hl.trans hs.symm)
      | false =>
        rw [hsr] at hs
        refine ⟨.inr ?_, fun hc => absurd hc unlent⟩
        rw [hl, hs]
        simp [Phase.successors]
    · -- nothing was opened, so that nothing was held before
      have hk := consults.kept ha
      rw [hk] at hl ⊢
      exact .same (hl.trans hs.symm)

theorem Ending.passes
    {slot : HandleKind → Session → Except Fault Unit → Session → List Event → Prop}
    (hslot : ∀ kind session result later events, slot kind session result later events →
      later.standing = session.standing)
    {ended : Except Fault Unit} (h : Ending slot session ended later events) :
    Passes session later failed := by
  cases h with
  | again => exact .same rfl
  | ended opened mainEnds replicaEnds =>
    have hm := hslot _ _ _ _ _ mainEnds
    have hr := hslot _ _ _ _ _ replicaEnds
    exact .to_closed opened (congrArg Prod.fst (hr.trans hm))

theorem Reading.passes (h : Reading session result later events) :
    Passes session later (∃ fault, result = .error fault) := by
  cases h with
  | refused => exact .same rfl
  | followed opened settled follows =>
    exact (follows.passes opened).of_eq (concluded_phase _ settled result)

theorem Writing.passes (h : Writing session decision result later events) :
    Passes session later failed := by
  cases h with
  | refused => exact .same rfl
  | pinned opened takes =>
    exact ((takes.comesToMain opened).passes opened).of_eq (concluded_phase _ decision result)

/-- What an operation does to the phase, on any of its courses. -/
theorem Performing.passes {operation : Operation} {answer : Except Fault Answer}
    (h : Performing session operation answer later events) :
    Passes session later
      ((∃ seed, operation = .readHandle seed) ∧ ∃ fault, answer = .error fault) := by
  cases h with
  | read seed reads =>
    apply reads.passes.mono
    rintro ⟨fault, rfl⟩
    exact ⟨⟨seed, rfl⟩, fault, rfl⟩
  | write seed writes => exact writes.passes
  | close ends => exact ends.passes fun _ _ _ _ _ hc => hc.standing
  | abort deadline ends => exact ends.passes fun _ _ _ _ _ ha => ha.standing
  | aside _ _ haside => exact .same (core_phase haside.core)

end Session

end ReplicaRouting
