import ReplicaRouting.Proofs.Session.ClosedHandles
import ReplicaRouting.Proofs.Session.Unfinished

/-!
What a session holds between operations. Its phase tells which handles it holds, with one exception:
a replica that was opened to ask the chain and could not be brought in line stays beside main that
is lent.
-/

namespace ReplicaRouting

/-- The handles that go with a phase. -/
def Phase.holds : Phase → HandleKind → Bool
  | replica, .replica => true
  | main, .main | committedMain, .main => true
  | _, _ => false

namespace Session

/-- Main and a replica are held side by side. -/
structure HoldsBoth (session : Session) : Prop where
  main : session.main.isReady = true
  replica : session.replica.isReady = true

/-- A session to which main is lent opens a replica and fails before anything is closed. -/
structure Strands (session : Session) (failed : Prop) (events : List Event) : Prop where
  lent : session.phase = .committedMain
  fails : failed
  opened : ∃ connection, .opened .replica (.ok connection) ∈ events
  unclosed : ∀ connection, wasClosed connection events = false

section Courses

variable {session later : Session} {decision : Decision} {events : List Event}
  {result : Except Fault Handle} {ended : Except Fault Unit} {failed : Prop}

theorem hand_of_ready {kind : HandleKind} (h : (session.slot kind).isReady = true) :
    ∃ handle, session.hand kind = some handle := by
  cases hs : session.slot kind with
  | absent =>
    rw [hs] at h
    cases h
  | ready handle since => exact ⟨handle, by rw [hand, hs]; rfl⟩

theorem HoldsBoth.of_core (h : session.HoldsBoth) (hc : later.core = session.core) :
    later.HoldsBoth := by
  obtain ⟨hm, hr, -⟩ := eq_of_core hc
  exact ⟨by rw [hm]; exact h.main, by rw [hr]; exact h.replica⟩

theorem HoldsBoth.hands (h : session.HoldsBoth) :
    (∃ main, session.hand .main = some main) ∧ ∃ replica, session.hand .replica = some replica :=
  ⟨hand_of_ready h.main, hand_of_ready h.replica⟩

theorem not_holdsBoth_of_main_absent (h : session.main = .absent) : ¬session.HoldsBoth := by
  intro hb
  have hready := hb.main
  rw [h] at hready
  cases hready

theorem not_holdsBoth_of_alone
    (h : ∀ main, session.hand .main = some main → session.hand .replica = none) :
    ¬session.HoldsBoth := by
  intro hb
  obtain ⟨⟨main, hm⟩, replica, hr⟩ := hb.hands
  cases (h main hm).symm.trans hr

theorem not_holdsBoth_of_noHands (h : session.hand = noHands) : ¬session.HoldsBoth :=
  not_holdsBoth_of_alone fun _ _ => by rw [h]; rfl

theorem main_of_lent (h : session.phase = .committedMain) :
    session.closed = false ∧ ∃ main, session.hand .main = some main := by
  obtain ⟨hopen, hready, -⟩ := (phase_eq_committedMain_iff session).mp h
  exact ⟨hopen, hand_of_ready hready⟩

theorem not_strands_of_unopened (h : Unopened .replica events) : ¬Strands session failed events := by
  intro hs
  obtain ⟨connection, hmem⟩ := hs.opened
  have hopens : Event.opens .replica (.opened .replica (.ok connection)) = true := by
    simp [Event.opens]
  rw [h _ hmem] at hopens
  cases hopens

theorem not_strands_of_closed (connection : ConnectionId)
    (h : wasClosed connection events = true) : ¬Strands session failed events := by
  intro hs
  rw [hs.unclosed connection] at h
  cases h

/-- With main at hand nothing else can fail than closing the replica. -/
theorem TakingMain.wasClosed {main replica : Handle} {fault : Fault}
    (h : TakingMain session decision result later events) (hm : session.hand .main = some main)
    (hr : session.hand .replica = some replica) (hf : result = .error fault) :
    wasClosed replica.connection events = true := by
  cases h with
  | kept held releases =>
    cases releases with
    | dropped => cases hf
    | closed _ closes => exact closes.wasClosed hr
  | refused _ held | unreleased held | opened held =>
    have hnone : session.hand .main = none := hand_of_absent held
    cases hnone.symm.trans hm

theorem Diverting.wasClosed {main replica : Handle} {fault : Fault}
    (h : Diverting session decision result later events) (hm : session.hand .main = some main)
    (hr : session.hand .replica = some replica) (hf : result = .error fault) :
    wasClosed replica.connection events = true := by
  cases h with
  | forGood _ pins =>
    cases pins with
    | taken takes => exact takes.wasClosed hm hr hf
  | untilCaughtUp _ takes => exact takes.wasClosed hm hr hf

/-- A replica that is opened to ask the chain is held from then on. -/
theorem Consulting.replica_of_opened {connection : ConnectionId}
    (h : Consulting session decision ended later events)
    (ho : .opened .replica (.ok connection) ∈ events) :
    ∃ replica, later.hand .replica = some replica := by
  cases h with
  | idle faults =>
    have hmild := refusals_mild faults _ ho
    cases hmild
  | adopted => exact ⟨_, rfl⟩

/-- Asking the chain closes nothing. -/
theorem Consulting.unclosed (h : Consulting session decision ended later events)
    (connection : ConnectionId) : wasClosed connection events = false := by
  cases h with
  | idle faults => exact wasClosed_of_mild connection (refusals_mild faults)
  | @adopted faults fresh _ brought _ brings =>
    have hbrought := wasClosed_of_mild connection (brings.mild fun _ => ends_of_mem_calls _)
    have hopened : ReplicaRouting.wasClosed connection (.opened .replica (.ok fresh) :: brought) =
        ReplicaRouting.wasClosed connection brought := rfl
    rw [wasClosed_append, wasClosed_of_mild connection (refusals_mild faults), hopened, hbrought]
    rfl

/-- Where asking the chain fails, the replica that was opened stays beside main that was lent. -/
theorem Consulting.holdsBoth_iff {fault : Fault}
    (h : Consulting session decision (.error fault) later events) (ho : session.closed = false)
    (unpinned : session.phase ≠ .main) (hf : failed) :
    later.HoldsBoth ↔ Strands session failed events := by
  have hunclosed := h.unclosed
  cases h with
  | @adopted faults connection =>
    constructor
    · intro hb
      have hl := lent_of_main_ready ho hb.main unpinned
      exact ⟨hl, hf, ⟨connection, by simp⟩, hunclosed⟩
    · intro hs
      obtain ⟨-, hready, -⟩ := (phase_eq_committedMain_iff session).mp hs.lent
      exact ⟨hready, rfl⟩

/-- On the way to main the replica that was opened to ask the chain is given up again, and if that
fails it has been closed all the same. -/
theorem Diverting.not_strands {adopted : Session} {first : List Event}
    (h : Diverting adopted decision result later events)
    (consults : Consulting session decision (.ok ()) adopted first) :
    ¬Strands session (∃ fault, result = .error fault) (first ++ events) := by
  intro hs
  obtain ⟨-, main, hm⟩ := main_of_lent hs.lent
  obtain ⟨fault, hf⟩ := hs.fails
  obtain ⟨connection, hmem⟩ := hs.opened
  rcases List.mem_append.mp hmem with hfirst | hlater
  · obtain ⟨replica, hr⟩ := consults.replica_of_opened hfirst
    have hclosed := h.wasClosed (consults.hand_main.trans hm) hr hf
    have hunclosed := hs.unclosed replica.connection
    rw [wasClosed_append, hclosed, Bool.or_true] at hunclosed
    cases hunclosed
  · -- nothing but main is opened once the chain has been asked
    have hunopened := h.unasked.unopened _ hlater
    cases hunopened

/-- Back from main that was lent, main has been closed, so that nothing is stranded. -/
theorem Closing.not_strands {adopted : Session} {first : List Event}
    (h : Closing .main adopted ended later events) (lent : session.phase = .committedMain)
    (consults : Consulting session decision (.ok ()) adopted first) (rest : List Event) :
    ¬Strands session failed (first ++ (events ++ rest)) := by
  obtain ⟨-, main, hm⟩ := main_of_lent lent
  have hclosed := h.wasClosed (consults.hand_main.trans hm)
  apply not_strands_of_closed main.connection
  rw [wasClosed_append, wasClosed_append, hclosed, Bool.true_or, Bool.or_true]

/-- A read leaves main and a replica side by side if and only if it strands the replica that it has
opened. -/
theorem Following.holdsBoth_iff (h : Following session decision result later events)
    (ho : session.closed = false) :
    later.HoldsBoth ↔ Strands session (∃ fault, result = .error fault) events := by
  -- on all courses but one neither side of the equivalence holds
  cases h with
  | main takes =>
    exact iff_of_false (not_holdsBoth_of_alone fun _ => takes.alone)
      (not_strands_of_unopened takes.unasked.unopened)
  | withoutReplica _ diverts =>
    exact iff_of_false (not_holdsBoth_of_alone fun _ => diverts.alone)
      (not_strands_of_unopened diverts.unasked.unopened)
  | @unadopted fault _ _ unpinned consults => exact consults.holdsBoth_iff ho unpinned ⟨fault, rfl⟩
  | diverted _ consults diverts =>
    exact iff_of_false (not_holdsBoth_of_alone fun _ => diverts.alone)
      (diverts.not_strands consults)
  | @unclosed _ _ _ _ second consults lent closes =>
    refine iff_of_false ?_ ?_
    · obtain ⟨warnings, rfl⟩ := closes.later_eq
      exact not_holdsBoth_of_main_absent rfl
    · rw [← List.append_nil second]
      exact closes.not_strands lent consults []
  | returned consults lent closes takes =>
    refine iff_of_false ?_ (closes.not_strands lent consults _)
    obtain ⟨warnings, rfl⟩ := closes.later_eq
    exact not_holdsBoth_of_main_absent takes.frame.1
  | stayed unpinned unlent consults takes =>
    have habsent := main_absent_of_phase ho unpinned unlent
    exact iff_of_false
      (not_holdsBoth_of_main_absent (takes.frame.1.trans (consults.frame.1.trans habsent)))
      fun hs => unlent hs.lent

theorem holdsBoth_concluded_iff (session : Session) (decision : Decision)
    (result : Except Fault Handle) :
    (session.concluded decision result).HoldsBoth ↔ session.HoldsBoth := by
  cases result <;> exact ⟨fun h => ⟨h.main, h.replica⟩, fun h => ⟨h.main, h.replica⟩⟩

theorem exists_error_map_iff {α β : Type} {f : α → β} (result : Except Fault α) :
    (∃ fault, result.map f = .error fault) ↔ ∃ fault, result = .error fault :=
  ⟨fun ⟨fault, hf⟩ => ⟨fault, error_of_map hf⟩, error_map⟩

theorem not_aside_or_strands {operation : Operation} {kept : Prop}
    (hmoves : operation.isAside = false) (h : Unopened .replica events) :
    ¬(operation.isAside = true ∧ kept ∨ Strands session failed events) := by
  rintro (⟨haside, -⟩ | hs)
  · rw [hmoves] at haside
    cases haside
  · exact not_strands_of_unopened h hs

/-- What an operation leaves side by side was so before, and it has left the handles alone, or it
has stranded a replica. -/
theorem Performing.holdsBoth_iff {operation : Operation} {answer : Except Fault Answer}
    (ht : Tidy session) (h : Performing session operation answer later events) :
    later.HoldsBoth ↔ operation.isAside = true ∧ session.HoldsBoth ∨
      Strands session (∃ fault, answer = .error fault) events := by
  obtain ⟨htidy, hend⟩ := h.tidy ht
  cases h with
  | read seed reads =>
    rw [exists_error_map_iff]
    cases reads with
    | refused closed =>
      exact iff_of_false (not_holdsBoth_of_noHands (ht closed)) (not_aside_or_strands rfl .nil)
    | followed opened settled follows =>
      rw [holdsBoth_concluded_iff, follows.holdsBoth_iff opened]
      simp [Operation.isAside]
  | write seed writes =>
    cases writes with
    | refused closed =>
      exact iff_of_false (not_holdsBoth_of_noHands (ht closed)) (not_aside_or_strands rfl .nil)
    | pinned _ pins =>
      rw [holdsBoth_concluded_iff]
      exact iff_of_false (not_holdsBoth_of_alone fun _ => pins.alone)
        (not_aside_or_strands rfl pins.unasked.unopened)
  | close ends =>
    have hunopened : Unopened .replica events := (ends.unasked fun h => h.unasked).unopened
    have hnone := htidy (hend (.inr rfl))
    exact iff_of_false (not_holdsBoth_of_noHands hnone) (not_aside_or_strands rfl hunopened)
  | abort deadline ends =>
    have hunopened : Unopened .replica events := (ends.unasked fun h => h.unasked).unopened
    have hnone := htidy (hend (.inr rfl))
    exact iff_of_false (not_holdsBoth_of_noHands hnone) (not_aside_or_strands rfl hunopened)
  | aside isAside _ haside =>
    have hs : ¬Strands session (∃ fault, answer = .error fault) events :=
      not_strands_of_unopened (.of_mild haside.mild)
    -- nothing was opened, so that only what was held before counts
    rw [or_iff_left hs, and_iff_right isAside]
    exact ⟨fun hb => hb.of_core haside.core.symm, fun hb => hb.of_core haside.core⟩

/-- The phase tells what is held, but for a replica beside main. -/
theorem ready_iff_holds_or_both (ht : Tidy session) (kind : HandleKind) :
    (session.slot kind).isReady = true ↔
      session.phase.holds kind = true ∨ kind = .replica ∧ session.HoldsBoth := by
  cases ho : session.closed with
  | true =>
    have hnone := ht ho
    refine iff_of_false (fun hready => ?_) ?_
    · obtain ⟨handle, hh⟩ := hand_of_ready hready
      rw [hnone] at hh
      cases hh
    · rw [phase_of_closed ho]
      rintro (⟨⟨⟩⟩ | ⟨-, hb⟩)
      exact not_holdsBoth_of_noHands hnone hb
  | false =>
    -- the phase names main as soon as that is held, whether or not there is a replica as well
    by_cases hm : session.main.isReady = true
    · have hp := phase_of_main_ready ho hm
      have hmain : session.phase.holds .main = true ∧ session.phase.holds .replica = false := by
        cases hc : session.committed <;> rw [hp, hc] <;> exact ⟨rfl, rfl⟩
      cases kind with
      | main => exact iff_of_true hm (.inl hmain.1)
      | replica =>
        rw [hmain.2]
        exact ⟨fun hr => .inr ⟨rfl, hm, hr⟩, fun h => (h.resolve_left (by simp)).2.replica⟩
    · have habsent := main_absent_of_unready hm
      have hp := phase_of_main_absent ho habsent
      have hnot := not_holdsBoth_of_main_absent habsent
      cases kind with
      | main =>
        refine iff_of_false hm ?_
        cases hr : session.replica.isReady <;> rw [hp, hr] <;> simp [Phase.holds]
      | replica =>
        rw [or_iff_left fun h => hnot h.2, hp]
        change session.replica.isReady = true ↔ _
        cases session.replica.isReady <;> simp [Phase.holds]

/-- Only lent main has a replica beside it. -/
theorem HoldsBoth.phase (h : session.HoldsBoth) (hs : Sound session)
    (ho : session.closed = false) : session.phase = .committedMain := by
  rw [phase_of_main_ready ho h.main]
  cases hc : session.committed with
  | true => rfl
  | false =>
    have hready := h.replica
    rw [hs.alone h.main hc] at hready
    cases hready

/-- The handle in use is the only one that is held, unless there are both. -/
theorem held_current_iff (hs : Sound session) (ht : Tidy session) :
    (∀ kind handle, session.hand kind = some handle → session.currentHandle = some handle) ↔
      ¬session.HoldsBoth := by
  constructor
  · intro hcurrent hb
    obtain ⟨⟨main, hm⟩, replica, hr⟩ := hb.hands
    -- one and the same handle cannot be of both kinds
    have heq : main = replica :=
      Option.some.inj ((hcurrent .main main hm).symm.trans (hcurrent .replica replica hr))
    have hkind := hs.main_kind main hm
    rw [heq, hs.replica_kind replica hr] at hkind
    cases hkind
  · intro hnot kind handle hh
    rcases currentHandle_or_beside (ht.open_of_held hh) hh with hcurrent | ⟨rfl, main, hm⟩
    · exact hcurrent
    · exact absurd ⟨hand_ready hm, hand_ready hh⟩ hnot

end Courses

section Runs

variable {σ : Type} {among : Collaborators σ}

/-- In some turn a replica was stranded, and since then the handles have been left alone. -/
def LeftBeside (among : Collaborators σ) (turns : List (Turn σ)) (session : Session) : Prop :=
  ∃ earlier turn later, turns = earlier ++ turn :: later ∧
    let before := run among earlier session
    Strands before (∃ fault, before.answer among turn = .error fault)
      (entries among.watched before turn) ∧
    ∀ next ∈ later, next.operation.isAside = true

theorem leftBeside_concat_iff (turns : List (Turn σ)) (turn : Turn σ) (session : Session) :
    LeftBeside among (turns ++ [turn]) session ↔
      turn.operation.isAside = true ∧ LeftBeside among turns session ∨
        Strands (run among turns session)
          (∃ fault, (run among turns session).answer among turn = .error fault)
          (entries among.watched (run among turns session) turn) := by
  -- the last turn is the one that has stranded a replica, or has come after it
  refine (exists_split_concat_iff turns turn).trans (or_congr ?_ (and_iff_left (by simp)))
  simp only [List.forall_mem_append, List.forall_mem_singleton]
  constructor
  · rintro ⟨earlier, stranding, later, heq, hs, hl, ha⟩
    exact ⟨ha, earlier, stranding, later, heq, hs, hl⟩
  · rintro ⟨ha, earlier, stranding, later, heq, hs, hl⟩
    exact ⟨earlier, stranding, later, heq, hs, hl, ha⟩

/-- After a run main and a replica are held side by side if and only if the replica was left
there. -/
theorem run_holdsBoth_iff (turns : List (Turn σ)) {session : Session}
    (hnone : session.hand = noHands) :
    (run among turns session).HoldsBoth ↔ LeftBeside among turns session := by
  have ht : Tidy session := fun _ => hnone
  -- from the end, since what is stranded stays until the handles are next moved about
  induction turns using List.reverseRecOn with
  | nil =>
    refine iff_of_false (not_holdsBoth_of_noHands hnone) ?_
    rintro ⟨earlier, turn, later, heq, -⟩
    simp at heq
  | append_singleton turns turn ih =>
    have htidy := (run_tidy among turns ht).1
    have hp := turn_performing among (run among turns session) turn
    rw [run_concat, leftBeside_concat_iff, hp.holdsBoth_iff htidy]
    exact or_congr_left (and_congr_right fun _ => ih)

/-- In every run a session holds the handles that go with its phase and no others, except for a
replica beside lent main, which a turn has left there that opened it, failed and closed nothing.
Just then not every handle that is held is the one in use. -/
theorem slots_follow_phase_unless_left_beside (among : Collaborators σ) (turns : List (Turn σ))
    (id : String) :
    let session := run among turns { id }
    (∀ kind, (session.slot kind).isReady = true ↔
      session.phase.holds kind = true ∨ kind = .replica ∧ LeftBeside among turns { id }) ∧
    (LeftBeside among turns { id } → session.phase = .committedMain) ∧
    ((∀ kind handle, session.hand kind = some handle → session.currentHandle = some handle) ↔
      ¬LeftBeside among turns { id }) := by
  intro session
  have hnone : ({ id } : Session).hand = noHands := hand_emptied ⟨rfl, rfl⟩
  have htidy : Tidy session := (run_tidy among turns fun _ => hnone).1
  have hsound : Sound session := ((Reachable.fresh id).run among turns).sound
  rw [← run_holdsBoth_iff turns hnone]
  refine ⟨ready_iff_holds_or_both htidy, fun hb => ?_, held_current_iff hsound htidy⟩
  obtain ⟨⟨main, hm⟩, -⟩ := hb.hands
  exact hb.phase hsound (htidy.open_of_held hm)

/-- A deployment whose replica refuses a statement. -/
def refusingReplica : Deployment Bool :=
  { Deployment.obliging with
    database := { Database.obliging Bool with
      call := fun connection call world =>
        if connection = ⟨1⟩ ∧ call = .execute "SET search_path TO app" then
          (.error (.operationFailed .replica "execute" "refused"), world)
        else (.ok (), world) } }

/-- While main is lent a statement is set on it that the replica refuses. The replica stays beside
main, and what is set next does not reach it. -/
theorem replica_left_beside_main :
    let among := refusingReplica.collaborators
    let turns : List (Turn Bool) :=
      [⟨.readHandle (.read "SELECT 1"), false⟩, ⟨.applySetStatement "SET search_path TO app", false⟩,
        ⟨.readHandle (.read "SELECT 1"), false⟩]
    let session := run among turns { id := "a" }
    session.hand .main = some (.main ⟨0⟩) ∧ session.hand .replica = some (.replica ⟨1⟩) ∧
      LeftBeside among turns { id := "a" } ∧
      entries among.watched session ⟨.setAutoCommit false, false⟩ =
        [.called ⟨0⟩ (.setAutoCommit false) (.ok ())] := by
  intro among turns session
  have hm : session.hand .main = some (.main ⟨0⟩) := by decide +kernel
  have hr : session.hand .replica = some (.replica ⟨1⟩) := by decide +kernel
  have hp : session.phase.holds .replica = false := by decide +kernel
  have hset : entries among.watched session ⟨.setAutoCommit false, false⟩ =
      [.called ⟨0⟩ (.setAutoCommit false) (.ok ())] := by decide +kernel
  refine ⟨hm, hr, ?_, hset⟩
  obtain ⟨hslots, -⟩ := slots_follow_phase_unless_left_beside among turns "a"
  rcases (hslots .replica).mp (hand_ready hr) with hheld | ⟨-, hb⟩
  · rw [hp] at hheld
    cases hheld
  · exact hb

end Runs

end Session

end ReplicaRouting
