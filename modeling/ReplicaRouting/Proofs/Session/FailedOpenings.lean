import ReplicaRouting.Proofs.Obliging
import ReplicaRouting.Proofs.Session.Connections
import ReplicaRouting.Proofs.Session.Phases

/-!
What it costs a session when a connection is refused to it. Reads and writes that fail for that
reason leave everything in place, except for a read on the way back from main that was lent: main
has been closed by then.
-/

namespace ReplicaRouting

/-- The last request was a call on a connection, and it failed. -/
def CallFailed (fault : Fault) (events : List Event) : Prop :=
  ∃ connection call, events.getLast? = some (.called connection call (.error fault))

/-- The last request was for a connection of the kind, and it was refused. -/
def Refused (kind : HandleKind) (fault : Fault) (events : List Event) : Prop :=
  events.getLast? = some (.opened kind (.error fault))

instance (kind : HandleKind) (fault : Fault) (events : List Event) :
    Decidable (Refused kind fault events) :=
  inferInstanceAs (Decidable (_ = _))

theorem CallFailed.precede {fault : Fault} {events : List Event} (h : CallFailed fault events)
    (first : List Event) : CallFailed fault (first ++ events) := by
  obtain ⟨connection, call, hl⟩ := h
  refine ⟨connection, call, ?_⟩
  rw [List.getLast?_append, hl]
  rfl

theorem refused_concat (kind : HandleKind) (fault : Fault) (first : List Event) :
    Refused kind fault (first ++ [.opened kind (.error fault)]) :=
  List.getLast?_concat

namespace Session

/-- Whatever was held is still held and has not been ended, and the rest is as it was. All that may
have come about is a replica. -/
structure Costless (session later : Session) (events : List Event) : Prop where
  kept : ∀ kind, (session.slot kind).isReady = true → later.slot kind = session.slot kind
  added : ∀ kind handle, later.hand kind = some handle → session.hand kind = some handle ∨
    kind = .replica ∧ .opened .replica (.ok handle.connection) ∈ events
  unended : ∀ connection call result, .called connection call result ∈ events → call.ends = false
  phase : later.phase = session.phase ∨
    session.phase = .notInitialised ∧ later.phase = .replica ∧
      ∃ connection, .opened .replica (.ok connection) ∈ events
  lastDecision : later.lastDecision = session.lastDecision
  parameters : later.parameters = session.parameters
  warnings : later.warnings = session.warnings

/-- Main has been closed, what it had to report has been saved, and nothing is held. -/
structure LosesMain (session later : Session) (events : List Event) : Prop where
  closed : ∃ main read, session.hand .main = some main ∧
    [.collected main.connection read, .called main.connection .close (.ok ())] <:+: events ∧
    later.warnings = session.warnings.saveAll (Warnings.gathered read)
  phase : later.phase = .notInitialised
  lastDecision : later.lastDecision = session.lastDecision
  parameters : later.parameters = session.parameters

/-- How a read or a write of an open session fails. -/
inductive Fails (session later : Session) (fault : Fault) (events : List Event) : Prop where
  | called (last : CallFailed fault events)
  | refused (kind : HandleKind) (last : Refused kind fault events)
      (unlent : session.phase ≠ .committedMain) (costless : Costless session later events)
  | goingBack (last : Refused .replica fault events) (lent : session.phase = .committedMain)
      (loses : LosesMain session later events)

section Courses

variable {session later : Session} {decision : Decision} {events : List Event}
  {result : Except Fault Handle} {ended : Except Fault Unit} {fault : Fault}

theorem Calling.callFailed {connection : ConnectionId} {calls : List Call}
    (h : Calling connection calls ended events) (hf : ended = .error fault) :
    CallFailed fault events := by
  induction h with
  | done => cases hf
  | failed call =>
    cases hf
    exact ⟨connection, call, rfl⟩
  | next call rest ih => exact (ih hf).precede [.called connection call (.ok ())]

theorem Closing.callFailed {kind : HandleKind} (h : Closing kind session ended later events)
    (hf : ended = .error fault) : CallFailed fault events := by
  cases h with
  | vacant => cases hf
  | @closed handle =>
    rw [hf]
    exact ⟨handle.connection, .close, rfl⟩

theorem Releasing.callFailed {main : Handle} (h : Releasing main session ended later events)
    (hf : ended = .error fault) : CallFailed fault events := by
  cases h with
  | dropped => cases hf
  | closed _ closes => exact closes.callFailed hf

/-- Taking main fails in a call, or main is refused, and then nothing has been done before that. -/
theorem TakingMain.fails (h : TakingMain session decision result later events)
    (hf : result = .error fault) :
    CallFailed fault events ∨
      session.main = .absent ∧ later = session ∧ events = [.opened .main (.error fault)] := by
  cases h with
  | kept _ releases => exact .inl (releases.callFailed (error_of_map hf))
  | refused _ held =>
    cases hf
    exact .inr ⟨held, rfl, rfl⟩
  | @unreleased connection _ _ _ _ releases =>
    cases hf
    exact .inl ((releases.callFailed rfl).precede [.opened .main (.ok connection)])
  | @opened connection _ _ released _ _ _ brings =>
    have hbrings := brings.callFailed (error_of_map hf)
    exact .inl (hbrings.precede (.opened .main (.ok connection) :: released))

theorem Pinning.fails (h : Pinning session decision result later events)
    (hf : result = .error fault) :
    CallFailed fault events ∨ session.main = .absent ∧
      later = { session with committed := false } ∧ events = [.opened .main (.error fault)] := by
  cases h with
  | taken takes =>
    have ht := takes.fails hf
    rw [hf]
    exact ht

theorem Diverting.fails (h : Diverting session decision result later events)
    (hf : result = .error fault) :
    CallFailed fault events ∨ session.main = .absent ∧
      (∃ committed, later = { session with committed }) ∧
      events = [.opened .main (.error fault)] := by
  cases h with
  | forGood _ pins =>
    exact (pins.fails hf).imp_right fun ⟨held, hl, he⟩ => ⟨held, ⟨_, hl⟩, he⟩
  | untilCaughtUp _ takes =>
    exact (takes.fails hf).imp_right fun ⟨held, hl, he⟩ => ⟨held, ⟨_, hl⟩, he⟩

theorem TakingReplica.fails (h : TakingReplica session decision result later events)
    (hf : result = .error fault) :
    CallFailed fault events ∨
      session.replica = .absent ∧ later = session ∧ events = [.opened .replica (.error fault)] := by
  cases h with
  | kept => cases hf
  | refused _ held =>
    cases hf
    exact .inr ⟨held, rfl, rfl⟩
  | @opened connection _ _ _ brings =>
    have hbrings := brings.callFailed (error_of_map hf)
    exact .inl (hbrings.precede [.opened .replica (.ok connection)])

theorem Consulting.callFailed (h : Consulting session decision (.error fault) later events) :
    CallFailed fault events := by
  cases h with
  | @adopted faults connection _ _ _ brings =>
    have hbrings := (brings.callFailed rfl).precede [.opened .replica (.ok connection)]
    exact hbrings.precede (refusals faults)

/-- Without main at hand a refused opening costs nothing, and neither do those that were refused
before it. -/
theorem costless_of_refusals (hm : session.main = .absent) (committed : Bool) (faults : List Fault)
    (kind : HandleKind) (fault : Fault) :
    Costless session { session with committed }
      (refusals faults ++ [.opened kind (.error fault)]) where
  kept other _ := by cases other <;> rfl
  added other _ hh := by cases other <;> exact .inl hh
  unended connection call ended hc := by simp [refusals] at hc
  phase := .inl (committed_phase committed hm)
  lastDecision := rfl
  parameters := rfl
  warnings := rfl

theorem Fails.of_main_refused (hm : session.main = .absent) (committed : Bool) (fault : Fault) :
    Fails session { session with committed } fault [.opened .main (.error fault)] :=
  .refused .main rfl (unlent_of_main_absent hm) (costless_of_refusals hm committed [] .main fault)

/-- Asking the chain costs nothing either, whether a replica is opened for it or not. -/
theorem Consulting.costless (h : Consulting session decision (.ok ()) later events)
    (ho : session.closed = false) (hm : session.main = .absent) (committed : Bool)
    (kind : HandleKind) (fault : Fault) :
    Costless session { later with committed } (events ++ [.opened kind (.error fault)]) := by
  cases h with
  | idle faults => exact costless_of_refusals hm committed faults kind fault
  | @adopted faults connection _ brought held brings =>
    have hmem : .opened .replica (.ok connection) ∈
        refusals faults ++ .opened .replica (.ok connection) :: brought ++
          [.opened kind (.error fault)] := by simp
    refine { kept := ?_, added := ?_, unended := ?_, phase := ?_, lastDecision := rfl,
             parameters := rfl, warnings := rfl }
    · -- the slot of the replica has been filled, and it was empty before
      intro other hready
      cases other with
      | main => rfl
      | replica =>
        have hreplica : session.replica.isReady = true := hready
        rw [held] at hreplica
        cases hreplica
    · intro other handle hh
      cases other with
      | main => exact .inl hh
      | replica =>
        cases hh
        exact .inr ⟨rfl, hmem⟩
    · intro other call ended hc
      have hbrought : .called other call ended ∈ brought := by simpa [refusals] using hc
      have hmild := brings.mild (fun _ => ends_of_mem_calls _) _ hbrought
      simpa [Event.isMild] using hmild
    · have hbefore := phase_of_emptied ho hm held
      have hafter : ({ session with
          replica := .ready (.replica connection) decision, committed } : Session).phase =
            .replica := phase_of_main_absent ho hm
      exact .inr ⟨hbefore, hafter, connection, hmem⟩

/-- Main that was lent is closed on the way back, before a replica is asked for. -/
theorem Closing.losesMain (h : Closing .main session (.ok ()) later events)
    (lent : session.phase = .committedMain) (ho : session.closed = false)
    (hr : session.replica = .absent) (first rest : List Event) :
    LosesMain session { later with committed := false } (first ++ events ++ rest) := by
  cases h with
  | vacant vacant =>
    have habsent : session.main = .absent := (Slot.handle_none_iff _).mp vacant
    exact absurd lent (unlent_of_main_absent habsent)
  | @closed main held read =>
    have hphase : ({ session with main := .absent } : Session).phase = .notInitialised :=
      phase_of_emptied ho rfl hr
    exact ⟨⟨main, read, held, ⟨first, rest, rfl⟩, rfl⟩, hphase, rfl, rfl⟩

/-- A read fails with the fault of its last request. If that was for a connection, the read has cost
nothing, unless it was on the way back to a replica and has closed main. -/
theorem Following.fails (h : Following session decision result later events)
    (ho : session.closed = false) (hf : result = .error fault) :
    Fails session later fault events := by
  cases h with
  | main takes =>
    rcases takes.fails hf with hc | ⟨hm, rfl, rfl⟩
    · exact .called hc
    · exact .of_main_refused hm later.committed fault
  | withoutReplica _ diverts =>
    rcases diverts.fails hf with hc | ⟨hm, ⟨committed, rfl⟩, rfl⟩
    · exact .called hc
    · exact .of_main_refused hm committed fault
  | unadopted _ consults =>
    cases hf
    exact .called consults.callFailed
  | diverted _ consults diverts =>
    rcases diverts.fails hf with hc | ⟨hadopted, ⟨committed, rfl⟩, rfl⟩
    · exact .called (hc.precede _)
    · have hm := consults.frame.1.symm.trans hadopted
      exact .refused .main (refused_concat _ _ _) (unlent_of_main_absent hm)
        (consults.costless ho hm committed .main fault)
  | unclosed _ _ closes =>
    cases hf
    exact .called ((closes.callFailed rfl).precede _)
  | @returned _ adopted _ _ first second _ consults lent closes takes =>
    rcases takes.fails hf with hc | ⟨hreplica, rfl, rfl⟩
    · exact .called ((hc.precede second).precede first)
    · -- nothing was opened to ask the chain, since no replica is there to be taken
      have hadopted : adopted.replica = .absent := by
        obtain ⟨warnings, rfl⟩ := closes.later_eq
        exact hreplica
      obtain rfl : adopted = session := consults.kept hadopted
      rw [← List.append_assoc]
      exact .goingBack (refused_concat _ _ _) lent (closes.losesMain lent ho hadopted first _)
  | @stayed _ adopted _ first _ unpinned unlent consults takes =>
    rcases takes.fails hf with hc | ⟨-, rfl, rfl⟩
    · exact .called (hc.precede first)
    · have hm := main_absent_of_phase ho unpinned unlent
      exact .refused .replica (refused_concat _ _ _) unlent
        (consults.costless ho hm false .replica fault)

/-- Reads and writes of an open session fail with the fault of their last request. -/
theorem Performing.fails {operation : Operation} {answer : Except Fault Answer}
    (h : Performing session operation answer later events) (ho : session.closed = false)
    (routed : (∃ seed, operation = .readHandle seed) ∨ ∃ seed, operation = .writeHandle seed)
    (hf : answer = .error fault) : Fails session later fault events := by
  cases h with
  | @read result _ _ _ reads =>
    cases reads with
    | refused closed => cases ho.symm.trans closed
    | followed _ _ follows =>
      obtain rfl : result = .error fault := error_of_map hf
      exact follows.fails ho rfl
  | @write result _ _ _ writes =>
    cases writes with
    | refused closed => cases ho.symm.trans closed
    | pinned _ pins =>
      obtain rfl : result = .error fault := error_of_map hf
      rcases pins.fails rfl with hc | ⟨hm, rfl, rfl⟩
      · exact .called hc
      · exact .of_main_refused hm false fault
  | close | abort => simp at routed
  | aside isAside => rcases routed with ⟨_, rfl⟩ | ⟨_, rfl⟩ <;> cases isAside

end Courses

section Turns

variable {σ : Type}

/-- A read or a write of an open session that fails does so with the fault of its last request. If
that was for a connection which was refused, the operation has cost nothing, unless main had been
lent to the session: then the request was for a replica, and main has been closed before it. -/
theorem refused_opening_costs_nothing_unless_lent (among : Collaborators σ) {session : Session}
    {turn : Turn σ} {fault : Fault} (opened : session.closed = false)
    (routed : (∃ seed, turn.operation = .readHandle seed) ∨
      ∃ seed, turn.operation = .writeHandle seed)
    (failed : session.answer among turn = .error fault) :
    let later := session.after among turn
    let events := entries among.watched session turn
    (CallFailed fault events ∨ ∃ kind, Refused kind fault events) ∧
    ∀ kind refused, Refused kind refused events → refused = fault ∧
      (session.phase ≠ .committedMain → Costless session later events) ∧
      (session.phase = .committedMain → kind = .replica ∧ LosesMain session later events) := by
  intro later events
  have hfails : Fails session later fault events :=
    (turn_performing among session turn).fails opened routed failed
  have hsame {kind other : HandleKind} {refused : Fault} (hr : Refused kind refused events)
      (last : Refused other fault events) : kind = other ∧ refused = fault := by
    cases hr.symm.trans last
    exact ⟨rfl, rfl⟩
  cases hfails with
  | called last =>
    refine ⟨.inl last, fun kind refused hr => ?_⟩
    obtain ⟨connection, call, hlast⟩ := last
    cases hr.symm.trans hlast
  | refused other last unlent costless =>
    refine ⟨.inr ⟨other, last⟩, fun kind refused hr => ⟨(hsame hr last).2, fun _ => costless, ?_⟩⟩
    exact fun lent => absurd lent unlent
  | goingBack last lent loses =>
    refine ⟨.inr ⟨.replica, last⟩, fun kind refused hr => ⟨(hsame hr last).2, ?_, ?_⟩⟩
    · exact fun unlent => absurd lent unlent
    · exact fun _ => ⟨(hsame hr last).1, loses⟩

/-- A deployment in which main cannot be reached. -/
def unreachableMain : Deployment Bool :=
  { Deployment.obliging with
    database := { Database.obliging Bool with
      openMain := fun world => (.error (.creationFailed .main "refused"), world) } }

/-- The replica lags behind and main is refused. The replica that was opened to find that out is
kept. -/
theorem lagging_replica_kept_without_main :
    let among := unreachableMain.collaborators
    let session : Session := { id := "a" }
    let turn : Turn Bool := ⟨.readHandle (.read "SELECT 1"), false⟩
    session.answer among turn = .error (.creationFailed .main "refused") ∧
      (session.after among turn).hand .replica = some (.replica ⟨1⟩) ∧
      Costless session (session.after among turn) (entries among.watched session turn) := by
  intro among session turn
  have hf : session.answer among turn = .error (.creationFailed .main "refused") := by
    decide +kernel
  have hr : Refused .main (.creationFailed .main "refused") (entries among.watched session turn) := by
    decide +kernel
  have hheld : (session.after among turn).hand .replica = some (.replica ⟨1⟩) := by decide +kernel
  obtain ⟨-, hall⟩ := refused_opening_costs_nothing_unless_lent among rfl (.inl ⟨_, rfl⟩) hf
  obtain ⟨-, hcostless, -⟩ := hall _ _ hr
  exact ⟨hf, hheld, hcostless (by decide)⟩

/-- A deployment in which no replica can be reached. -/
def unreachableReplica : Deployment Bool :=
  { Deployment.obliging with
    database := { Database.obliging Bool with
      openReplica := fun world => (.error (.creationFailed .replica "refused"), world) } }

/-- Main is lent as the replica lags behind. Once it has caught up it is refused, and main is gone.
-/
theorem lent_main_lost_to_refused_replica :
    let among := unreachableReplica.collaborators
    let session := run among [⟨.readHandle (.read "SELECT 1"), false⟩] { id := "a" }
    let turn : Turn Bool := ⟨.readHandle (.read "SELECT 1"), true⟩
    let later := session.after among turn
    let events := entries among.watched session turn
    session.answer among turn = .error (.creationFailed .replica "refused") ∧
      Refused .replica (.creationFailed .replica "refused") events ∧
      session.hand .main = some (.main ⟨0⟩) ∧ later.hand .main = none ∧
      .called ⟨0⟩ .close (.ok ()) ∈ events ∧
      session.phase = .committedMain ∧ later.phase = .notInitialised := by
  decide +kernel

end Turns

end Session

end ReplicaRouting
