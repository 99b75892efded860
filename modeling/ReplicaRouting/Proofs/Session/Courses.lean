import ReplicaRouting.Proofs.Session.Account

/-!
The courses of operations, with the requests to the database that go with them. Each relation says
how a session comes out of what it does: with which result, holding what, and after which requests
with which results. What the collaborators answer is left open. That every operation takes one of
its courses is shown where the code is walked through.
-/

namespace ReplicaRouting

/-- The calls that bring a fresh handle in line, in order. -/
def Parameters.calls (parameters : Parameters) : List Call :=
  parameters.settingCalls ++ parameters.setStatements.map .execute

/-- What is saved of the warnings of a handle. -/
def Warnings.gathered : Except Fault (List Warning) → List Warning
  | .ok warnings => warnings
  | .error fault => [{ message := fault.message }]

/-- Requests by which no connection is obtained or ended. -/
def Event.isMild : Event → Bool
  | .opened _ (.ok _) => false
  | .called _ call _ => !call.ends
  | _ => true

/-- Requests on a connection that is at hand, by which it is not ended. -/
def Event.isCall : Event → Bool
  | .called _ call _ => !call.ends
  | .collected .. => true
  | _ => false

namespace Session

/-- The handle held of a kind. -/
def hand (session : Session) (kind : HandleKind) : Option Handle := (session.slot kind).handle?

/-- Calls on a connection, up to the first that fails. -/
inductive Calling (connection : ConnectionId) :
    List Call → Except Fault Unit → List Event → Prop where
  | done : Calling connection [] (.ok ()) []
  | failed (call : Call) (calls : List Call) (fault : Fault) :
    Calling connection (call :: calls) (.error fault) [.called connection call (.error fault)]
  | next (call : Call) {calls : List Call} {result : Except Fault Unit} {events : List Event}
      (rest : Calling connection calls result events) :
    Calling connection (call :: calls) result (.called connection call (.ok ()) :: events)

/-- Closing the handle of a kind. -/
inductive Closing (kind : HandleKind) (session : Session) :
    Except Fault Unit → Session → List Event → Prop where
  | vacant (held : session.hand kind = none) : Closing kind session (.ok ()) session []
  | closed {handle : Handle} (held : session.hand kind = some handle)
      (read : Except Fault (List Warning)) (result : Except Fault Unit) :
    Closing kind session result
      { session.without kind with warnings := session.warnings.saveAll (Warnings.gathered read) }
      [.collected handle.connection read, .called handle.connection .close result]

/-- Aborting what runs on the handle of a kind. -/
inductive Aborting (deadline : Span) (kind : HandleKind) (session : Session) :
    Except Fault Unit → Session → List Event → Prop where
  | vacant (held : session.hand kind = none) : Aborting deadline kind session (.ok ()) session []
  | aborted {handle : Handle} (held : session.hand kind = some handle)
      (result : Except Fault Unit) :
    Aborting deadline kind session result (session.without kind)
      [.called handle.connection (.abort deadline) result]

/-- Parting with the replica when main is held. -/
inductive Releasing (main : Handle) (session : Session) :
    Except Fault Unit → Session → List Event → Prop where
  | dropped {replica : Handle} (held : session.hand .replica = some replica)
      (shared : replica.connection = main.connection) :
    Releasing main session (.ok ()) (session.without .replica) []
  | closed {result : Except Fault Unit} {later : Session} {events : List Event}
      (apart : ∀ replica, session.hand .replica = some replica →
        replica.connection ≠ main.connection)
      (closes : Closing .replica session result later events) :
    Releasing main session result later events

/-- Taking the main handle. -/
inductive TakingMain (session : Session) (decision : Decision) :
    Except Fault Handle → Session → List Event → Prop where
  | kept {handle : Handle} {since : Decision} {result : Except Fault Unit} {later : Session}
      {events : List Event} (held : session.main = .ready handle since)
      (releases : Releasing handle session result later events) :
    TakingMain session decision (result.map fun _ => handle) later events
  | refused (fault : Fault) (held : session.main = .absent) :
    TakingMain session decision (.error fault) session [.opened .main (.error fault)]
  | unreleased {connection : ConnectionId} {fault : Fault} {later : Session}
      {events : List Event} (held : session.main = .absent)
      (releases : Releasing (.main connection)
        { session with main := .ready (.main connection) decision } (.error fault) later events) :
    TakingMain session decision (.error fault) later (.opened .main (.ok connection) :: events)
  | opened {connection : ConnectionId} {result : Except Fault Unit} {later : Session}
      {released brought : List Event} (held : session.main = .absent)
      (releases : Releasing (.main connection)
        { session with main := .ready (.main connection) decision } (.ok ()) later released)
      (brings : Calling connection session.parameters.calls result brought) :
    TakingMain session decision (result.map fun _ => .main connection) later
      (.opened .main (.ok connection) :: (released ++ brought))

/-- Taking the main handle for good. -/
inductive Pinning (session : Session) (decision : Decision) :
    Except Fault Handle → Session → List Event → Prop where
  | taken {result : Except Fault Handle} {later : Session} {events : List Event}
      (takes : TakingMain { session with committed := false } decision result later events) :
    Pinning session decision result (later.repinned decision result) events

/-- Taking the main handle because the decision of an operation says so. -/
inductive Diverting (session : Session) (decision : Decision) :
    Except Fault Handle → Session → List Event → Prop where
  | forGood {result : Except Fault Handle} {later : Session} {events : List Event}
      (pins : decision.pinsMain = true) (takes : Pinning session decision result later events) :
    Diverting session decision result later events
  | untilCaughtUp {result : Except Fault Handle} {later : Session} {events : List Event}
      (pins : decision.pinsMain = false)
      (takes : TakingMain { session with committed := true } decision result later events) :
    Diverting session decision result later events

/-- Taking the replica handle. -/
inductive TakingReplica (session : Session) (decision : Decision) :
    Except Fault Handle → Session → List Event → Prop where
  | kept {handle : Handle} {since : Decision} (held : session.replica = .ready handle since) :
    TakingReplica session decision (.ok handle) session []
  | refused (fault : Fault) (held : session.replica = .absent) :
    TakingReplica session decision (.error fault) session [.opened .replica (.error fault)]
  | opened {connection : ConnectionId} {result : Except Fault Unit} {brought : List Event}
      (held : session.replica = .absent)
      (brings : Calling connection session.parameters.calls result brought) :
    TakingReplica session decision (result.map fun _ => .replica connection)
      { session with replica := .ready (.replica connection) decision }
      (.opened .replica (.ok connection) :: brought)

/-- Openings of a replica that failed. -/
def refusals (faults : List Fault) : List Event :=
  faults.map fun fault => .opened .replica (.error fault)

/-- What is at hand once the chain has been asked, and the openings on the way. -/
inductive Supplying (held : Option Handle) : Option Handle → List Event → Prop where
  | idle (faults : List Fault) : Supplying held held (refusals faults)
  | opened (faults : List Fault) (connection : ConnectionId) (vacant : held = none) :
    Supplying held (some (.replica connection))
      (refusals faults ++ [.opened .replica (.ok connection)])

/-- Settling the route of a read. -/
inductive Choosing (session : Session) : Route → List Event → Prop where
  | main : Choosing session .main []
  | withoutReplica (unpinned : session.phase ≠ .main) : Choosing session .withoutReplica []
  | byChain {opened : Option Handle} {events : List Event} (unpinned : session.phase ≠ .main)
      (supplies : Supplying (session.hand .replica) opened events) :
    Choosing session (.byChain opened) events

/-- Asking the chain with a replica at hand, and keeping the one that was opened for that. -/
inductive Consulting (session : Session) (decision : Decision) :
    Except Fault Unit → Session → List Event → Prop where
  | idle (faults : List Fault) : Consulting session decision (.ok ()) session (refusals faults)
  | adopted (faults : List Fault) {connection : ConnectionId} {result : Except Fault Unit}
      {brought : List Event} (held : session.replica = .absent)
      (brings : Calling connection session.parameters.calls result brought) :
    Consulting session decision result
      { session with replica := .ready (.replica connection) decision }
      (refusals faults ++ .opened .replica (.ok connection) :: brought)

/-- What a read of an open session does once its decision is settled, or what it does to settle
it. -/
inductive Following (session : Session) (decision : Decision) :
    Except Fault Handle → Session → List Event → Prop where
  | main {result : Except Fault Handle} {later : Session} {events : List Event}
      (takes : TakingMain session decision result later events) :
    Following session decision result later events
  | withoutReplica {result : Except Fault Handle} {later : Session} {events : List Event}
      (unpinned : session.phase ≠ .main) (diverts : Diverting session decision result later events) :
    Following session decision result later events
  | unadopted {fault : Fault} {later : Session} {events : List Event}
      (unpinned : session.phase ≠ .main)
      (consults : Consulting session decision (.error fault) later events) :
    Following session decision (.error fault) later events
  | diverted {result : Except Fault Handle} {adopted later : Session} {first events : List Event}
      (unpinned : session.phase ≠ .main)
      (consults : Consulting session decision (.ok ()) adopted first)
      (diverts : Diverting adopted decision result later events) :
    Following session decision result later (first ++ events)
  | unclosed {fault : Fault} {adopted later : Session} {first events : List Event}
      (consults : Consulting session decision (.ok ()) adopted first)
      (lent : session.phase = .committedMain)
      (closes : Closing .main adopted (.error fault) later events) :
    Following session decision (.error fault) later (first ++ events)
  | returned {result : Except Fault Handle} {adopted closed later : Session}
      {first second events : List Event}
      (consults : Consulting session decision (.ok ()) adopted first)
      (lent : session.phase = .committedMain)
      (closes : Closing .main adopted (.ok ()) closed second)
      (takes : TakingReplica { closed with committed := false } decision result later events) :
    Following session decision result later (first ++ (second ++ events))
  | stayed {result : Except Fault Handle} {adopted later : Session} {first events : List Event}
      (unpinned : session.phase ≠ .main) (unlent : session.phase ≠ .committedMain)
      (consults : Consulting session decision (.ok ()) adopted first)
      (takes : TakingReplica { adopted with committed := false } decision result later events) :
    Following session decision result later (first ++ events)

/-- A read. -/
inductive Reading (session : Session) : Except Fault Handle → Session → List Event → Prop where
  | refused (closed : session.closed = true) :
    Reading session (.error (.sessionClosed session.id)) session []
  | followed {result : Except Fault Handle} {later : Session} {events : List Event}
      (opened : session.closed = false) (settled : Decision)
      (follows : Following session settled result later events) :
    Reading session result (later.concluded settled result) events

/-- A write. -/
inductive Writing (session : Session) (seed : Decision) :
    Except Fault Handle → Session → List Event → Prop where
  | refused (closed : session.closed = true) :
    Writing session seed (.error (.sessionClosed session.id)) session []
  | pinned {result : Except Fault Handle} {later : Session} {events : List Event}
      (opened : session.closed = false) (takes : Pinning session seed result later events) :
    Writing session seed result (later.concluded seed result) events

/-- Ending a session, each handle in its own way. -/
inductive Ending
    (slot : HandleKind → Session → Except Fault Unit → Session → List Event → Prop)
    (session : Session) : Except Fault Unit → Session → List Event → Prop where
  | again (closed : session.closed = true) : Ending slot session (.ok ()) session []
  | ended {main replica : Except Fault Unit} {between later : Session} {first second : List Event}
      (opened : session.closed = false)
      (mainEnds : slot .main { session with closed := true } main between first)
      (replicaEnds : slot .replica between replica later second) :
    Ending slot session (firstFault main replica) later (first ++ second)

/-- What an operation does that leaves the handles alone. Calls that it adds to those which bring
handles in line have been made on the handle in use. -/
structure Aside (session later : Session) (events : List Event) : Prop where
  core : later.core = session.core
  calls : ∀ event ∈ events, event.isCall = true
  recorded : ∀ call ∈ later.parameters.calls, call ∈ session.parameters.calls ∨
    ∀ handle, session.currentHandle = some handle →
      .called handle.connection call (.ok ()) ∈ events

/-- An operation. -/
inductive Performing (session : Session) :
    Operation → Except Fault Answer → Session → List Event → Prop where
  | read {result : Except Fault Handle} {later : Session} {events : List Event} (seed : Decision)
      (reads : Reading session result later events) :
    Performing session (.readHandle seed) (result.map .handle) later events
  | write {result : Except Fault Handle} {later : Session} {events : List Event} (seed : Decision)
      (writes : Writing session seed result later events) :
    Performing session (.writeHandle seed) (result.map .handle) later events
  | close {result : Except Fault Unit} {later : Session} {events : List Event}
      (ends : Ending Closing session result later events) :
    Performing session .close (result.map fun _ => .done) later events
  | abort {result : Except Fault Unit} {later : Session} {events : List Event} (deadline : Span)
      (ends : Ending (Aborting deadline) session result later events) :
    Performing session (.abort deadline) (result.map fun _ => .done) later events
  | aside {operation : Operation} {later : Session} {events : List Event}
      (isAside : operation.isAside = true) (result : Except Fault Answer)
      (aside : Aside session later events)
      (unrouted : ∀ handle, result ≠ .ok (.handle handle)) :
    Performing session operation result later events

section Outcomes

variable {session later : Session} {decision : Decision} {events : List Event}

theorem Closing.later_eq {kind : HandleKind} {result : Except Fault Unit}
    (h : Closing kind session result later events) :
    ∃ warnings, later = { session.without kind with warnings } := by
  cases h with
  | vacant held =>
    have hw : session.without kind = session := without_of_empty held
    rw [hw]
    exact ⟨_, rfl⟩
  | closed => exact ⟨_, rfl⟩

theorem Aborting.later_eq {deadline : Span} {kind : HandleKind} {result : Except Fault Unit}
    (h : Aborting deadline kind session result later events) :
    later = session.without kind := by
  cases h with
  | vacant held => exact (without_of_empty held).symm
  | aborted => rfl

theorem Releasing.later_eq {main : Handle} {result : Except Fault Unit}
    (h : Releasing main session result later events) :
    ∃ warnings, later = { session with replica := .absent, warnings } := by
  cases h with
  | dropped => exact ⟨_, rfl⟩
  | closed apart closes => exact closes.later_eq

variable {result : Except Fault Handle}

theorem given_of_map {handle : Handle} (result : Except Fault Unit) (taken : Handle)
    (h : (result.map fun _ => handle) = .ok taken) : taken = handle := by
  cases result with
  | error fault => cases h
  | ok _ => exact (Except.ok.inj h).symm

theorem error_of_map {α β : Type} {f : α → β} {result : Except Fault α} {fault : Fault}
    (h : result.map f = .error fault) : result = .error fault := by
  cases result with
  | error other => exact congrArg _ (Except.error.inj h)
  | ok _ => cases h

theorem Aside.mild (h : Aside session later events) : ∀ event ∈ events, event.isMild = true := by
  intro event he
  have hc := h.calls event he
  cases event with
  | called | collected => exact hc
  | opened | supplied | judged => cases hc

/-- What becomes of the session does not depend on what was asked of the database. -/
theorem TakingMain.takes (h : TakingMain session decision result later events) :
    TakesMain session decision result later := by
  cases h with
  | kept held releases =>
    obtain ⟨warnings, rfl⟩ := releases.later_eq
    exact .kept _ warnings held (given_of_map _)
  | refused fault held => exact .refused fault held
  | unreleased held releases =>
    obtain ⟨warnings, rfl⟩ := releases.later_eq
    exact .opened _ _ warnings held (by simp)
  | opened held releases brings =>
    obtain ⟨warnings, rfl⟩ := releases.later_eq
    exact .opened _ _ warnings held (given_of_map _)

theorem TakingReplica.takes (h : TakingReplica session decision result later events) :
    TakesReplica session decision result later := by
  cases h with
  | kept held => exact .kept held
  | refused fault held => exact .refused fault held
  | opened held brings => exact .opened _ _ held (given_of_map _)

theorem TakingReplica.ready (h : TakingReplica session decision result later events) :
    later.replica.isReady = true ∨
      later = session ∧ session.replica = .absent ∧ ∃ fault, result = .error fault := by
  cases h with
  | kept held =>
    rw [held]
    exact .inl rfl
  | refused fault held => exact .inr ⟨rfl, held, fault, rfl⟩
  | opened => exact .inl rfl

theorem TakingReplica.frame (h : TakingReplica session decision result later events) :
    later.main = session.main ∧ later.closed = session.closed := by
  cases h <;> exact ⟨rfl, rfl⟩

/-- Asking the chain touches neither main nor what is set. -/
theorem Consulting.frame {asked : Except Fault Unit}
    (h : Consulting session decision asked later events) :
    later.main = session.main ∧ later.committed = session.committed ∧
      later.closed = session.closed ∧ later.parameters = session.parameters := by
  cases h <;> exact ⟨rfl, rfl, rfl, rfl⟩

theorem Consulting.kept {asked : Except Fault Unit}
    (h : Consulting session decision asked later events) (hr : later.replica = .absent) :
    later = session := by
  cases h with
  | idle => rfl
  | adopted => cases hr

/-- What routing leaves alone: whether the session is closed, and its parameters. -/
def standing (session : Session) : Bool × Parameters := (session.closed, session.parameters)

theorem TakingMain.standing (h : TakingMain session decision result later events) :
    later.standing = session.standing := by
  cases h.takes <;> rfl

theorem Pinning.standing (h : Pinning session decision result later events) :
    later.standing = session.standing := by
  cases h with
  | taken takes =>
    have ht := takes.standing
    cases result <;> exact ht

theorem Diverting.standing (h : Diverting session decision result later events) :
    later.standing = session.standing := by
  cases h with
  | forGood _ takes => exact takes.standing
  | untilCaughtUp _ takes => exact takes.standing

theorem TakingReplica.standing (h : TakingReplica session decision result later events) :
    later.standing = session.standing := by
  cases h.takes <;> rfl

theorem Consulting.standing {asked : Except Fault Unit}
    (h : Consulting session decision asked later events) :
    later.standing = session.standing := by
  cases h <;> rfl

theorem Closing.standing {kind : HandleKind} {ended : Except Fault Unit}
    (h : Closing kind session ended later events) : later.standing = session.standing := by
  obtain ⟨warnings, rfl⟩ := h.later_eq
  cases kind <;> rfl

theorem Aborting.standing {deadline : Span} {kind : HandleKind} {ended : Except Fault Unit}
    (h : Aborting deadline kind session ended later events) :
    later.standing = session.standing := by
  rw [h.later_eq]
  cases kind <;> rfl

theorem Following.standing (h : Following session decision result later events) :
    later.standing = session.standing := by
  cases h with
  | main takes => exact takes.standing
  | withoutReplica _ diverts => exact diverts.standing
  | unadopted _ consults => exact consults.standing
  | diverted _ consults diverts => exact diverts.standing.trans consults.standing
  | unclosed consults _ closes => exact closes.standing.trans consults.standing
  | returned consults _ closes takes =>
    exact takes.standing.trans (closes.standing.trans consults.standing)
  | stayed _ _ consults takes => exact takes.standing.trans consults.standing

theorem Reading.standing (h : Reading session result later events) :
    later.standing = session.standing := by
  cases h with
  | refused => rfl
  | followed _ _ follows =>
    have hf := follows.standing
    cases result <;> exact hf

theorem Writing.standing (h : Writing session decision result later events) :
    later.standing = session.standing := by
  cases h with
  | refused => rfl
  | pinned _ takes =>
    have ht := takes.standing
    cases result <;> exact ht

/-- A session that is ended is closed, whatever fails. -/
theorem Ending.closed
    {slot : HandleKind → Session → Except Fault Unit → Session → List Event → Prop}
    (hstanding : ∀ {kind session result later events}, slot kind session result later events →
      later.standing = session.standing)
    {ended : Except Fault Unit} (h : Ending slot session ended later events) :
    later.closed = true := by
  cases h with
  | again closed => exact closed
  | ended _ mainEnds replicaEnds =>
    exact congrArg Prod.fst ((hstanding replicaEnds).trans (hstanding mainEnds))

theorem Ending.parameters
    {slot : HandleKind → Session → Except Fault Unit → Session → List Event → Prop}
    (hstanding : ∀ {kind session result later events}, slot kind session result later events →
      later.standing = session.standing)
    {ended : Except Fault Unit} (h : Ending slot session ended later events) :
    later.parameters = session.parameters := by
  cases h with
  | again => rfl
  | ended _ mainEnds replicaEnds =>
    exact congrArg Prod.snd ((hstanding replicaEnds).trans (hstanding mainEnds))

/-- Only reads and writes answer a handle. -/
theorem Performing.routed {operation : Operation} {answer : Except Fault Answer} {handle : Handle}
    (h : Performing session operation answer later events) (ha : answer = .ok (.handle handle)) :
    (∃ seed, operation = .readHandle seed) ∨ ∃ seed, operation = .writeHandle seed := by
  cases h with
  | read seed => exact .inl ⟨seed, rfl⟩
  | write seed => exact .inr ⟨seed, rfl⟩
  | @close ended => cases ended <;> cases ha
  | @abort ended => cases ended <;> cases ha
  | aside _ _ _ unrouted => exact absurd ha (unrouted handle)

/-- The parameters are set by operations that leave the handles alone. -/
theorem Performing.parameters {operation : Operation} {answer : Except Fault Answer}
    (h : Performing session operation answer later events) (ha : operation.isAside = false) :
    later.parameters = session.parameters := by
  cases h with
  | read seed reads => exact congrArg Prod.snd reads.standing
  | write seed writes => exact congrArg Prod.snd writes.standing
  | close ends => exact ends.parameters fun h => h.standing
  | abort deadline ends => exact ends.parameters fun h => h.standing
  | aside isAside => rw [isAside] at ha; cases ha

end Outcomes

end Session

end ReplicaRouting
