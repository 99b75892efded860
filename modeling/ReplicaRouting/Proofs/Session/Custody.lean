import Mathlib.Logic.Function.Basic
import ReplicaRouting.Proofs.Session.Conduct

/-!
Custody of connections: how what a session holds changes along with what it asks of the database.
Nothing is obtained into a slot that is taken, and nothing is let go of without an end but a replica
that shares the connection of main.
-/

namespace ReplicaRouting

namespace Session

/-- The handles held, by kind. -/
abbrev Hands : Type := HandleKind → Option Handle

section Updates

variable {hands : Hands} {kind other : HandleKind} {handle : Handle}

theorem held_of_emptied (h : Function.update hands kind none other = some handle) :
    other ≠ kind ∧ hands other = some handle := by
  by_cases ho : other = kind
  · subst ho
    rw [Function.update_self] at h
    cases h
  · rw [Function.update_of_ne ho] at h
    exact ⟨ho, h⟩

theorem held_of_filled {taken : Handle}
    (h : Function.update hands kind (some taken) other = some handle) :
    other = kind ∧ handle = taken ∨ other ≠ kind ∧ hands other = some handle := by
  by_cases ho : other = kind
  · subst ho
    rw [Function.update_self] at h
    exact .inl ⟨rfl, (Option.some.inj h).symm⟩
  · rw [Function.update_of_ne ho] at h
    exact .inr ⟨ho, h⟩

end Updates

/-- How a request to the database changes what is held. -/
inductive Handover (hands : Hands) : Event → Hands → Prop where
  | obtained {kind : HandleKind} (connection : ConnectionId) (vacant : hands kind = none) :
    Handover hands (.opened kind (.ok connection))
      (Function.update hands kind (some ⟨kind, connection⟩))
  | ended {kind : HandleKind} {handle : Handle} {call : Call} (held : hands kind = some handle)
      (ends : call.ends = true) (result : Except Fault Unit) :
    Handover hands (.called handle.connection call result) (Function.update hands kind none)
  | passed {event : Event} (mild : event.isMild = true) : Handover hands event hands

/-- How what is held changes along with requests to the database. A replica that shares the
connection of main may be dropped without any. -/
inductive Custody : Hands → List Event → Hands → Prop where
  | done (hands : Hands) : Custody hands [] hands
  | requested {hands next later : Hands} {event : Event} {events : List Event}
      (handover : Handover hands event next) (rest : Custody next events later) :
    Custody hands (event :: events) later
  | dropped {hands later : Hands} {main replica : Handle} {events : List Event}
      (mainHeld : hands .main = some main) (replicaHeld : hands .replica = some replica)
      (shared : replica.connection = main.connection)
      (rest : Custody (Function.update hands .replica none) events later) :
    Custody hands events later

namespace Custody

variable {hands between later : Hands} {events more : List Event}

theorem trans (h : Custody hands events between) (hm : Custody between more later) :
    Custody hands (events ++ more) later := by
  induction h with
  | done => exact hm
  | requested handover _ ih => exact .requested handover (ih hm)
  | dropped mainHeld replicaHeld shared _ ih => exact .dropped mainHeld replicaHeld shared (ih hm)

/-- What is held at any point on the way. -/
theorem split (h : Custody hands (events ++ more) later) :
    ∃ between, Custody hands events between ∧ Custody between more later := by
  generalize ht : events ++ more = total at h
  induction h generalizing events with
  | done hands =>
    obtain ⟨rfl, rfl⟩ := List.append_eq_nil_iff.mp ht
    exact ⟨hands, .done hands, .done hands⟩
  | @requested hands _ _ _ _ handover rest ih =>
    cases events with
    | nil =>
      rw [List.nil_append] at ht
      exact ⟨hands, .done hands, ht ▸ .requested handover rest⟩
    | cons event events =>
      obtain ⟨rfl, rfl⟩ := List.cons.inj ht
      obtain ⟨between, hb, hl⟩ := ih rfl
      exact ⟨between, .requested handover hb, hl⟩
  | dropped mainHeld replicaHeld shared _ ih =>
    obtain ⟨between, hb, hl⟩ := ih ht
    exact ⟨between, .dropped mainHeld replicaHeld shared hb, hl⟩

theorem of_mild (hands : Hands) (h : ∀ event ∈ events, event.isMild = true) :
    Custody hands events hands := by
  induction events with
  | nil => exact .done hands
  | cons event events ih =>
    have hrest : Custody hands events hands :=
      ih fun other ho => h other (List.mem_cons_of_mem _ ho)
    exact .requested (.passed (h event List.mem_cons_self)) hrest

end Custody

section Hands

variable {session : Session}

theorem hand_without (kind : HandleKind) :
    (session.without kind).hand = Function.update session.hand kind none := by
  funext other
  cases kind <;> cases other <;> rfl

theorem hand_repinned (decision : Decision) (result : Except Fault Handle) :
    (session.repinned decision result).hand = session.hand := by
  cases result with
  | error fault => rfl
  | ok taken =>
    funext kind
    cases kind with
    | main => exact Slot.handle_repin session.main decision
    | replica => rfl

theorem hand_concluded (decision : Decision) (result : Except Fault Handle) :
    (session.concluded decision result).hand = session.hand := by
  cases result <;> rfl

theorem hand_of_core {later : Session} (h : later.core = session.core) :
    later.hand = session.hand := by
  obtain ⟨hm, hr, -⟩ := eq_of_core h
  funext kind
  cases kind with
  | main => exact congrArg Slot.handle? hm
  | replica => exact congrArg Slot.handle? hr

theorem hand_main_opened (connection : ConnectionId) (decision : Decision) :
    ({ session with main := .ready (.main connection) decision } : Session).hand =
      Function.update session.hand .main (some (.main connection)) := by
  funext kind
  cases kind <;> rfl

theorem hand_replica_opened (connection : ConnectionId) (decision : Decision) :
    ({ session with replica := .ready (.replica connection) decision } : Session).hand =
      Function.update session.hand .replica (some (.replica connection)) := by
  funext kind
  cases kind <;> rfl

theorem hand_of_absent {kind : HandleKind} (h : session.slot kind = .absent) :
    session.hand kind = none := by
  unfold hand
  rw [h]
  rfl

theorem hand_ready {kind : HandleKind} {handle : Handle} (h : session.hand kind = some handle) :
    (session.slot kind).isReady = true := by
  obtain ⟨since, hs⟩ := (Slot.handle_some_iff _ _).mp h
  rw [hs]
  rfl

end Hands

section Courses

variable {session later : Session} {decision : Decision} {events : List Event}
  {result : Except Fault Handle} {ended : Except Fault Unit}

/-- The calls that bring a handle in line end no connection. -/
theorem ends_of_mem_calls (parameters : Parameters) {call : Call} (h : call ∈ parameters.calls) :
    call.ends = false := by
  rw [mem_settingCalls] at h
  rcases h with ⟨_, -, rfl⟩ | ⟨_, -, rfl⟩ | ⟨_, -, rfl⟩ | ⟨_, -, rfl⟩ <;> rfl

theorem Calling.mild {connection : ConnectionId} {calls : List Call}
    (h : Calling connection calls ended events) (hc : ∀ call ∈ calls, call.ends = false) :
    ∀ event ∈ events, event.isMild = true := by
  have hmild (call : Call) (outcome : Except Fault Unit) (he : call.ends = false) :
      (Event.called connection call outcome).isMild = true := by
    simp only [Event.isMild, he, Bool.not_false]
  induction h with
  | done => simp
  | failed call calls fault =>
    intro event he
    rw [List.mem_singleton.mp he]
    exact hmild call _ (hc call List.mem_cons_self)
  | next call rest ih =>
    intro event he
    rcases List.mem_cons.mp he with rfl | he
    · exact hmild call _ (hc call List.mem_cons_self)
    · exact ih (fun other ho => hc other (List.mem_cons_of_mem _ ho)) event he

theorem refusals_mild (faults : List Fault) :
    ∀ event ∈ refusals faults, event.isMild = true := by
  intro event he
  obtain ⟨fault, -, rfl⟩ := List.mem_map.mp he
  rfl

theorem Closing.hand_eq {kind : HandleKind} (h : Closing kind session ended later events) :
    later.hand = Function.update session.hand kind none := by
  obtain ⟨warnings, rfl⟩ := h.later_eq
  exact hand_without kind

theorem Aborting.hand_eq {deadline : Span} {kind : HandleKind}
    (h : Aborting deadline kind session ended later events) :
    later.hand = Function.update session.hand kind none := by
  rw [h.later_eq]
  exact hand_without kind

theorem Consulting.hand_main (h : Consulting session decision ended later events) :
    later.hand .main = session.hand .main := congrArg Slot.handle? h.frame.1

end Courses

section Upholding

/-- A relation between what is held before and after some requests that every small step upholds. A
handle is closed only if the other one is on a connection of its own. -/
structure Upheld (R : Hands → List Event → Hands → Prop) : Prop where
  mild (hands : Hands) {events : List Event} (h : ∀ event ∈ events, event.isMild = true) :
    R hands events hands
  trans {hands between later : Hands} {events more : List Event} (h : R hands events between)
    (hm : R between more later) : R hands (events ++ more) later
  obtained {hands : Hands} {kind : HandleKind} (connection : ConnectionId)
    (vacant : hands kind = none) :
    R hands [.opened kind (.ok connection)]
      (Function.update hands kind (some ⟨kind, connection⟩))
  closed {hands : Hands} {kind : HandleKind} {handle : Handle} (held : hands kind = some handle)
    (apart : ∀ kind' other, kind' ≠ kind → hands kind' = some other →
      handle.connection ≠ other.connection) (result : Except Fault Unit) :
    R hands [.called handle.connection .close result] (Function.update hands kind none)
  dropped {hands : Hands} {main replica : Handle} (mainHeld : hands .main = some main)
    (replicaHeld : hands .replica = some replica)
    (shared : replica.connection = main.connection) :
    R hands [] (Function.update hands .replica none)

variable {R : Hands → List Event → Hands → Prop} (hR : Upheld R) {session later : Session}
  {decision : Decision} {events : List Event} {result : Except Fault Handle}
  {ended : Except Fault Unit}
include hR

theorem Calling.upholds {connection : ConnectionId} {parameters : Parameters} (hands : Hands)
    (h : Calling connection parameters.calls ended events) : R hands events hands :=
  hR.mild hands (h.mild fun _ hc => ends_of_mem_calls parameters hc)

theorem Closing.upholds {kind : HandleKind}
    (apart : ∀ handle kind' other, session.hand kind = some handle → kind' ≠ kind →
      session.hand kind' = some other → handle.connection ≠ other.connection)
    (h : Closing kind session ended later events) : R session.hand events later.hand := by
  have hhand := h.hand_eq
  cases h with
  | vacant => exact hR.mild _ (by simp)
  | @closed handle held read =>
    rw [hhand]
    have hread : R session.hand [.collected handle.connection read] session.hand :=
      hR.mild _ (by simp [Event.isMild])
    exact hR.trans hread
      (hR.closed held (fun kind' other hk ho => apart handle kind' other held hk ho) ended)

theorem Releasing.upholds {main : Handle} (hm : session.hand .main = some main)
    (h : Releasing main session ended later events) : R session.hand events later.hand := by
  cases h with
  | dropped held shared =>
    rw [hand_without]
    exact hR.dropped hm held shared
  | closed apart closes =>
    refine closes.upholds hR fun replica kind other hr hk ho => ?_
    cases kind with
    | main =>
      cases hm.symm.trans ho
      exact apart replica hr
    | replica => exact absurd rfl hk

theorem TakingMain.upholds (h : TakingMain session decision result later events) :
    R session.hand events later.hand := by
  cases h with
  | kept held releases => exact releases.upholds hR (congrArg Slot.handle? held)
  | refused fault => exact hR.mild _ (by simp [Event.isMild])
  | @unreleased connection _ _ _ held releases =>
    have hv : session.hand .main = none := hand_of_absent held
    have hr := releases.upholds hR rfl
    rw [hand_main_opened] at hr
    exact hR.trans (hR.obtained connection hv) hr
  | @opened connection _ _ _ _ held releases brings =>
    have hv : session.hand .main = none := hand_of_absent held
    have hr := releases.upholds hR rfl
    rw [hand_main_opened] at hr
    exact hR.trans (hR.obtained connection hv) (hR.trans hr (brings.upholds hR later.hand))

theorem Pinning.upholds (h : Pinning session decision result later events) :
    R session.hand events later.hand := by
  cases h with
  | taken takes =>
    rw [hand_repinned]
    exact takes.upholds hR

theorem Diverting.upholds (h : Diverting session decision result later events) :
    R session.hand events later.hand := by
  cases h with
  | forGood _ pins => exact pins.upholds hR
  | untilCaughtUp _ takes => exact takes.upholds hR

theorem TakingReplica.upholds (h : TakingReplica session decision result later events) :
    R session.hand events later.hand := by
  cases h with
  | kept => exact hR.mild _ (by simp)
  | refused fault => exact hR.mild _ (by simp [Event.isMild])
  | @opened connection _ _ held brings =>
    have hv : session.hand .replica = none := hand_of_absent held
    rw [hand_replica_opened]
    exact hR.trans (hR.obtained connection hv) (brings.upholds hR _)

theorem Consulting.upholds (h : Consulting session decision ended later events) :
    R session.hand events later.hand := by
  cases h with
  | idle faults => exact hR.mild _ (refusals_mild faults)
  | @adopted faults connection _ _ held brings =>
    have hv : session.hand .replica = none := hand_of_absent held
    rw [hand_replica_opened]
    have hopened := hR.trans (hR.obtained connection hv) (brings.upholds hR _)
    exact hR.trans (hR.mild _ (refusals_mild faults)) hopened

end Upholding

section Custodians

variable {session later : Session} {decision : Decision} {events : List Event}
  {result : Except Fault Handle} {ended : Except Fault Unit}

theorem custody_upheld : Upheld Custody where
  mild hands _ h := .of_mild hands h
  trans := .trans
  obtained connection vacant := .requested (.obtained connection vacant) (.done _)
  closed held _ result := .requested (.ended held rfl result) (.done _)
  dropped mainHeld replicaHeld shared := .dropped mainHeld replicaHeld shared (.done _)

theorem Closing.custody {kind : HandleKind} (h : Closing kind session ended later events) :
    Custody session.hand events later.hand := by
  have hhand := h.hand_eq
  cases h with
  | vacant => exact .done _
  | closed held read =>
    rw [hhand]
    exact .requested (.passed rfl) (.requested (.ended held rfl ended) (.done _))

theorem Aborting.custody {deadline : Span} {kind : HandleKind}
    (h : Aborting deadline kind session ended later events) :
    Custody session.hand events later.hand := by
  have hhand := h.hand_eq
  cases h with
  | vacant => exact .done _
  | aborted held =>
    rw [hhand]
    exact .requested (.ended held rfl ended) (.done _)

theorem Following.custody (h : Following session decision result later events) :
    Custody session.hand events later.hand := by
  have hR := custody_upheld
  cases h with
  | main takes => exact takes.upholds hR
  | withoutReplica _ diverts => exact diverts.upholds hR
  | unadopted _ consults => exact consults.upholds hR
  | diverted _ consults diverts => exact (consults.upholds hR).trans (diverts.upholds hR)
  | unclosed consults _ closes => exact (consults.upholds hR).trans closes.custody
  | returned consults _ closes takes =>
    exact (consults.upholds hR).trans (closes.custody.trans (takes.upholds hR))
  | stayed _ _ consults takes => exact (consults.upholds hR).trans (takes.upholds hR)

theorem Ending.custody
    {slot : HandleKind → Session → Except Fault Unit → Session → List Event → Prop}
    (hslot : ∀ {kind session result later events}, slot kind session result later events →
      Custody session.hand events later.hand)
    (h : Ending slot session ended later events) : Custody session.hand events later.hand := by
  cases h with
  | again => exact .done _
  | ended _ mainEnds replicaEnds => exact (hslot mainEnds).trans (hslot replicaEnds)

/-- Every operation keeps custody, failing ones included. -/
theorem Performing.custody {operation : Operation} {answer : Except Fault Answer}
    (h : Performing session operation answer later events) :
    Custody session.hand events later.hand := by
  cases h with
  | read _ reads =>
    cases reads with
    | refused => exact .done _
    | followed _ settled follows =>
      rw [hand_concluded]
      exact follows.custody
  | write seed writes =>
    cases writes with
    | refused => exact .done _
    | pinned _ pins =>
      rw [hand_concluded]
      exact pins.upholds custody_upheld
  | close ends => exact ends.custody fun hc => hc.custody
  | abort _ ends => exact ends.custody fun ha => ha.custody
  | aside _ _ haside =>
    rw [hand_of_core haside.core]
    exact .of_mild _ haside.mild

end Custodians

section Answers

variable {session later : Session} {decision : Decision} {events : List Event} {handle : Handle}
  {result : Except Fault Handle}

/-- Whoever is given a handle by main finds it held there. -/
theorem TakesMain.held (h : TakesMain session decision result later) (hr : result = .ok handle) :
    later.hand .main = some handle := by
  cases h with
  | kept _ warnings held given =>
    rw [given handle hr]
    exact congrArg Slot.handle? held
  | refused fault => cases hr
  | opened connection _ warnings held given =>
    rw [given handle hr]
    rfl

theorem TakingReplica.held (h : TakingReplica session decision result later events)
    (hr : result = .ok handle) : later.hand .replica = some handle := by
  cases h with
  | kept held =>
    cases hr
    exact congrArg Slot.handle? held
  | refused fault => cases hr
  | @opened connection brought =>
    rw [given_of_map brought handle hr]
    rfl

theorem Pinning.held (h : Pinning session decision result later events) (hr : result = .ok handle) :
    later.hand .main = some handle := by
  cases h with
  | taken takes =>
    rw [hand_repinned]
    exact takes.takes.held hr

theorem Diverting.held (h : Diverting session decision result later events)
    (hr : result = .ok handle) : later.hand .main = some handle := by
  cases h with
  | forGood _ takes => exact takes.held hr
  | untilCaughtUp _ takes => exact takes.takes.held hr

theorem Following.held (h : Following session decision result later events)
    (hr : result = .ok handle) : ∃ kind, later.hand kind = some handle := by
  cases h with
  | main takes => exact ⟨_, takes.takes.held hr⟩
  | withoutReplica _ diverts => exact ⟨_, diverts.held hr⟩
  | unadopted => cases hr
  | diverted _ _ diverts => exact ⟨_, diverts.held hr⟩
  | unclosed => cases hr
  | returned _ _ _ takes => exact ⟨_, takes.held hr⟩
  | stayed _ _ _ takes => exact ⟨_, takes.held hr⟩

/-- The handle that an operation answers is held afterwards. -/
theorem Performing.held {operation : Operation} {answer : Except Fault Answer}
    (h : Performing session operation answer later events) (ha : answer = .ok (.handle handle)) :
    ∃ kind, later.hand kind = some handle := by
  cases h with
  | read _ reads =>
    cases reads with
    | refused => cases ha
    | followed _ settled follows =>
      rw [hand_concluded]
      exact follows.held (ok_of_map_handle ha)
  | write seed writes =>
    cases writes with
    | refused => cases ha
    | pinned _ pins =>
      rw [hand_concluded]
      exact ⟨_, pins.held (ok_of_map_handle ha)⟩
  | @close ended => cases ended <;> cases ha
  | @abort ended => cases ended <;> cases ha
  | aside _ _ _ unrouted => exact absurd ha (unrouted handle)

end Answers

theorem run_custody {σ : Type} (among : Collaborators σ) (turns : List (Turn σ))
    (session : Session) :
    Custody session.hand (account among.watched turns session)
      (run among turns session).hand := by
  induction turns generalizing session with
  | nil => exact .done _
  | cons turn turns ih =>
    obtain ⟨-, hs⟩ := perform_kept among.watched_agrees session turn
    simp only [account]
    rw [hs]
    exact (turn_performing among session turn).custody.trans (ih _)

end Session

end ReplicaRouting
