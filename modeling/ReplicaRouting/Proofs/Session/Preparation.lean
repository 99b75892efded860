import ReplicaRouting.Proofs.Session.Connections
import ReplicaRouting.Proofs.Session.Phases
import ReplicaRouting.Proofs.Session.Requests

/-!
Whether handles have been brought in line with their session. A handle is put into its slot before
that is done, so that one whose preparation failed is left there and answered later as it is.
-/

namespace ReplicaRouting

/-- Whether a connection of the kind was handed out. -/
def Event.opens (kind : HandleKind) : Event → Bool
  | .opened other (.ok _) => other = kind
  | _ => false

/-- Whether a call that does not end the connection has succeeded. -/
def Event.isMade : Event → Bool
  | .called _ call (.ok _) => !call.ends
  | _ => false

/-- No connection of the kind was handed out. -/
def Unopened (kind : HandleKind) (events : List Event) : Prop :=
  ∀ event ∈ events, event.opens kind = false

/-- The calls, as they succeed on the connection. -/
def successes (connection : ConnectionId) (calls : List Call) : List Event :=
  calls.map fun call => .called connection call (.ok ())

/-- Since the connection was handed out, as the last of its kind, all the calls have succeeded
on it. -/
def Prepared (kind : HandleKind) (connection : ConnectionId) (calls : List Call)
    (events : List Event) : Prop :=
  ∃ after, .opened kind (.ok connection) :: after <:+ events ∧ Unopened kind after ∧
    ∀ call ∈ calls, .called connection call (.ok ()) ∈ after

/-- Since the connection was handed out, as the last of its kind, the calls have not all succeeded
on it in their order. -/
def Unfinished (kind : HandleKind) (connection : ConnectionId) (calls : List Call)
    (events : List Event) : Prop :=
  ∃ after, .opened kind (.ok connection) :: after <:+ events ∧ Unopened kind after ∧
    ¬(successes connection calls).Sublist after

section Events

variable {kind : HandleKind} {connection : ConnectionId} {calls : List Call}
  {events more : List Event}

theorem Unopened.append (h : Unopened kind events) (hm : Unopened kind more) :
    Unopened kind (events ++ more) := by
  intro event he
  rcases List.mem_append.mp he with he | he
  · exact h event he
  · exact hm event he

theorem Unopened.of_mild (h : ∀ event ∈ events, event.isMild = true) : Unopened kind events := by
  intro event he
  have hm := h event he
  unfold Event.opens
  split
  · cases hm
  · rfl

theorem Unopened.nil : Unopened kind [] := .of_mild (by simp)

/-- What was not asked for was not handed out. -/
theorem Unasked.unopened (h : Unasked kind events) : Unopened kind events := by
  intro event he
  have ha := h event he
  unfold Event.opens
  split
  · exact ha
  · rfl

/-- More calls may be asked for if they succeed later on. -/
theorem Prepared.extend {recorded : List Call} (h : Prepared kind connection calls events)
    (hm : Unopened kind more)
    (hr : ∀ call ∈ recorded, call ∈ calls ∨ .called connection call (.ok ()) ∈ more) :
    Prepared kind connection recorded (events ++ more) := by
  obtain ⟨after, ⟨before, rfl⟩, hu, hc⟩ := h
  refine ⟨after ++ more, ⟨before, ?_⟩, hu.append hm, fun call hcall => ?_⟩
  · rw [← List.cons_append, ← List.append_assoc]
  · rcases hr call hcall with hold | hnew
    · exact List.mem_append_left _ (hc call hold)
    · exact List.mem_append_right _ hnew

theorem Prepared.append (h : Prepared kind connection calls events) (hm : Unopened kind more) :
    Prepared kind connection calls (events ++ more) :=
  h.extend hm fun _ hcall => .inl hcall

theorem Prepared.precede (h : Prepared kind connection calls more) (events : List Event) :
    Prepared kind connection calls (events ++ more) := by
  obtain ⟨after, hs, hu, hc⟩ := h
  exact ⟨after, hs.trans (List.suffix_append _ _), hu, hc⟩

theorem Unfinished.precede (h : Unfinished kind connection calls more) (events : List Event) :
    Unfinished kind connection calls (events ++ more) := by
  obtain ⟨after, hs, hu, hc⟩ := h
  exact ⟨after, hs.trans (List.suffix_append _ _), hu, hc⟩

/-- Fewer successes than calls are too few. -/
theorem not_sublist_of_countP (hc : ∀ call ∈ calls, call.ends = false)
    (hlt : events.countP Event.isMade < calls.length) :
    ¬(successes connection calls).Sublist events := by
  intro hs
  have hle := hs.countP_le (p := Event.isMade)
  have hall : (successes connection calls).countP Event.isMade = calls.length := by
    rw [successes, List.countP_map, List.countP_eq_length]
    intro call hcall
    simp [Event.isMade, hc call hcall]
  omega

end Events

namespace Session

/-- How a handle came to be held after some requests. -/
inductive Arrival (hands : Hands) (calls : List Call) (failed : Prop) (events : List Event)
    (kind : HandleKind) (handle : Handle) : Prop where
  | kept (held : hands kind = some handle) (still : Unopened kind events)
  | prepared (brought : Prepared kind handle.connection calls events)
  | unfinished (fails : failed) (short : Unfinished kind handle.connection calls events)

/-- How each of the handles that are held came to be held. -/
def Arrived (hands : Hands) (calls : List Call) (failed : Prop) (events : List Event)
    (later : Hands) : Prop :=
  ∀ kind handle, later kind = some handle → Arrival hands calls failed events kind handle

namespace Arrived

variable {hands between later : Hands} {calls : List Call} {failed : Prop}
  {events more : List Event}

/-- What comes first has to succeed for anything to come after it. -/
theorem trans (h : Arrived hands calls False events between)
    (hm : Arrived between calls failed more later) :
    Arrived hands calls failed (events ++ more) later := by
  intro kind handle hl
  cases hm kind handle hl with
  | kept held still =>
    cases h kind handle held with
    | kept held' still' => exact .kept held' (still'.append still)
    | prepared brought => exact .prepared (brought.append still)
    | unfinished fails => exact fails.elim
  | prepared brought => exact .prepared (brought.precede events)
  | unfinished fails short => exact .unfinished fails (short.precede events)

theorem mono {other : Prop} (h : Arrived hands calls failed events later) (hf : failed → other) :
    Arrived hands calls other events later := by
  intro kind handle hl
  cases h kind handle hl with
  | kept held still => exact .kept held still
  | prepared brought => exact .prepared brought
  | unfinished fails short => exact .unfinished (hf fails) short

/-- Some of what was held may be let go of. -/
theorem fewer (h : Arrived hands calls failed events between)
    (hs : ∀ kind handle, later kind = some handle → between kind = some handle) :
    Arrived hands calls failed events later :=
  fun kind handle hl => h kind handle (hs kind handle hl)

theorem kept (hands : Hands) (h : ∀ kind, Unopened kind events) :
    Arrived hands calls failed events hands :=
  fun kind _ hl => .kept hl (h kind)

/-- A handle that was obtained is prepared, or that has failed. -/
theorem obtained (hands : Hands) {kind : HandleKind} {connection : ConnectionId}
    (hu : ∀ kind, Unopened kind events)
    (hb : (∀ call ∈ calls, .called connection call (.ok ()) ∈ events) ∨
      failed ∧ ¬(successes connection calls).Sublist events) :
    Arrived hands calls failed (.opened kind (.ok connection) :: events)
      (Function.update hands kind (some ⟨kind, connection⟩)) := by
  intro other handle hl
  rcases held_of_filled hl with ⟨rfl, rfl⟩ | ⟨ho, hh⟩
  · rcases hb with hb | ⟨hf, hb⟩
    · exact .prepared ⟨events, List.suffix_rfl, hu other, hb⟩
    · exact .unfinished hf ⟨events, List.suffix_rfl, hu other, hb⟩
  · refine .kept hh fun event he => ?_
    rcases List.mem_cons.mp he with rfl | he
    · exact decide_eq_false fun h => ho h.symm
    · exact hu other event he

end Arrived

section Courses

variable {session later : Session} {decision : Decision} {events : List Event}
  {result : Except Fault Handle} {ended : Except Fault Unit}

theorem Calling.made {connection : ConnectionId} {calls : List Call}
    (h : Calling connection calls ended events) (hok : ended = .ok ()) :
    ∀ call ∈ calls, .called connection call (.ok ()) ∈ events := by
  induction h with
  | done => simp
  | failed => cases hok
  | next call rest ih =>
    intro other ho
    rcases List.mem_cons.mp ho with rfl | ho
    · exact List.mem_cons_self
    · exact List.mem_cons_of_mem _ (ih hok other ho)

/-- Calls that end with a failure have not all succeeded. -/
theorem Calling.countP_lt {connection : ConnectionId} {calls : List Call} {fault : Fault}
    (h : Calling connection calls ended events) (hf : ended = .error fault) :
    events.countP Event.isMade < calls.length := by
  induction h with
  | done => cases hf
  | failed call calls => simp [Event.isMade]
  | next call rest ih =>
    have hlt := ih hf
    rw [List.countP_cons, List.length_cons]
    split <;> omega

theorem Calling.short {connection : ConnectionId} {parameters : Parameters} {fault : Fault}
    (h : Calling connection parameters.calls (.error fault) events) (released : List Event)
    (hr : released.countP Event.isMade = 0) :
    ¬(successes connection parameters.calls).Sublist (released ++ events) := by
  have hlt := h.countP_lt rfl
  apply not_sublist_of_countP fun _ => ends_of_mem_calls parameters
  rw [List.countP_append, hr]
  omega

/-- What becomes of a fresh handle when the calls that prepare it come last. -/
theorem Calling.brought {connection : ConnectionId} {parameters : Parameters}
    (h : Calling connection parameters.calls ended events) (released : List Event)
    (hr : released.countP Event.isMade = 0) :
    (∀ call ∈ parameters.calls, .called connection call (.ok ()) ∈ released ++ events) ∨
      (∃ fault, ended = .error fault) ∧
        ¬(successes connection parameters.calls).Sublist (released ++ events) := by
  cases ended with
  | ok _ => exact .inl fun call hc => List.mem_append_right _ (h.made rfl call hc)
  | error fault => exact .inr ⟨⟨fault, rfl⟩, h.short released hr⟩

theorem Closing.fewer {kind : HandleKind} (h : Closing kind session ended later events)
    (other : HandleKind) (handle : Handle) (hl : later.hand other = some handle) :
    session.hand other = some handle := by
  rw [h.hand_eq] at hl
  exact (held_of_emptied hl).2

theorem Releasing.quiet {main : Handle} (h : Releasing main session ended later events) :
    (∀ kind, Unopened kind events) ∧ events.countP Event.isMade = 0 := by
  refine ⟨fun _ => h.unasked.unopened, ?_⟩
  cases h with
  | dropped => rfl
  | closed _ closes =>
    cases closes with
    | vacant => rfl
    | closed _ _ => cases ended <;> rfl

theorem Releasing.fewer {main : Handle} (h : Releasing main session ended later events)
    (kind : HandleKind) (handle : Handle) (hl : later.hand kind = some handle) :
    session.hand kind = some handle := by
  cases h with
  | dropped =>
    cases kind with
    | main => exact hl
    | replica => cases hl
  | closed _ closes => exact closes.fewer kind handle hl

theorem error_map {α β : Type} {f : α → β} {result : Except Fault α}
    (h : ∃ fault, result = .error fault) : ∃ fault, result.map f = .error fault := by
  obtain ⟨fault, rfl⟩ := h
  exact ⟨fault, rfl⟩

theorem TakingMain.arrived (h : TakingMain session decision result later events) :
    Arrived session.hand session.parameters.calls (∃ fault, result = .error fault) events
      later.hand := by
  cases h with
  | kept _ releases => exact (Arrived.kept _ releases.quiet.1).fewer releases.fewer
  | refused fault => exact .kept _ fun _ => .of_mild (by simp [Event.isMild])
  | @unreleased connection fault _ released held releases =>
    have hlater := releases.fewer
    rw [hand_main_opened] at hlater
    refine (Arrived.obtained _ releases.quiet.1 ?_).fewer hlater
    -- where there is nothing to be set, nothing is left undone
    cases hcalls : session.parameters.calls with
    | nil => exact .inl (by simp)
    | cons call calls =>
      refine .inr ⟨⟨fault, rfl⟩, ?_⟩
      rw [← hcalls]
      apply not_sublist_of_countP fun _ => ends_of_mem_calls session.parameters
      rw [releases.quiet.2, hcalls]
      simp
  | @opened connection ended _ released brought held releases brings =>
    have hlater := releases.fewer
    rw [hand_main_opened] at hlater
    have hunopened (kind : HandleKind) : Unopened kind (released ++ brought) :=
      (releases.quiet.1 kind).append brings.unasked.unopened
    refine (Arrived.obtained _ hunopened ?_).fewer hlater
    exact (brings.brought released releases.quiet.2).imp_right (And.imp_left error_map)

theorem Pinning.arrived (h : Pinning session decision result later events) :
    Arrived session.hand session.parameters.calls (∃ fault, result = .error fault) events
      later.hand := by
  cases h with
  | taken takes =>
    rw [hand_repinned]
    exact takes.arrived

theorem Diverting.arrived (h : Diverting session decision result later events) :
    Arrived session.hand session.parameters.calls (∃ fault, result = .error fault) events
      later.hand := by
  cases h with
  | forGood _ pins => exact pins.arrived
  | untilCaughtUp _ takes => exact takes.arrived

theorem TakingReplica.arrived (h : TakingReplica session decision result later events) :
    Arrived session.hand session.parameters.calls (∃ fault, result = .error fault) events
      later.hand := by
  cases h with
  | kept => exact .kept _ fun _ => .nil
  | refused fault => exact .kept _ fun _ => .of_mild (by simp [Event.isMild])
  | @opened connection ended brought held brings =>
    rw [hand_replica_opened]
    refine Arrived.obtained _ (fun _ => brings.unasked.unopened) ?_
    exact (brings.brought [] rfl).imp_right (And.imp_left error_map)

theorem Consulting.arrived (h : Consulting session decision ended later events) :
    Arrived session.hand session.parameters.calls (∃ fault, ended = .error fault) events
      later.hand := by
  cases h with
  | idle faults => exact .kept _ fun _ => .of_mild (refusals_mild faults)
  | @adopted faults connection _ brought held brings =>
    rw [hand_replica_opened]
    have hfaults : Arrived session.hand session.parameters.calls False (refusals faults)
        session.hand := .kept _ fun _ => .of_mild (refusals_mild faults)
    exact hfaults.trans (.obtained _ (fun _ => brings.unasked.unopened) (brings.brought [] rfl))

/-- A chain that was asked without failure leaves nothing unfinished. -/
theorem Consulting.arrived_ok (h : Consulting session decision (.ok ()) later events) :
    Arrived session.hand session.parameters.calls False events later.hand :=
  h.arrived.mono (by simp)

theorem Following.arrived (h : Following session decision result later events) :
    Arrived session.hand session.parameters.calls (∃ fault, result = .error fault) events
      later.hand := by
  have hclosing {adopted closed : Session} {first second : List Event}
      {ended : Except Fault Unit}
      (consults : Consulting session decision (.ok ()) adopted first)
      (closes : Closing .main adopted ended closed second) :
      Arrived session.hand session.parameters.calls False (first ++ second) closed.hand := by
    have hc : Arrived adopted.hand session.parameters.calls False second adopted.hand :=
      .kept _ fun _ => closes.unasked.unopened
    exact consults.arrived_ok.trans (hc.fewer closes.fewer)
  cases h with
  | main takes => exact takes.arrived
  | withoutReplica _ diverts => exact diverts.arrived
  | unadopted _ consults =>
    exact consults.arrived.mono fun ⟨fault, hf⟩ => ⟨fault, congrArg _ (Except.error.inj hf)⟩
  | diverted _ consults diverts =>
    have hd := diverts.arrived
    rw [consults.frame.2.2.2] at hd
    exact consults.arrived_ok.trans hd
  | unclosed consults _ closes => exact (hclosing consults closes).mono False.elim
  | @returned _ _ closed _ _ _ _ consults _ closes takes =>
    have ht : Arrived closed.hand closed.parameters.calls _ _ later.hand := takes.arrived
    have hp : closed.parameters = session.parameters :=
      congrArg Prod.snd (closes.standing.trans consults.standing)
    rw [hp] at ht
    rw [← List.append_assoc]
    exact (hclosing consults closes).trans ht
  | @stayed _ adopted _ _ _ _ _ consults takes =>
    have ht : Arrived adopted.hand adopted.parameters.calls _ _ later.hand := takes.arrived
    rw [consults.frame.2.2.2] at ht
    exact consults.arrived_ok.trans ht

variable {main replica : Handle}

/-- Once main is taken no replica is held. -/
theorem TakingMain.alone (h : TakingMain session decision result later events)
    (hm : later.hand .main = some main) : later.hand .replica = none :=
  hand_of_absent (h.takes.replica_absent (hand_ready hm))

theorem Pinning.alone (h : Pinning session decision result later events)
    (hm : later.hand .main = some main) : later.hand .replica = none := by
  cases h with
  | taken takes =>
    rw [hand_repinned] at hm ⊢
    exact takes.alone hm

theorem Diverting.alone (h : Diverting session decision result later events)
    (hm : later.hand .main = some main) : later.hand .replica = none := by
  cases h with
  | forGood _ pins => exact pins.alone hm
  | untilCaughtUp _ takes => exact takes.alone hm

/-- The replica that was to be kept when asking the chain failed is left unfinished. -/
theorem Consulting.unfinished {fault : Fault}
    (h : Consulting session decision (.error fault) later events)
    (hr : later.hand .replica = some replica) :
    Unfinished .replica replica.connection session.parameters.calls events := by
  cases h with
  | @adopted faults connection _ brought held brings =>
    cases hr
    exact ⟨brought, List.suffix_append _ _, brings.unasked.unopened, brings.short [] rfl⟩

/-- Main and a replica are held together only where the replica has been left unfinished. -/
theorem Following.beside (h : Following session decision result later events)
    (ho : session.closed = false) (hm : later.hand .main = some main)
    (hr : later.hand .replica = some replica) :
    (∃ fault, result = .error fault) ∧
      Unfinished .replica replica.connection session.parameters.calls events := by
  have hnoReplica (hn : later.hand .replica = none) : False := by cases hn.symm.trans hr
  have hnoMain (habsent : later.main = .absent) : False := by
    have hn : later.hand .main = none := hand_of_absent habsent
    cases hn.symm.trans hm
  cases h with
  | main takes => exact (hnoReplica (takes.alone hm)).elim
  | withoutReplica _ diverts => exact (hnoReplica (diverts.alone hm)).elim
  | @unadopted fault _ _ _ consults => exact ⟨⟨fault, rfl⟩, consults.unfinished hr⟩
  | diverted _ _ diverts => exact (hnoReplica (diverts.alone hm)).elim
  | unclosed _ _ closes =>
    obtain ⟨warnings, rfl⟩ := closes.later_eq
    exact (hnoMain rfl).elim
  | returned _ _ closes takes =>
    obtain ⟨warnings, rfl⟩ := closes.later_eq
    exact (hnoMain takes.frame.1).elim
  | stayed unpinned unlent consults takes =>
    have habsent := main_absent_of_phase ho unpinned unlent
    exact (hnoMain (takes.frame.1.trans (consults.frame.1.trans habsent))).elim

/-- What an operation that moves handles about makes of them. -/
structure Moves (session later : Session) (failed : Prop) (events : List Event) : Prop where
  parameters : later.parameters = session.parameters
  arrived : Arrived session.hand session.parameters.calls failed events later.hand
  beside : ∀ main replica, later.hand .main = some main → later.hand .replica = some replica →
    session.hand .main = some main ∧ session.hand .replica = some replica ∧
        Unopened .replica events ∨
      failed ∧ Unfinished .replica replica.connection session.parameters.calls events

theorem Moves.mono {failed other : Prop} (h : Moves session later failed events)
    (hf : failed → other) : Moves session later other events :=
  ⟨h.parameters, h.arrived.mono hf, fun main replica hm hr =>
    (h.beside main replica hm hr).imp_right fun ⟨fails, short⟩ => ⟨hf fails, short⟩⟩

theorem Moves.still (session : Session) (failed : Prop) : Moves session session failed [] :=
  ⟨rfl, .kept _ fun _ => .nil, fun _ _ hm hr => .inl ⟨hm, hr, .nil⟩⟩

theorem Moves.of_noHands {failed : Prop} (hp : later.parameters = session.parameters)
    (hn : later.hand = noHands) : Moves session later failed events := by
  have hnone (kind : HandleKind) (handle : Handle) (hl : later.hand kind = some handle) : False := by
    rw [hn] at hl
    cases hl
  exact ⟨hp, fun kind handle hl => (hnone kind handle hl).elim, fun _ replica _ hr =>
    (hnone .replica replica hr).elim⟩

theorem Reading.moves (h : Reading session result later events) :
    Moves session later (∃ fault, result = .error fault) events := by
  have hs := h.standing
  cases h with
  | refused => exact .still _ _
  | followed opened settled follows =>
    refine ⟨congrArg Prod.snd hs, ?_, fun main replica hm hr => ?_⟩
    · rw [hand_concluded]
      exact follows.arrived
    · rw [hand_concluded] at hm hr
      exact .inr (follows.beside opened hm hr)

theorem Writing.moves (h : Writing session decision result later events) :
    Moves session later (∃ fault, result = .error fault) events := by
  have hs := h.standing
  cases h with
  | refused => exact .still _ _
  | pinned opened pins =>
    refine ⟨congrArg Prod.snd hs, ?_, fun main replica hm hr => ?_⟩
    · rw [hand_concluded]
      exact pins.arrived
    · rw [hand_concluded] at hm hr
      cases (pins.alone hm).symm.trans hr

/-- An operation moves handles about, or leaves them alone. -/
theorem Performing.moves {operation : Operation} {answer : Except Fault Answer}
    (ht : Tidy session) (h : Performing session operation answer later events) :
    Moves session later (∃ fault, answer = .error fault) events ∨ Aside session later events := by
  obtain ⟨htidy, hend⟩ := h.tidy ht
  cases h with
  | read _ reads => exact .inl (reads.moves.mono error_map)
  | write _ writes => exact .inl (writes.moves.mono error_map)
  | close ends =>
    exact .inl (.of_noHands (ends.parameters fun h => h.standing) (htidy (hend (.inr rfl))))
  | abort _ ends =>
    exact .inl (.of_noHands (ends.parameters fun h => h.standing) (htidy (hend (.inr rfl))))
  | aside _ _ haside => exact .inr haside

/-- What is held in an open session is in use, or a replica beside main. -/
theorem currentHandle_or_beside {kind : HandleKind} {handle : Handle} (ho : session.closed = false)
    (hh : session.hand kind = some handle) :
    session.currentHandle = some handle ∨
      kind = .replica ∧ ∃ main, session.hand .main = some main := by
  cases hm : session.hand .main with
  | none =>
    have habsent : session.main = .absent := (Slot.handle_none_iff _).mp hm
    cases kind with
    | main => cases hm.symm.trans hh
    | replica =>
      have hp : session.phase = .replica := (phase_eq_replica_iff _).mpr ⟨ho, habsent, hand_ready hh⟩
      exact .inl ((currentHandle_of_replica hp).trans hh)
  | some main =>
    cases kind with
    | replica => exact .inr ⟨rfl, main, rfl⟩
    | main =>
      have hp : session.phase.holdsMain = true := by
        rw [phase_of_main_ready ho (hand_ready hm)]
        cases session.committed <;> rfl
      exact .inl ((currentHandle_of_main hp).trans hh)

end Courses

end Session

end ReplicaRouting
