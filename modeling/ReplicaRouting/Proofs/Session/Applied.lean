import ReplicaRouting.Proofs.Session.FailedOpenings
import ReplicaRouting.Proofs.Session.Holdings

/-!
What is set on connections where nothing fails. A connection that is handed out is given all of the
parameters at once, and one that is held is given each new parameter as it is recorded.
-/

namespace ReplicaRouting

namespace Call

/-- Whether the call sets a parameter. -/
def sets : Call → Bool
  | setAutoCommit _ | setReadOnly _ | setIsolation _ | execute _ => true
  | commit | rollback | close | abort _ | clearWarnings => false

def autoCommit? : Call → Option Bool
  | setAutoCommit value => some value
  | _ => none

def readOnly? : Call → Option Bool
  | setReadOnly value => some value
  | _ => none

def isolation? : Call → Option Isolation
  | setIsolation level => some level
  | _ => none

def statement? : Call → Option String
  | execute sql => some sql
  | _ => none

end Call

/-- What is set on a connection once calls have been made on it: the latest value of each parameter,
and every statement in its order. -/
def Parameters.applied (calls : List Call) : Parameters where
  autoCommit? := (calls.filterMap Call.autoCommit?).getLast?
  readOnly? := (calls.filterMap Call.readOnly?).getLast?
  isolation? := (calls.filterMap Call.isolation?).getLast?
  setStatements := calls.filterMap Call.statement?

/-- The parameters once the call has set one of them. -/
def Parameters.after (parameters : Parameters) : Call → Parameters
  | .setAutoCommit value => { parameters with autoCommit? := some value }
  | .setReadOnly value => { parameters with readOnly? := some value }
  | .setIsolation level => { parameters with isolation? := some level }
  | .execute sql => parameters.addStatement sql
  | .commit | .rollback | .close | .abort _ | .clearWarnings => parameters

/-- The call, if it was made on the connection. -/
def Event.callOn? (connection : ConnectionId) : Event → Option Call
  | .called other call _ => if other = connection then some call else none
  | _ => none

/-- The calls made on the connection, in order. -/
def callsOn (connection : ConnectionId) (events : List Event) : List Call :=
  events.filterMap (Event.callOn? connection)

/-- Those of the calls on the connection that set a parameter. -/
def settings (connection : ConnectionId) (events : List Event) : List Call :=
  (callsOn connection events).filter Call.sets

/-- Nothing is handed out or set. -/
def Idle (events : List Event) : Prop :=
  ∀ event ∈ events, event.handle? = none ∧ ∀ connection, settings connection [event] = []

/-- No request to the database fails. -/
def Unfailing (events : List Event) : Prop := ∀ event ∈ events, event.isFailure = false

/-- A connection that is handed out has all of the parameters set on it, and no other has any. -/
def BringsInLine (parameters : Parameters) (events : List Event) : Prop :=
  ∀ connection, settings connection events =
    (handedOut events).flatMap fun handle =>
      if handle.connection = connection then parameters.calls else []

section Algebra

variable {parameters : Parameters} {events more : List Event} (connection : ConnectionId)

theorem Parameters.applied_calls (parameters : Parameters) :
    applied parameters.calls = parameters := by
  have hnone {α : Type} (value? : Call → Option α) (hv : ∀ sql, value? (.execute sql) = none)
      (statements : List String) : (statements.map Call.execute).filterMap value? = [] := by
    rw [List.filterMap_map]
    exact List.filterMap_eq_nil_iff.mpr fun sql _ => hv sql
  have hall (statements : List String) :
      (statements.map Call.execute).filterMap Call.statement? = statements := by
    rw [List.filterMap_map]
    exact List.filterMap_some
  obtain ⟨autoCommit?, readOnly?, isolation?, statements⟩ := parameters
  simp only [applied, calls, settingCalls, List.filterMap_append, hall,
    hnone Call.autoCommit? fun _ => rfl, hnone Call.readOnly? fun _ => rfl,
    hnone Call.isolation? fun _ => rfl]
  cases autoCommit? <;> cases readOnly? <;> cases isolation? <;> rfl

/-- Calls that set nothing do not count. -/
theorem Parameters.applied_filter (calls : List Call) :
    applied (calls.filter Call.sets) = applied calls := by
  have hskip {α : Type} (value? : Call → Option α)
      (hv : ∀ call, call.sets = false → value? call = none) :
      (calls.filter Call.sets).filterMap value? = calls.filterMap value? := by
    rw [List.filterMap_filter]
    refine List.filterMap_congr fun call _ => ?_
    cases hs : call.sets with
    | true => rfl
    | false => simp [hv call hs]
  have hsets (call : Call) (hs : call.sets = false) : call.autoCommit? = none ∧
      call.readOnly? = none ∧ call.isolation? = none ∧ call.statement? = none := by
    cases call <;> first | exact ⟨rfl, rfl, rfl, rfl⟩ | cases hs
  unfold applied
  rw [hskip Call.autoCommit? fun call hs => (hsets call hs).1,
    hskip Call.readOnly? fun call hs => (hsets call hs).2.1,
    hskip Call.isolation? fun call hs => (hsets call hs).2.2.1,
    hskip Call.statement? fun call hs => (hsets call hs).2.2.2]

theorem Parameters.applied_concat {parameters : Parameters} {calls : List Call} (call : Call)
    (h : applied calls = parameters) : applied (calls ++ [call]) = parameters.after call := by
  subst h
  cases call <;> simp [applied, after, addStatement, Call.autoCommit?, Call.readOnly?,
    Call.isolation?, Call.statement?]

theorem settings_append :
    settings connection (events ++ more) =
      settings connection events ++ settings connection more := by
  simp only [settings, callsOn, List.filterMap_append, List.filter_append]

theorem settings_cons (event : Event) :
    settings connection (event :: events) =
      settings connection [event] ++ settings connection events := by
  rw [← settings_append]
  rfl

theorem handedOut_append : handedOut (events ++ more) = handedOut events ++ handedOut more :=
  List.filterMap_append

theorem settings_called (other : ConnectionId) (call : Call) (result : Except Fault Unit) :
    settings connection [.called other call result] =
      if other = connection then [call].filter Call.sets else [] := by
  unfold settings callsOn
  by_cases ho : other = connection <;> simp [Event.callOn?, ho]

end Algebra

section Idleness

variable {parameters : Parameters} {events more : List Event}

theorem Idle.settings (h : Idle events) (connection : ConnectionId) :
    settings connection events = [] := by
  induction events with
  | nil => rfl
  | cons event events ih =>
    obtain ⟨⟨-, hevent⟩, hevents⟩ := List.forall_mem_cons.mp h
    rw [settings_cons, hevent, ih hevents]
    rfl

theorem Idle.handedOut (h : Idle events) : handedOut events = [] :=
  List.filterMap_eq_nil_iff.mpr fun event he => (h event he).1

theorem Idle.nil : Idle [] := List.forall_mem_nil _

theorem Idle.append (h : Idle events) (hm : Idle more) : Idle (events ++ more) :=
  List.forall_mem_append.mpr ⟨h, hm⟩

theorem Idle.bringsInLine (h : Idle events) : BringsInLine parameters events := by
  intro connection
  rw [h.settings, h.handedOut]
  rfl

theorem BringsInLine.append (h : BringsInLine parameters events)
    (hm : BringsInLine parameters more) : BringsInLine parameters (events ++ more) := by
  intro connection
  rw [settings_append, handedOut_append, List.flatMap_append, h, hm]

/-- What is set on a connection that was handed out, as long as no connection is handed out
twice. -/
theorem BringsInLine.settings_of_mem (h : BringsInLine parameters events)
    (hf : ((ReplicaRouting.handedOut events).map (·.connection)).Nodup) {handle : Handle}
    (hm : handle ∈ ReplicaRouting.handedOut events) :
    ReplicaRouting.settings handle.connection events = parameters.calls := by
  rw [h]
  generalize ReplicaRouting.handedOut events = handles at hf hm
  induction handles with
  | nil => cases hm
  | cons first handles ih =>
    obtain ⟨hfirst, hrest⟩ := List.nodup_cons.mp hf
    rw [List.flatMap_cons]
    rcases List.mem_cons.mp hm with rfl | hm
    · have hnone : (handles.flatMap fun other =>
          if other.connection = handle.connection then parameters.calls else []) = [] := by
        exact List.flatMap_eq_nil_iff.mpr fun other ho =>
          if_neg fun heq => hfirst (List.mem_map.mpr ⟨other, ho, heq⟩)
      rw [if_pos rfl, hnone, List.append_nil]
    · have hne : first.connection ≠ handle.connection := fun heq =>
        hfirst (List.mem_map.mpr ⟨handle, hm, heq.symm⟩)
      rw [if_neg hne, List.nil_append]
      exact ih hrest hm

theorem BringsInLine.mem_of_settings (h : BringsInLine parameters events)
    {connection : ConnectionId} (hs : ReplicaRouting.settings connection events ≠ []) :
    ∃ handle ∈ ReplicaRouting.handedOut events, handle.connection = connection := by
  by_contra hnone
  push Not at hnone
  refine hs ?_
  rw [h]
  exact List.flatMap_eq_nil_iff.mpr fun handle hm => if_neg (hnone handle hm)

theorem CallFailed.not_unfailing {fault : Fault} (h : CallFailed fault events) :
    ¬Unfailing events := by
  intro hu
  obtain ⟨connection, call, hlast⟩ := h
  have hfailure := hu _ (List.mem_of_getLast? hlast)
  cases hfailure

theorem Refused.not_unfailing {kind : HandleKind} {fault : Fault} (h : Refused kind fault events) :
    ¬Unfailing events := by
  intro hu
  have hfailure := hu _ (List.mem_of_getLast? h)
  cases hfailure

end Idleness

namespace Session

section Courses

variable {session later : Session} {decision : Decision} {events : List Event}
  {result : Except Fault Handle} {ended : Except Fault Unit} {parameters : Parameters}

theorem Fails.not_unfailing {fault : Fault} (h : Fails session later fault events) :
    ¬Unfailing events := by
  cases h with
  | called last => exact last.not_unfailing
  | refused kind last => exact last.not_unfailing
  | goingBack last => exact last.not_unfailing

theorem Calling.eq_successes {connection : ConnectionId} {calls : List Call}
    (h : Calling connection calls ended events) (hu : Unfailing events) :
    events = successes connection calls := by
  induction h with
  | done => rfl
  | failed call calls fault =>
    have hfailure := hu _ (List.mem_singleton_self _)
    cases hfailure
  | next call rest ih =>
    rw [ih (List.forall_mem_cons.mp hu).2]
    rfl

theorem sets_of_mem_calls {call : Call} (h : call ∈ parameters.calls) : call.sets = true := by
  rw [mem_settingCalls] at h
  rcases h with ⟨_, -, rfl⟩ | ⟨_, -, rfl⟩ | ⟨_, -, rfl⟩ | ⟨_, -, rfl⟩ <;> rfl

theorem settings_successes (connection other : ConnectionId) :
    settings connection (successes other parameters.calls) =
      if other = connection then parameters.calls else [] := by
  have hcalls : callsOn connection (successes other parameters.calls) =
      if other = connection then parameters.calls else [] := by
    unfold callsOn successes
    rw [List.filterMap_map]
    split
    · rename_i heq
      subst heq
      refine Eq.trans (List.filterMap_congr fun call _ => ?_) List.filterMap_some
      simp [Event.callOn?]
    · rename_i hne
      exact List.filterMap_eq_nil_iff.mpr fun call _ => if_neg hne
  unfold settings
  rw [hcalls]
  split
  · exact List.filter_eq_self.mpr fun call hc => sets_of_mem_calls hc
  · rfl

theorem idle_refusals (faults : List Fault) : Idle (refusals faults) := by
  intro event he
  obtain ⟨fault, -, rfl⟩ := List.mem_map.mp he
  exact ⟨rfl, fun _ => rfl⟩

theorem idle_called {call : Call} (hs : call.sets = false) (connection : ConnectionId)
    (ended : Except Fault Unit) : Idle [.called connection call ended] := by
  refine List.forall_mem_singleton.mpr ⟨rfl, fun other => ?_⟩
  rw [settings_called]
  simp [hs]

/-- A connection is handed out and brought in line, and nothing else is set meanwhile. -/
theorem bringsInLine_opened {kind : HandleKind} {connection : ConnectionId}
    {released brought : List Event} (hr : Idle released)
    (h : Calling connection parameters.calls ended brought) (hu : Unfailing brought) :
    BringsInLine parameters (.opened kind (.ok connection) :: (released ++ brought)) := by
  obtain rfl := h.eq_successes hu
  have hout : handedOut (successes connection parameters.calls) = [] := by
    refine List.filterMap_eq_nil_iff.mpr fun event he => ?_
    obtain ⟨call, -, rfl⟩ := List.mem_map.mp he
    rfl
  have hhanded : handedOut (.opened kind (.ok connection) ::
      (released ++ successes connection parameters.calls)) = [⟨kind, connection⟩] := by
    change ⟨kind, connection⟩ :: handedOut _ = _
    rw [handedOut_append, hr.handedOut, hout]
    rfl
  intro other
  rw [hhanded, settings_cons, settings_append, hr.settings, settings_successes]
  simp [settings, callsOn, Event.callOn?]

theorem Closing.idle {kind : HandleKind} (h : Closing kind session ended later events) :
    Idle events := by
  cases h with
  | vacant => exact .nil
  | closed _ read =>
    exact List.forall_mem_cons.mpr ⟨⟨rfl, fun _ => rfl⟩, idle_called rfl _ _⟩

theorem Aborting.idle {deadline : Span} {kind : HandleKind}
    (h : Aborting deadline kind session ended later events) : Idle events := by
  cases h with
  | vacant => exact .nil
  | aborted => exact idle_called rfl _ _

theorem Releasing.idle {main : Handle} (h : Releasing main session ended later events) :
    Idle events := by
  cases h with
  | dropped => exact .nil
  | closed _ closes => exact closes.idle

theorem idle_refused (kind : HandleKind) (fault : Fault) : Idle [.opened kind (.error fault)] :=
  List.forall_mem_singleton.mpr ⟨rfl, fun _ => rfl⟩

theorem TakingMain.bringsInLine (h : TakingMain session decision result later events)
    (hu : Unfailing events) : BringsInLine session.parameters events := by
  cases h with
  | kept _ releases => exact releases.idle.bringsInLine
  | refused fault => exact (idle_refused .main fault).bringsInLine
  | unreleased _ releases =>
    -- main has not been brought in line, but then the replica has failed to be closed
    have hfailed := releases.callFailed rfl
    exact absurd (List.forall_mem_cons.mp hu).2 hfailed.not_unfailing
  | opened _ releases brings =>
    have hbrought := (List.forall_mem_append.mp (List.forall_mem_cons.mp hu).2).2
    exact bringsInLine_opened releases.idle brings hbrought

theorem Pinning.bringsInLine (h : Pinning session decision result later events)
    (hu : Unfailing events) : BringsInLine session.parameters events := by
  cases h with
  | taken takes => exact takes.bringsInLine hu

theorem Diverting.bringsInLine (h : Diverting session decision result later events)
    (hu : Unfailing events) : BringsInLine session.parameters events := by
  cases h with
  | forGood _ pins => exact pins.bringsInLine hu
  | untilCaughtUp _ takes => exact takes.bringsInLine hu

theorem TakingReplica.bringsInLine (h : TakingReplica session decision result later events)
    (hu : Unfailing events) : BringsInLine session.parameters events := by
  cases h with
  | kept => exact Idle.nil.bringsInLine
  | refused fault => exact (idle_refused .replica fault).bringsInLine
  | opened _ brings =>
    exact bringsInLine_opened .nil brings (List.forall_mem_cons.mp hu).2

theorem Consulting.bringsInLine (h : Consulting session decision ended later events)
    (hu : Unfailing events) : BringsInLine session.parameters events := by
  cases h with
  | idle faults => exact (idle_refusals faults).bringsInLine
  | adopted faults _ brings =>
    have hbrought := (List.forall_mem_cons.mp (List.forall_mem_append.mp hu).2).2
    exact (idle_refusals faults).bringsInLine.append
      (bringsInLine_opened .nil brings hbrought)

theorem Following.bringsInLine (h : Following session decision result later events)
    (hu : Unfailing events) : BringsInLine session.parameters events := by
  have hsame {other : Session} (hs : other.standing = session.standing) :
      other.parameters = session.parameters := congrArg Prod.snd hs
  cases h with
  | main takes => exact takes.bringsInLine hu
  | withoutReplica _ diverts => exact diverts.bringsInLine hu
  | unadopted _ consults => exact consults.bringsInLine hu
  | diverted _ consults diverts =>
    obtain ⟨hfirst, hlater⟩ := List.forall_mem_append.mp hu
    have hdiverts := diverts.bringsInLine hlater
    rw [hsame consults.standing] at hdiverts
    exact (consults.bringsInLine hfirst).append hdiverts
  | unclosed consults _ closes =>
    obtain ⟨hfirst, -⟩ := List.forall_mem_append.mp hu
    exact (consults.bringsInLine hfirst).append closes.idle.bringsInLine
  | returned consults _ closes takes =>
    obtain ⟨hfirst, hrest⟩ := List.forall_mem_append.mp hu
    have htakes := takes.bringsInLine (List.forall_mem_append.mp hrest).2
    rw [hsame (closes.standing.trans consults.standing)] at htakes
    exact (consults.bringsInLine hfirst).append (closes.idle.bringsInLine.append htakes)
  | stayed _ _ consults takes =>
    obtain ⟨hfirst, hlater⟩ := List.forall_mem_append.mp hu
    have htakes := takes.bringsInLine hlater
    rw [hsame consults.standing] at htakes
    exact (consults.bringsInLine hfirst).append htakes

theorem Ending.idle
    {slot : HandleKind → Session → Except Fault Unit → Session → List Event → Prop}
    (hslot : ∀ {kind session result later events}, slot kind session result later events →
      Idle events)
    (h : Ending slot session ended later events) : Idle events := by
  cases h with
  | again => exact .nil
  | ended _ mainEnds replicaEnds => exact (hslot mainEnds).append (hslot replicaEnds)

/-- Whatever moves handles about brings those it opens in line, and sets nothing else. -/
theorem Performing.bringsInLine {operation : Operation} {answer : Except Fault Answer}
    (h : Performing session operation answer later events) (ha : operation.isAside = false)
    (hu : Unfailing events) : BringsInLine session.parameters events := by
  cases h with
  | read _ reads =>
    cases reads with
    | refused => exact Idle.nil.bringsInLine
    | followed _ _ follows => exact follows.bringsInLine hu
  | write _ writes =>
    cases writes with
    | refused => exact Idle.nil.bringsInLine
    | pinned _ pins => exact pins.bringsInLine hu
  | close ends => exact (ends.idle fun h => h.idle).bringsInLine
  | abort _ ends => exact (ends.idle fun h => h.idle).bringsInLine
  | aside isAside =>
    rw [isAside] at ha
    cases ha

/-- Main and a replica come to be held side by side only by a failure. -/
theorem Performing.alone_of_unfailing {operation : Operation} {answer : Except Fault Answer}
    (h : Performing session operation answer later events) (ht : Tidy session)
    (hn : ¬session.HoldsBoth) (hu : Unfailing events) : ¬later.HoldsBoth := by
  intro hb
  rcases (h.holdsBoth_iff ht).mp hb with ⟨-, hboth⟩ | hs
  · exact hn hboth
  by_cases hread : ∃ seed, operation = .readHandle seed
  · obtain ⟨fault, hf⟩ := hs.fails
    have hopen := (main_of_lent hs.lent).1
    exact (h.fails hopen (.inl hread) hf).not_unfailing hu
  · have hunopened := (h.unasked fun seed ho => hread ⟨seed, ho⟩).unopened
    exact not_strands_of_unopened hunopened hs

end Courses

end Session

end ReplicaRouting
