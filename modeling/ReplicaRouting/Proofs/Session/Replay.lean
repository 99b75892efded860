import ReplicaRouting.Proofs.Session.Applied

/-!
Where nothing fails, a handle that is held has just that set on it which the session has recorded:
the statements in their order, each of them once, and the latest value of every other parameter.
-/

namespace ReplicaRouting

namespace Session

open Act

/-- What an operation that leaves the handles alone does about the parameters: nothing, or it
records one and sets it on the handle that is held. -/
inductive Setting (session later : Session) (events : List Event) : Prop where
  | kept (parameters : later.parameters = session.parameters) (idle : Idle events)
  | set (call : Call)
      (recorded : ∀ calls, Parameters.applied calls = session.parameters →
        Parameters.applied (calls ++ [call]) = later.parameters)
      (made : ∀ handle, session.currentHandle = some handle → ¬session.HoldsBoth →
        settings handle.connection events = [call])
      (only : ∀ connection, settings connection events ≠ [] →
        ∃ kind handle, session.hand kind = some handle ∧ handle.connection = connection)

section Asides

variable {σ : Type} (among : Collaborators σ) (session : Session)

/-- A course on which, unless something fails, nothing is set that is not recorded as well. -/
def Sets (later : Session) (events : List Event) : Prop :=
  Unfailing events → Setting session later events

theorem sets_idle {later : Session} {events : List Event}
    (hp : later.parameters = session.parameters) (hi : Idle events) : Sets session later events :=
  fun _ => .kept hp hi

theorem sets_of_failure {later : Session} {events : List Event} (h : ¬Unfailing events) :
    Sets session later events := fun hu => absurd hu h

theorem opened_sets {α : Type} {next : Session → Act (Chronicle σ Event) α}
    (h : Proceeds (next session) session fun _ later events => Sets session later events) :
    Proceeds (do ensureOpen; next (← Act.session)) session
      fun _ later events => Sets session later events :=
  opened_proceeds session (fun _ => sets_idle session rfl .nil) fun _ => h

theorem not_unfailing_called (connection : ConnectionId) (call : Call) (fault : Fault)
    (events : List Event) : ¬Unfailing (events ++ [.called connection call (.error fault)]) := by
  intro hu
  have hfailure := hu (.called connection call (.error fault)) (by simp)
  cases hfailure

/-- A call on a handle that may be held fails only in the database. -/
theorem callIfHeld_made (held : Option Handle) (call : Call) :
    Asks (request (among.watched.database.callIfHeld held call)) session
      fun result events => events = callEvents held call result ∧
        ∀ fault, result = .error fault → ¬Unfailing events := by
  cases held with
  | none => exact proceeds_pure () ⟨rfl, rfl, nofun⟩
  | some handle =>
    apply (call_called among session handle.connection call).mono
    rintro result _ rfl
    refine ⟨rfl, rfl, ?_⟩
    rintro fault rfl
    exact not_unfailing_called handle.connection call fault []

theorem idle_callEvents {call : Call} (hs : call.sets = false) (held : Option Handle)
    (result : Except Fault Unit) : Idle (callEvents held call result) := by
  cases held with
  | none => exact .nil
  | some handle => exact idle_called hs handle.connection result

theorem settings_callEvents {call : Call} (hs : call.sets = true) (held : Option Handle)
    (result : Except Fault Unit) (connection : ConnectionId) :
    settings connection (callEvents held call result) =
      if held.any (·.connection = connection) then [call] else [] := by
  cases held with
  | none => rfl
  | some handle =>
    refine (settings_called connection handle.connection call result).trans ?_
    simp [hs]

theorem held_of_settings {held : Option Handle} {call : Call} {result : Except Fault Unit}
    {connection : ConnectionId} (h : settings connection (callEvents held call result) ≠ []) :
    ∃ handle, held = some handle ∧ handle.connection = connection := by
  cases held with
  | none => exact absurd rfl h
  | some handle =>
    refine ⟨handle, rfl, of_not_not fun hne => h ?_⟩
    exact (settings_called connection handle.connection call result).trans (if_neg hne)

/-- A call on the handle in use that sets nothing. -/
theorem calling_sets {call : Call} (hs : call.sets = false) (held : Option Handle) :
    Proceeds (request (among.watched.database.callIfHeld held call)) session
      fun _ later events => Sets session later events := by
  apply (callIfHeld_called among session held call).mono
  rintro result _ rfl
  exact sets_idle session rfl (idle_callEvents hs held result)

theorem recordWrite_sets :
    Proceeds (recordWrite among.watched) session
      fun _ later events => Sets session later events := by
  have hidle : Sets session session [] := sets_idle session rfl .nil
  apply proceeds_session
  split
  · cases session.main.handle? with
    | some main => exact proceeds_affect_last _ hidle
    | none => exact proceeds_pure () hidle
  · exact proceeds_pure () hidle

theorem commit_sets :
    Proceeds (commit among.watched) session
      fun _ later events => Sets session later events := by
  apply opened_sets
  split
  · exact proceeds_pure () (sets_idle session rfl .nil)
  rename_i handle _
  have hend (pinned : Bool) : Proceeds
      (do request (among.watched.database.call handle.connection .commit)
          if pinned && !session.parameters.autoCommits then
            affect (among.watched.tracker.write handle) : Act (Chronicle σ Event) Unit) session
      fun _ later events => Sets session later events := by
    have hm (result : Except Fault Unit) : Sets session session
        [.called handle.connection .commit result] :=
      sets_idle session rfl (idle_called rfl _ result)
    apply (call_called among session handle.connection .commit).bind
    · rintro fault _ rfl
      exact hm _
    rintro _ _ rfl
    split
    · exact proceeds_affect_last _ (hm _)
    · exact proceeds_pure () (hm _)
  dsimp only
  split
  · exact proceeds_affect _ (hend _)
  · exact hend _

theorem rollback_sets :
    Proceeds (rollback among.watched) session
      fun _ later events => Sets session later events :=
  opened_sets session (calling_sets among session rfl _)

theorem hand_of_currentHandle {session : Session} {handle : Handle}
    (h : session.currentHandle = some handle) : ∃ kind, session.hand kind = some handle := by
  rcases currentHandle_held h with hm | hr
  · exact ⟨.main, hm⟩
  · exact ⟨.replica, hr⟩

theorem only_hand_of_currentHandle {session : Session} {handle : Handle}
    (h : session.currentHandle = some handle) (hn : ¬session.HoldsBoth) :
    session.hand .main = some handle ∧ session.hand .replica = none ∨
      session.hand .main = none ∧ session.hand .replica = some handle := by
  rcases currentHandle_held h with hm | hr
  · refine .inl ⟨hm, ?_⟩
    cases hr : session.hand .replica with
    | none => rfl
    | some replica =>
      have hmain : session.hand .main = some handle := hm
      exact absurd ⟨hand_ready hmain, hand_ready hr⟩ hn
  · refine .inr ⟨?_, hr⟩
    cases hm : session.hand .main with
    | none => rfl
    | some main =>
      have hreplica : session.hand .replica = some handle := hr
      exact absurd ⟨hand_ready hm, hand_ready hreplica⟩ hn

/-- What the setters have in common: the value is set on the handle in use before it is
recorded. -/
theorem setting_sets {call : Call} (hs : call.sets = true) {parameters : Parameters}
    (recorded : ∀ calls, Parameters.applied calls = session.parameters →
      Parameters.applied (calls ++ [call]) = parameters)
    {next : Parameters → Act (Chronicle σ Event) Unit}
    (hn : Proceeds (next parameters) session fun _ later events =>
      later.parameters = parameters ∧ events = []) :
    Proceeds
      (do
        let parameters ← request (do
          among.watched.database.callIfHeld session.currentHandle call
          return parameters)
        next parameters : Act (Chronicle σ Event) Unit) session
      fun _ later events => Sets session later events := by
  rw [request_bind_eq, bind_assoc]
  apply (callIfHeld_made among session session.currentHandle call).bind
  · exact fun fault _ ⟨_, hf⟩ => sets_of_failure session (hf fault rfl)
  rintro _ _ ⟨rfl, -⟩
  apply proceeds_request_pure
  apply hn.mono
  rintro _ later _ ⟨hl, rfl⟩
  rw [List.append_nil]
  refine fun _ => .set call (fun calls hc => (recorded calls hc).trans hl.symm) ?_ ?_
  · intro handle hh _
    rw [settings_callEvents hs, hh]
    simp
  · intro connection hne
    obtain ⟨handle, hh, hc⟩ := held_of_settings hne
    obtain ⟨kind, hk⟩ := hand_of_currentHandle hh
    exact ⟨kind, handle, hk, hc⟩

theorem setAutoCommit_sets (value : Bool) :
    Proceeds (setAutoCommit among.watched value) session
      fun _ later events => Sets session later events := by
  apply opened_sets
  apply setting_sets among session rfl
  · exact fun calls => Parameters.applied_concat _
  · apply proceeds_update
    split
    · cases session.main.handle? with
      | some main => exact proceeds_affect_last _ ⟨rfl, rfl⟩
      | none => exact proceeds_pure () ⟨rfl, rfl⟩
    · exact proceeds_pure () ⟨rfl, rfl⟩

theorem setReadOnly_sets (value : Bool) :
    Proceeds (setReadOnly among.watched value) session
      fun _ later events => Sets session later events := by
  apply opened_sets
  apply setting_sets among session rfl
  · exact fun calls => Parameters.applied_concat _
  · exact proceeds_update_last _ ⟨rfl, rfl⟩

theorem setIsolation_sets (level : Isolation) :
    Proceeds (setIsolation among.watched level) session
      fun _ later events => Sets session later events := by
  apply opened_sets
  apply setting_sets among session rfl
  · exact fun calls => Parameters.applied_concat _
  · exact proceeds_update_last _ ⟨rfl, rfl⟩

/-- A statement is executed on both handles, so that it is executed once if only one is held. -/
theorem applySetStatement_sets (sql : String) :
    Proceeds (applySetStatement among.watched sql) session
      fun _ later events => Sets session later events := by
  apply opened_sets
  apply (callIfHeld_made among session session.main.handle? (.execute sql)).bind
  · exact fun fault _ ⟨_, hf⟩ => sets_of_failure session (hf fault rfl)
  rintro _ _ ⟨rfl, -⟩
  apply (callIfHeld_made among session session.replica.handle? (.execute sql)).bind
  · rintro fault events ⟨-, hf⟩
    exact sets_of_failure session fun hu => hf fault rfl (List.forall_mem_append.mp hu).2
  rintro _ _ ⟨rfl, -⟩
  apply proceeds_update_last
  rw [List.append_nil]
  refine fun _ => .set (.execute sql) (fun calls => Parameters.applied_concat (.execute sql))
    (fun handle hh halone => ?_) (fun connection hne => ?_)
  · rw [settings_append, settings_callEvents rfl, settings_callEvents rfl]
    rcases only_hand_of_currentHandle hh halone with ⟨hm, hr⟩ | ⟨hm, hr⟩
    · rw [show session.main.handle? = _ from hm, show session.replica.handle? = _ from hr]
      simp
    · rw [show session.main.handle? = _ from hm, show session.replica.handle? = _ from hr]
      simp
  · rw [settings_append] at hne
    by_cases hmain :
        settings connection (callEvents session.main.handle? (.execute sql) (.ok ())) = []
    · rw [hmain, List.nil_append] at hne
      obtain ⟨handle, hh, hc⟩ := held_of_settings hne
      exact ⟨.replica, handle, hh, hc⟩
    · obtain ⟨handle, hh, hc⟩ := held_of_settings hmain
      exact ⟨.main, handle, hh, hc⟩

theorem listWarnings_sets :
    Proceeds (listWarnings among.watched) session
      fun _ later events => Sets session later events := by
  apply opened_sets
  split
  · rename_i handle _
    have hw : Asks (request (among.watched.database.warnings handle.connection)) session
        fun result events => events = [.collected handle.connection result] := asks_entering _ _
    have hidle (result : Except Fault (List Warning)) :
        Idle [.collected handle.connection result] :=
      List.forall_mem_singleton.mpr ⟨rfl, fun _ => rfl⟩
    apply hw.bind
    · rintro fault _ rfl
      exact sets_idle session rfl (hidle _)
    rintro fresh _ rfl
    apply proceeds_update
    exact proceeds_session (proceeds_pure _ (sets_idle session rfl (hidle _)))
  · exact proceeds_session (proceeds_pure _ (sets_idle session rfl .nil))

theorem clearWarnings_sets :
    Proceeds (clearWarnings among.watched) session
      fun _ later events => Sets session later events := by
  apply opened_sets
  apply (callIfHeld_called among session session.currentHandle .clearWarnings).bind
  · rintro fault _ rfl
    exact sets_idle session rfl (idle_callEvents rfl _ _)
  rintro _ _ rfl
  apply proceeds_update_last
  rw [List.append_nil]
  exact sets_idle session rfl (idle_callEvents rfl _ _)

theorem perform_sets {operation : Operation} (ha : operation.isAside = true) :
    Proceeds (perform among.watched operation) session
      fun _ later events => Sets session later events := by
  have hdone {act : Act (Chronicle σ Event) Unit}
      (h : Proceeds act session fun _ later events => Sets session later events) :
      Proceeds
        (do
          act
          return Answer.done : Act (Chronicle σ Event) Answer) session
        fun _ later events => Sets session later events :=
    done_proceeds session h fun _ _ _ hs => hs
  cases operation with
  | readHandle _ | writeHandle _ | close | abort _ => cases ha
  | recordWrite => exact hdone (recordWrite_sets among session)
  | commit => exact hdone (commit_sets among session)
  | rollback => exact hdone (rollback_sets among session)
  | setAutoCommit value => exact hdone (setAutoCommit_sets among session value)
  | setReadOnly value => exact hdone (setReadOnly_sets among session value)
  | setIsolation level => exact hdone (setIsolation_sets among session level)
  | applySetStatement sql => exact hdone (applySetStatement_sets among session sql)
  | listWarnings => exact (listWarnings_sets among session).map _ fun _ _ _ hs => hs
  | clearWarnings => exact hdone (clearWarnings_sets among session)

/-- What a turn that leaves the handles alone does about the parameters, where nothing fails. -/
theorem turn_setting {turn : Turn σ} (ha : turn.operation.isAside = true)
    (hu : Unfailing (entries among.watched session turn)) :
    Setting session (session.after among turn) (entries among.watched session turn) :=
  entries_of_proceeds among.watched_agrees (perform_sets among session ha) hu

end Asides

/-- Each handle that is held has just the recorded parameters set on it, nothing was ever set on a
connection that was not handed out, and there is no replica beside main. -/
structure InLine (history : List Event) (session : Session) : Prop where
  each : ∀ kind handle, session.hand kind = some handle →
    Parameters.applied (settings handle.connection history) = session.parameters
  only : ∀ connection, settings connection history ≠ [] →
    ∃ handle ∈ handedOut history, handle.connection = connection
  alone : ¬session.HoldsBoth

namespace InLine

variable {history events : List Event} {session later : Session}

theorem only_append (h : InLine history session)
    (he : ∀ connection, settings connection events ≠ [] →
      ∃ handle ∈ handedOut (history ++ events), handle.connection = connection)
    (connection : ConnectionId) (hs : settings connection (history ++ events) ≠ []) :
    ∃ handle ∈ handedOut (history ++ events), handle.connection = connection := by
  by_cases hbefore : settings connection history = []
  · rw [settings_append, hbefore, List.nil_append] at hs
    exact he connection hs
  · obtain ⟨handle, hm, hc⟩ := h.only connection hbefore
    rw [handedOut_append]
    exact ⟨handle, List.mem_append_left _ hm, hc⟩

/-- The handle that is held is the one in use. -/
theorem current (h : InLine history session) (ht : Tidy session) {kind : HandleKind}
    {handle : Handle} (hh : session.hand kind = some handle) :
    session.currentHandle = some handle := by
  rcases currentHandle_or_beside (ht.open_of_held hh) hh with hcurrent | ⟨rfl, main, hm⟩
  · exact hcurrent
  · exact absurd ⟨hand_ready hm, hand_ready hh⟩ h.alone

variable (hc : Custody noHands history session.hand)
include hc

/-- Whatever is held was handed out, and with each connection it was so once. -/
theorem mem_of_held {kind : HandleKind} {handle : Handle} (hh : session.hand kind = some handle) :
    handle ∈ handedOut history := by
  rcases hc.mem_handedOut hh with hn | ⟨-, hm⟩
  · cases hn
  · exact hm

/-- A handle that is opened is brought in line as a whole, and one that is kept is left alone. -/
theorem moved (h : InLine history session)
    (hf : ((handedOut (history ++ events)).map (·.connection)).Nodup)
    (hmoves : Custody session.hand events later.hand) (hp : later.parameters = session.parameters)
    (hb : BringsInLine session.parameters events) (ha : ¬later.HoldsBoth) :
    InLine (history ++ events) later := by
  rw [handedOut_append, List.map_append] at hf
  obtain ⟨-, hevents, hapart⟩ := List.nodup_append.mp hf
  have hnot {first second : Handle} (hm : first ∈ handedOut history)
      (hn : second ∈ handedOut events) : first.connection ≠ second.connection :=
    hapart _ (List.mem_map_of_mem hm) _ (List.mem_map_of_mem hn)
  refine ⟨fun kind handle hh => ?_, h.only_append fun connection hs => ?_, ha⟩
  · rw [settings_append, hp]
    rcases hmoves.mem_handedOut hh with hheld | ⟨-, hm⟩
    · -- nothing is set now on a connection that was handed out before
      have hnone : settings handle.connection events = [] := by
        by_contra hs
        obtain ⟨other, ho, hc'⟩ := hb.mem_of_settings hs
        exact hnot (mem_of_held hc hheld) ho hc'.symm
      rw [hnone, List.append_nil]
      exact h.each kind handle hheld
    · -- nothing was set before on a connection that is handed out now
      have hnone : settings handle.connection history = [] := by
        by_contra hs
        obtain ⟨other, ho, hc'⟩ := h.only _ hs
        exact hnot ho hm hc'
      rw [hnone, List.nil_append, hb.settings_of_mem hevents hm]
      exact Parameters.applied_calls session.parameters
  · obtain ⟨handle, hm, hc'⟩ := hb.mem_of_settings hs
    rw [handedOut_append]
    exact ⟨handle, List.mem_append_right _ hm, hc'⟩

/-- A parameter is set on the handle that is held as it is recorded. -/
theorem aside (h : InLine history session) (ht : Tidy session)
    (haside : later.core = session.core) (hs : Setting session later events) :
    InLine (history ++ events) later := by
  have hhand := hand_of_core haside
  have halone : ¬later.HoldsBoth := fun hb => h.alone (hb.of_core haside.symm)
  cases hs with
  | kept parameters idle =>
    refine ⟨fun kind handle hh => ?_, h.only_append fun connection hne => ?_, halone⟩
    · rw [settings_append, idle.settings, List.append_nil, parameters]
      rw [hhand] at hh
      exact h.each kind handle hh
    · exact absurd (idle.settings connection) hne
  | set call recorded made only =>
    refine ⟨fun kind handle hh => ?_, h.only_append fun connection hne => ?_, halone⟩
    · rw [hhand] at hh
      rw [settings_append, made handle (h.current ht hh) h.alone]
      exact recorded _ (h.each kind handle hh)
    · obtain ⟨kind, handle, hh, hc'⟩ := only connection hne
      rw [handedOut_append]
      exact ⟨handle, List.mem_append_left _ (mem_of_held hc hh), hc'⟩

end InLine

section Runs

variable {σ : Type} (among : Collaborators σ)

theorem run_inLine (turns : List (Turn σ)) (id : String)
    (fresh : ((handedOut (account among.watched turns { id })).map (·.connection)).Nodup)
    (unfailing : Unfailing (account among.watched turns { id })) :
    InLine (account among.watched turns { id }) (run among turns { id }) := by
  have hnone : ({ id } : Session).hand = noHands := hand_emptied ⟨rfl, rfl⟩
  induction turns using List.reverseRecOn with
  | nil =>
    refine ⟨fun kind handle hh => ?_, fun connection hs => absurd rfl hs,
      not_holdsBoth_of_noHands hnone⟩
    cases (congrFun hnone kind).symm.trans hh
  | append_singleton turns turn ih =>
    rw [account_concat among.watched_agrees] at fresh unfailing ⊢
    rw [run_concat]
    obtain ⟨hbefore, hentries⟩ := List.forall_mem_append.mp unfailing
    have hfresh : ((handedOut (account among.watched turns { id })).map (·.connection)).Nodup := by
      rw [handedOut_append, List.map_append] at fresh
      exact fresh.of_append_left
    have hinline := ih hfresh hbefore
    have htidy : Tidy (run among turns { id }) := (run_tidy among turns fun _ => hnone).1
    have hcustody := run_custody among turns { id }
    rw [hnone] at hcustody
    have hp := turn_performing among (run among turns { id }) turn
    cases ha : turn.operation.isAside with
    | false =>
      exact hinline.moved hcustody fresh hp.custody (hp.parameters ha)
        (hp.bringsInLine ha hentries) (hp.alone_of_unfailing htidy hinline.alone hentries)
    | true =>
      have hcore := perform_aside among ha ⟨run among turns { id }, turn.world⟩
      exact hinline.aside hcustody htidy hcore (turn_setting among _ ha hentries)

/-- Over every run in which nothing fails and no connection is handed out twice, handles are in line
with their session: what is held is in use, and the session has executed on it just the statements
that it has recorded, each of them once and in their order. Of every other parameter it has last set
the value that it has recorded, and none if it has recorded none. -/
theorem held_handle_replayed (turns : List (Turn σ)) (id : String)
    (fresh : ((handedOut (account among.watched turns { id })).map (·.connection)).Nodup)
    (unfailing : Unfailing (account among.watched turns { id })) :
    let session := run among turns { id }
    ∀ kind handle, session.hand kind = some handle →
      let calls := callsOn handle.connection (account among.watched turns { id })
      session.currentHandle = some handle ∧
      calls.filterMap Call.statement? = session.parameters.setStatements ∧
      (calls.filterMap Call.autoCommit?).getLast? = session.parameters.autoCommit? ∧
      (calls.filterMap Call.isolation?).getLast? = session.parameters.isolation? ∧
      (calls.filterMap Call.readOnly?).getLast? = session.parameters.readOnly? := by
  intro session kind handle hh calls
  have hinline := run_inLine among turns id fresh unfailing
  have htidy : Tidy session := (run_tidy among turns (by rintro ⟨⟩)).1
  have happlied : Parameters.applied calls = session.parameters := by
    rw [← Parameters.applied_filter]
    exact hinline.each kind handle hh
  exact ⟨hinline.current htidy hh, congrArg Parameters.setStatements happlied,
    congrArg Parameters.autoCommit? happlied, congrArg Parameters.isolation? happlied,
    congrArg Parameters.readOnly? happlied⟩

/-- A statement that was set on a replica is replayed on main, and a later one is executed there. -/
theorem statements_follow_to_main :
    let among := Deployment.obliging.collaborators
    let turns : List (Turn Bool) :=
      [⟨.setIsolation .readCommitted, true⟩, ⟨.readHandle (.read "SELECT 1"), true⟩,
        ⟨.applySetStatement "SET search_path TO app", true⟩,
        ⟨.writeHandle (.write "DELETE FROM t"), true⟩, ⟨.setAutoCommit false, true⟩,
        ⟨.applySetStatement "SET timezone TO 'UTC'", true⟩]
    let session := run among turns { id := "a" }
    let calls := callsOn ⟨0⟩ (account among.watched turns { id := "a" })
    session.currentHandle = some (.main ⟨0⟩) ∧
      calls.filterMap Call.statement? = ["SET search_path TO app", "SET timezone TO 'UTC'"] ∧
      (calls.filterMap Call.autoCommit?).getLast? = some false ∧
      (calls.filterMap Call.isolation?).getLast? = some .readCommitted ∧
      (calls.filterMap Call.readOnly?).getLast? = none := by
  intro among turns session calls
  have fresh : ((handedOut (account among.watched turns { id := "a" })).map
      (·.connection)).Nodup := by decide +kernel
  have unfailing : Unfailing (account among.watched turns { id := "a" }) := by
    unfold Unfailing
    decide +kernel
  have hheld : session.hand .main = some (.main ⟨0⟩) := by decide +kernel
  have hparameters : session.parameters =
      { autoCommit? := some false, isolation? := some .readCommitted,
        setStatements := ["SET search_path TO app", "SET timezone TO 'UTC'"] } := by
    decide +kernel
  have hall := held_handle_replayed among turns "a" fresh unfailing .main (.main ⟨0⟩) hheld
  rw [show (run among turns { id := "a" }).parameters = _ from hparameters] at hall
  exact hall

end Runs

end Session

end ReplicaRouting
