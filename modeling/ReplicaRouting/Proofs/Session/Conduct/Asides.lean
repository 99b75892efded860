import ReplicaRouting.Proofs.Session.Conduct.Routing

/-!
The operations that leave the handles alone. Those that set a parameter make the call for it on the
handle in use.
-/

namespace ReplicaRouting.Session

open Act

variable {σ : Type} (among : Collaborators σ) (session : Session)

section Asides

/-- An operation that does not touch the session beyond its warnings. -/
theorem Aside.of_parameters {later : Session} {events : List Event}
    (hc : later.core = session.core) (hp : later.parameters = session.parameters)
    (hm : ∀ event ∈ events, event.isCall = true) : Aside session later events :=
  ⟨hc, hm, fun _ h => .inl (hp ▸ h)⟩

theorem Aside.unchanged : Aside session session [] := .of_parameters session rfl rfl (by simp)

/-- Operations of an open session that leave the handles alone. -/
theorem opened_aside {α : Type} {next : Session → Act (Chronicle σ Event) α}
    (h : session.closed = false →
      Proceeds (next session) session fun _ later events => Aside session later events) :
    Proceeds (do ensureOpen; next (← Act.session)) session
      fun _ later events => Aside session later events :=
  opened_proceeds session (fun _ => .unchanged session) h

/-- What a call on a handle enters, if there is one to make it on. -/
def callEvents (held : Option Handle) (call : Call) (result : Except Fault Unit) : List Event :=
  (held.map fun handle => .called handle.connection call result).toList

theorem callEvents_isCall {call : Call} (hc : call.ends = false) (held : Option Handle)
    (result : Except Fault Unit) : ∀ event ∈ callEvents held call result, event.isCall = true := by
  intro event he
  obtain ⟨handle, -, rfl⟩ := Option.map_eq_some_iff.mp (Option.mem_toList.mp he)
  simp only [Event.isCall, hc, Bool.not_false]

theorem mem_callEvents {handle : Handle} (call : Call) (result : Except Fault Unit) :
    .called handle.connection call result ∈ callEvents (some handle) call result :=
  List.mem_singleton_self _

theorem callIfHeld_called (held : Option Handle) (call : Call) :
    Asks (request (among.watched.database.callIfHeld held call)) session
      fun result events => events = callEvents held call result := by
  cases held with
  | none => exact proceeds_pure () ⟨rfl, rfl⟩
  | some handle => exact call_called among session handle.connection call

theorem recordWrite_aside :
    Proceeds (recordWrite among.watched) session
      fun _ later events => Aside session later events := by
  apply proceeds_session
  split
  · cases session.main.handle? with
    | some main => exact proceeds_affect_last _ (.unchanged session)
    | none => exact proceeds_pure () (.unchanged session)
  · exact proceeds_pure () (.unchanged session)

theorem commit_aside :
    Proceeds (commit among.watched) session
      fun _ later events => Aside session later events := by
  apply opened_aside
  intro _
  split
  · exact proceeds_pure () (.unchanged session)
  rename_i handle _
  have hend (pinned : Bool) : Proceeds
      (do request (among.watched.database.call handle.connection .commit)
          if pinned && !session.parameters.autoCommits then
            affect (among.watched.tracker.write handle) : Act (Chronicle σ Event) Unit) session
      fun _ later events => Aside session later events := by
    have hm (result : Except Fault Unit) : Aside session session
        [.called handle.connection .commit result] :=
      .of_parameters session rfl rfl (callEvents_isCall rfl (some handle) result)
    apply (call_called among session handle.connection .commit).bind
    · rintro fault _ rfl
      exact hm _
    rintro _ _ rfl
    split
    · exact proceeds_affect_last _ (hm _)
    · exact proceeds_pure () (hm _)
  dsimp only
  split
  · exact proceeds_affect _ (hend _)
  · exact hend _

theorem rollback_aside :
    Proceeds (rollback among.watched) session
      fun _ later events => Aside session later events := by
  apply opened_aside
  intro _
  apply (callIfHeld_called among session session.currentHandle .rollback).mono
  rintro result _ rfl
  exact .of_parameters session rfl rfl (callEvents_isCall rfl _ result)

section Setting

variable {call : Call} (hc : call.ends = false) {parameters : Parameters}
  (hp : ∀ other ∈ parameters.calls, other = call ∨ other ∈ session.parameters.calls)
include hc hp

/-- What the setters have in common: the value is set on the handle in use before it is
recorded. -/
theorem setting_aside {next : Parameters → Act (Chronicle σ Event) Unit}
    (hn : Proceeds (next parameters) session fun _ later events =>
      later = { session with parameters } ∧ events = []) :
    Proceeds
      (do
        let parameters ← request (do
          among.watched.database.callIfHeld session.currentHandle call
          return parameters)
        next parameters : Act (Chronicle σ Event) Unit) session
      fun _ later events => Aside session later events := by
  rw [request_bind_eq, bind_assoc]
  apply (callIfHeld_called among session session.currentHandle call).bind
  · rintro fault _ rfl
    exact .of_parameters session rfl rfl (callEvents_isCall hc _ _)
  rintro _ _ rfl
  apply proceeds_request_pure
  apply hn.mono
  rintro _ _ _ ⟨rfl, rfl⟩
  rw [List.append_nil]
  refine ⟨rfl, callEvents_isCall hc _ _, fun other ho => ?_⟩
  rcases hp other ho with rfl | ho
  · refine .inr fun handle hh => ?_
    rw [hh]
    exact mem_callEvents _ _
  · exact .inl ho

end Setting

theorem mem_settingCalls (parameters : Parameters) (call : Call) :
    call ∈ parameters.calls ↔
      (∃ value, parameters.autoCommit? = some value ∧ call = .setAutoCommit value) ∨
        (∃ level, parameters.isolation? = some level ∧ call = .setIsolation level) ∨
        (∃ value, parameters.readOnly? = some value ∧ call = .setReadOnly value) ∨
        ∃ sql ∈ parameters.setStatements, call = .execute sql := by
  simp only [Parameters.calls, Parameters.settingCalls, List.mem_append, Option.mem_toList,
    Option.map_eq_some_iff, List.mem_map, or_assoc, eq_comm]

theorem setAutoCommit_aside (value : Bool) :
    Proceeds (setAutoCommit among.watched value) session
      fun _ later events => Aside session later events := by
  apply opened_aside
  intro _
  apply setting_aside among session rfl
  · intro other ho
    rw [mem_settingCalls] at ho ⊢
    rcases ho with ⟨_, hv, rfl⟩ | ho
    · cases hv
      exact .inl rfl
    · exact .inr (.inr ho)
  · apply proceeds_update
    split
    · cases session.main.handle? with
      | some main => exact proceeds_affect_last _ ⟨rfl, rfl⟩
      | none => exact proceeds_pure () ⟨rfl, rfl⟩
    · exact proceeds_pure () ⟨rfl, rfl⟩

theorem setReadOnly_aside (value : Bool) :
    Proceeds (setReadOnly among.watched value) session
      fun _ later events => Aside session later events := by
  apply opened_aside
  intro _
  apply setting_aside among session rfl
  · intro other ho
    rw [mem_settingCalls] at ho ⊢
    rcases ho with ho | ho | ⟨_, hv, rfl⟩ | ho
    · exact .inr (.inl ho)
    · exact .inr (.inr (.inl ho))
    · cases hv
      exact .inl rfl
    · exact .inr (.inr (.inr (.inr ho)))
  · exact proceeds_update_last _ ⟨rfl, rfl⟩

theorem setIsolation_aside (level : Isolation) :
    Proceeds (setIsolation among.watched level) session
      fun _ later events => Aside session later events := by
  apply opened_aside
  intro _
  apply setting_aside among session rfl
  · intro other ho
    rw [mem_settingCalls] at ho ⊢
    rcases ho with ho | ⟨_, hv, rfl⟩ | ho
    · exact .inr (.inl ho)
    · cases hv
      exact .inl rfl
    · exact .inr (.inr (.inr ho))
  · exact proceeds_update_last _ ⟨rfl, rfl⟩

theorem currentHandle_held {session : Session} {handle : Handle}
    (h : session.currentHandle = some handle) :
    session.main.handle? = some handle ∨ session.replica.handle? = some handle := by
  unfold currentHandle at h
  cases hp : session.phase <;> rw [hp] at h
  case replica => exact .inr h
  case main => exact .inl h
  case committedMain => exact .inl h
  all_goals cases h

theorem applySetStatement_aside (sql : String) :
    Proceeds (applySetStatement among.watched sql) session
      fun _ later events => Aside session later events := by
  apply opened_aside
  intro _
  apply (callIfHeld_called among session session.main.handle? (.execute sql)).bind
  · rintro fault _ rfl
    exact .of_parameters session rfl rfl (callEvents_isCall rfl _ _)
  rintro _ _ rfl
  apply (callIfHeld_called among session session.replica.handle? (.execute sql)).bind
  · rintro fault _ rfl
    refine .of_parameters session rfl rfl fun event he => ?_
    rcases List.mem_append.mp he with he | he <;> exact callEvents_isCall rfl _ _ event he
  rintro _ _ rfl
  apply proceeds_update_last
  rw [List.append_nil]
  refine ⟨rfl, fun event he => ?_, fun call hcall => ?_⟩
  · rcases List.mem_append.mp he with he | he <;> exact callEvents_isCall rfl _ _ event he
  · rw [mem_settingCalls] at hcall ⊢
    rcases hcall with ho | ho | ho | ⟨statement, hs, rfl⟩
    · exact .inl (.inl ho)
    · exact .inl (.inr (.inl ho))
    · exact .inl (.inr (.inr (.inl ho)))
    rcases List.mem_append.mp hs with hs | hs
    · exact .inl (.inr (.inr (.inr ⟨statement, hs, rfl⟩)))
    · -- the statement just recorded has been executed on both handles, so on the one in use
      rw [List.mem_singleton] at hs
      subst hs
      refine .inr fun handle hh => List.mem_append.mpr ?_
      rcases currentHandle_held hh with hm | hr
      · rw [hm]
        exact .inl (mem_callEvents _ _)
      · rw [hr]
        exact .inr (mem_callEvents _ _)

theorem listWarnings_aside :
    Proceeds (listWarnings among.watched) session
      fun _ later events => Aside session later events := by
  apply opened_aside
  intro _
  split
  · rename_i handle _
    have hw : Asks (request (among.watched.database.warnings handle.connection)) session
        fun result events => events = [.collected handle.connection result] := asks_entering _ _
    apply hw.bind
    · rintro fault _ rfl
      exact .of_parameters session rfl rfl (by simp [Event.isCall])
    rintro fresh _ rfl
    apply proceeds_update
    apply proceeds_session
    exact proceeds_pure _ (.of_parameters session rfl rfl (by simp [Event.isCall]))
  · apply proceeds_session
    exact proceeds_pure _ (.unchanged session)

theorem clearWarnings_aside :
    Proceeds (clearWarnings among.watched) session
      fun _ later events => Aside session later events := by
  apply opened_aside
  intro _
  apply (callIfHeld_called among session session.currentHandle .clearWarnings).bind
  · rintro fault _ rfl
    exact .of_parameters session rfl rfl (callEvents_isCall rfl _ _)
  rintro _ _ rfl
  apply proceeds_update_last
  rw [List.append_nil]
  exact .of_parameters session rfl rfl (callEvents_isCall rfl _ _)

end Asides

end ReplicaRouting.Session
