import ReplicaRouting.Proofs.Session.Courses
import ReplicaRouting.Proofs.Session.Proceeding

/-!
Taking handles and parting with them: what the code asks of the database on each of its courses.
-/

namespace ReplicaRouting.Session

open Act

variable {σ : Type} (among : Collaborators σ) (session : Session)

section Requests

theorem call_called (connection : ConnectionId) (call : Call) :
    Asks (request (among.watched.database.call connection call)) session
      fun result events => events = [.called connection call result] :=
  asks_entering _ _

theorem mainHandle_opened :
    Asks (request among.watched.database.mainHandle) session fun result events =>
      ∃ opened : Except Fault ConnectionId,
        result = opened.map .main ∧ events = [.opened .main opened] := by
  unfold Database.mainHandle
  rw [request_bind_eq]
  apply (asks_entering (Event.opened .main) among.database.openMain).bind
  · rintro fault _ rfl
    exact ⟨rfl, _, rfl, rfl⟩
  · rintro connection _ rfl
    exact proceeds_pure _ ⟨rfl, _, rfl, rfl⟩

theorem replicaHandle_opened :
    Asks (request among.watched.database.replicaHandle) session fun result events =>
      ∃ opened : Except Fault ConnectionId,
        result = opened.map .replica ∧ events = [.opened .replica opened] := by
  unfold Database.replicaHandle
  rw [request_bind_eq]
  apply (asks_entering (Event.opened .replica) among.database.openReplica).bind
  · rintro fault _ rfl
    exact ⟨rfl, _, rfl, rfl⟩
  · rintro connection _ rfl
    exact proceeds_pure _ ⟨rfl, _, rfl, rfl⟩

theorem Calling.append {connection : ConnectionId} {calls more : List Call}
    {result : Except Fault Unit} {events rest : List Event}
    (h : Calling connection calls (.ok ()) events) (hm : Calling connection more result rest) :
    Calling connection (calls ++ more) result (events ++ rest) := by
  induction calls generalizing events with
  | nil =>
    cases h
    exact hm
  | cons call calls ih =>
    cases h with
    | next _ h => exact .next call (ih h)

theorem Calling.failed_append {connection : ConnectionId} {calls : List Call} {fault : Fault}
    {events : List Event} (h : Calling connection calls (.error fault) events)
    (more : List Call) : Calling connection (calls ++ more) (.error fault) events := by
  induction calls generalizing events with
  | nil => cases h
  | cons call calls ih =>
    cases h with
    | failed => exact .failed call _ fault
    | next _ h => exact .next call (ih h)

variable (handle : Handle)

theorem callAll_calling (calls : List Call) :
    Asks (request (Parameters.callAll among.watched.database handle calls)) session
      (Calling handle.connection calls) := by
  induction calls with
  | nil => exact proceeds_pure () ⟨rfl, .done⟩
  | cons call calls ih =>
    unfold Parameters.callAll
    rw [request_bind_eq]
    apply (call_called among session handle.connection call).bind
    · rintro fault _ rfl
      exact ⟨rfl, .failed call calls fault⟩
    · rintro _ _ rfl
      exact ih.mono fun _ _ hc => ⟨rfl, .next call hc⟩

theorem replay_calling (statements : List String) :
    Asks
      (request (Parameters.replay among.watched.database among.watched.log handle statements))
      session (Calling handle.connection (statements.map .execute)) := by
  induction statements with
  | nil => exact proceeds_pure () ⟨rfl, .done⟩
  | cons sql statements ih =>
    unfold Parameters.replay
    rw [request_bind_eq, request_bind_eq]
    apply proceeds_affect
    apply (call_called among session handle.connection (.execute sql)).bind
    · rintro fault _ rfl
      exact ⟨rfl, .failed _ _ fault⟩
    · rintro _ _ rfl
      exact ih.mono fun _ _ hc => ⟨rfl, .next _ hc⟩

/-- To bring a handle in line is to make the calls of the session on it. -/
theorem bringInLine_calling :
    Asks (bringInLine among.watched handle) session
      (Calling handle.connection session.parameters.calls) := by
  apply proceeds_session
  unfold Parameters.applyTo
  rw [request_bind_eq, request_bind_eq]
  apply proceeds_affect
  apply (callAll_calling among session handle session.parameters.settingCalls).bind
  · exact fun fault events hc => ⟨rfl, hc.failed_append _⟩
  · intro _ events hc
    exact (replay_calling among session handle _).mono fun _ _ hr => ⟨rfl, hc.append hr⟩

/-- Bringing a handle in line before it is handed over. -/
theorem bringInLine_return_calling :
    Asks
      (do
        bringInLine among.watched handle
        return handle : Act (Chronicle σ Event) Handle) session
      fun result events => ∃ brought : Except Fault Unit, result = brought.map (fun _ => handle) ∧
        Calling handle.connection session.parameters.calls brought events := by
  apply (bringInLine_calling among session handle).bind
  · exact fun fault events hc => ⟨rfl, _, rfl, hc⟩
  · intro _ events hc
    refine proceeds_pure _ ⟨rfl, .ok (), rfl, ?_⟩
    rw [List.append_nil]
    exact hc

end Requests

section Parting

theorem closeSlot_closing (kind : HandleKind) :
    Proceeds (closeSlot among.watched kind) session (Closing kind session) := by
  apply proceeds_session
  cases h : (session.slot kind).handle? with
  | none => exact proceeds_pure () (.vacant h)
  | some handle =>
    apply proceeds_update
    apply proceeds_attempt
    intro read
    apply proceeds_update
    apply proceeds_attempt
    intro result
    have hw : (session.without kind).warnings = session.warnings := by cases kind <;> rfl
    have hc := Closing.closed h read result
    rw [← hw] at hc
    cases result with
    | ok _ => exact proceeds_pure () (by cases read <;> exact hc)
    | error fault =>
      apply proceeds_session
      apply proceeds_affect
      exact proceeds_throw fault (by cases read <;> exact hc)

theorem abortSlot_aborting (deadline : Span) (kind : HandleKind) :
    Proceeds (abortSlot among.watched kind deadline) session (Aborting deadline kind session) := by
  apply proceeds_session
  apply proceeds_update
  cases h : (session.slot kind).handle? with
  | none =>
    rw [without_of_empty h]
    exact proceeds_pure () (.vacant h)
  | some handle =>
    apply (call_called among _ handle.connection (.abort deadline)).mono
    rintro result _ rfl
    exact .aborted h result

theorem releaseReplica_releasing (main : Handle) :
    Proceeds (releaseReplica among.watched main) session (Releasing main session) := by
  apply proceeds_session
  split
  · rename_i shared
    obtain ⟨replica, held, hc⟩ := (Option.any_eq_true _ _).mp shared
    exact proceeds_update_last _ (.dropped held (of_decide_eq_true hc))
  · rename_i apart
    apply (closeSlot_closing among session .replica).mono
    intro result later events hc
    refine .closed (fun replica held hs => apart ?_) hc
    exact (Option.any_eq_true _ _).mpr ⟨replica, held, decide_eq_true hs⟩

/-- Parting with the replica leaves the parameters alone. -/
theorem Releasing.parameters {main : Handle} {later : Session} {result : Except Fault Unit}
    {events : List Event} (h : Releasing main session result later events) :
    later.parameters = session.parameters := by
  obtain ⟨warnings, rfl⟩ := h.later_eq
  rfl

end Parting

section Taking

variable (decision : Decision)

theorem takeMain_takingMain :
    Proceeds (takeMain among.watched decision) session (TakingMain session decision) := by
  apply proceeds_session
  cases h : session.main with
  | ready handle since =>
    apply (releaseReplica_releasing among session handle).bind
    · exact fun _ _ _ hr => .kept h hr
    · intro _ later events hr
      refine proceeds_pure handle ?_
      rw [List.append_nil]
      exact .kept h hr
  | absent =>
    apply (mainHandle_opened among session).bind
    · rintro fault _ ⟨_ | _, ho, rfl⟩ <;> cases ho
      exact .refused fault h
    rintro _ _ ⟨_ | connection, ho, rfl⟩ <;> cases ho
    apply proceeds_update
    apply proceeds_session
    apply proceeds_affect
    simp only [h, Slot.install]
    apply (releaseReplica_releasing among _ (.main connection)).bind
    · exact fun fault later events hr => .unreleased h hr
    intro _ later released hr
    have hp : later.parameters = session.parameters := hr.parameters
    apply (bringInLine_return_calling among later (.main connection)).mono
    rintro _ brought ⟨result, rfl, hc⟩
    rw [hp] at hc
    have ht := TakingMain.opened h hr hc
    exact ht

theorem takeMainForGood_pinning :
    Proceeds (takeMainForGood among.watched decision) session (Pinning session decision) := by
  apply proceeds_update
  apply (takeMain_takingMain among _ decision).bind
  · exact fun _ _ _ ht => .taken ht
  intro handle later events ht
  apply proceeds_update
  refine proceeds_pure handle ?_
  rw [List.append_nil]
  exact .taken ht

theorem divertToMain_diverting :
    Proceeds (divertToMain among.watched decision) session (Diverting session decision) := by
  unfold divertToMain
  split
  · rename_i pins
    exact (takeMainForGood_pinning among session decision).mono fun _ _ _ ht => .forGood pins ht
  · rename_i pins
    apply proceeds_update
    exact (takeMain_takingMain among _ decision).mono fun _ _ _ ht =>
      .untilCaughtUp (Bool.eq_false_iff.mpr pins) ht

theorem takeReplica_takingReplica :
    Proceeds (takeReplica among.watched decision) session (TakingReplica session decision) := by
  apply proceeds_session
  cases h : session.replica with
  | ready handle since =>
    have hs : ({ session with replica := .ready handle since } : Session) = session := by rw [← h]
    apply proceeds_request_pure
    apply proceeds_update
    simp only [hs]
    exact proceeds_pure handle (.kept h)
  | absent =>
    simp only [Slot.getOrOpen]
    rw [request_bind_eq, bind_assoc]
    apply (replicaHandle_opened among session).bind
    · rintro fault _ ⟨_ | _, ho, rfl⟩ <;> cases ho
      exact .refused fault h
    rintro _ _ ⟨_ | connection, ho, rfl⟩ <;> cases ho
    apply proceeds_request_pure
    apply proceeds_update
    apply proceeds_session
    apply proceeds_affect
    apply (bringInLine_return_calling among _ (.replica connection)).mono
    rintro _ brought ⟨result, rfl, hc⟩
    exact .opened h hc

end Taking

end ReplicaRouting.Session
