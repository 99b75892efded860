import ReplicaRouting.Proofs.Session.Conduct
import ReplicaRouting.Proofs.Session.Phases

/-!
What a session tells its tracker. Of all operations only three tell it of writes, and they do so
only while the session stays on main.
-/

namespace ReplicaRouting

open Chronicle

/-- A word of a session to its tracker, or a call on a connection. -/
inductive Dispatch where
  | preCommit (main : Handle)
  | write (main : Handle)
  | call (connection : ConnectionId) (call : Call) (result : Except Fault Unit)
deriving DecidableEq

section Reporting

variable {σ : Type} (among : Collaborators σ)

def Database.reporting (database : Database σ) : Database (Chronicle σ Dispatch) :=
  { database.silently with
    call := fun connection call =>
      entering (.call connection call) (database.call connection call) }

/-- The collaborators, with an entry for every word to the tracker and every call on a
connection. -/
def Collaborators.reporting : Collaborators (Chronicle σ Dispatch) :=
  { among.silently with
    database := among.database.reporting
    tracker :=
      { among.tracker.silently with
        write := fun main => noting (.write main) (among.tracker.write main)
        preCommit := fun main => noting (.preCommit main) (among.tracker.preCommit main) } }

theorem Collaborators.reporting_agrees : Collaborators.Agrees erasing among among.reporting :=
  { among.silently_agrees with
    database :=
      { among.silently_agrees.database with
        call := fun _ _ => erasing_entering _ _ }
    write := fun _ => erasing_noting _ _
    preCommit := fun _ => erasing_noting _ _ }

/-- The account tells of no write. -/
def Unwritten (reports : List Dispatch) : Prop := ∀ main, .write main ∉ reports

theorem unwritten_nil : Unwritten [] := fun _ => List.not_mem_nil

theorem unwritten_call (connection : ConnectionId) (call : Call) (result : Except Fault Unit) :
    Unwritten [.call connection call result] := by
  intro main hm
  cases List.mem_singleton.mp hm

theorem Unwritten.append {first second : List Dispatch} (hf : Unwritten first)
    (hs : Unwritten second) : Unwritten (first ++ second) := by
  intro main hm
  rcases List.mem_append.mp hm with hm | hm
  · exact hf main hm
  · exact hs main hm

/-- With nothing said to the tracker, calls on connections are all there is to enter. -/
theorem Collaborators.reporting_unwritten :
    Collaborators.Agrees (keepingAccount Unwritten)
      { among.reporting with tracker := among.tracker.silently }
      { among.reporting with tracker := among.tracker.silently } :=
  { among.silently_keeps_account Unwritten with
    database :=
      { (among.silently_keeps_account Unwritten).database with
        call := by
          rintro connection call chronicle _ ⟨rfl, he⟩
          refine ⟨rfl, ⟨rfl, ?_⟩, fun _ => trivial, fun _ _ => trivial⟩
          exact he.append (unwritten_call connection call _) } }

end Reporting

namespace Act

variable {σ ε β : Type} {session : Session}

theorem proceeds_noting (entry : ε) (f : σ → σ) {next : Unit → Act (Chronicle σ ε) β}
    {course : Except Fault β → Session → List ε → Prop}
    (h : Proceeds (next ()) session fun result later more => course result later (entry :: more)) :
    Proceeds (affect (noting entry f) >>= next) session course := by
  intro world events
  obtain ⟨result, later, world', more, hn, hc⟩ := h (f world) (events ++ [entry])
  refine ⟨result, later, world', entry :: more, ?_, hc⟩
  rw [List.append_assoc, List.singleton_append] at hn
  exact hn

theorem proceeds_noting_last (entry : ε) (f : σ → σ)
    {course : Except Fault Unit → Session → List ε → Prop}
    (h : course (.ok ()) session [entry]) :
    Proceeds (affect (noting entry f) : Act (Chronicle σ ε) Unit) session course :=
  fun world _ => ⟨_, _, f world, [entry], rfl, h⟩

end Act

namespace Session

open Act

/-- What a session tells its tracker in the course of an operation. Where it says nothing of a
write although it stays on main, none has become durable. -/
inductive Telling (session : Session) :
    Operation → Except Fault Answer → Session → List Dispatch → Prop where
  | recorded {main : Handle} (pinned : session.phase = .main)
      (held : session.main.handle? = some main) (auto : session.parameters.autoCommits = true) :
    Telling session .recordWrite (.ok .done) session [.write main]
  | committed {main : Handle} (pinned : session.phase = .main)
      (held : session.main.handle? = some main) (manual : session.parameters.autoCommits = false) :
    Telling session .commit (.ok .done) session
      [.preCommit main, .call main.connection .commit (.ok ()), .write main]
  | switched {main : Handle} {later : Session} (pinned : session.phase = .main)
      (held : session.main.handle? = some main) (manual : session.parameters.autoCommits = false)
      (auto : later.parameters.autoCommits = true) :
    Telling session (.setAutoCommit true) (.ok .done) later
      [.call main.connection (.setAutoCommit true) (.ok ()), .write main]
  | unwritten {operation : Operation} {answer : Except Fault Answer} {later : Session}
      {reports : List Dispatch} (unwritten : Unwritten reports)
      (unrecorded : session.phase = .main → operation = .recordWrite →
        session.parameters.autoCommits = false)
      (uncommitted : session.phase = .main → operation = .commit → answer = .ok .done →
        session.parameters.autoCommits = true)
      (unswitched : session.phase = .main → session.parameters.autoCommits = false →
        later.parameters.autoCommits = false) :
    Telling session operation answer later reports

section Telling

variable {σ : Type} (among : Collaborators σ) (session : Session)

theorem Telling.of_unpinned {session later : Session} {operation : Operation}
    {answer : Except Fault Answer} {reports : List Dispatch} (h : session.phase ≠ .main)
    (hu : Unwritten reports) : Telling session operation answer later reports :=
  .unwritten hu (fun hp => absurd hp h) (fun hp => absurd hp h) (fun hp => absurd hp h)

theorem unpinned_of_closed {session : Session} (h : session.closed = true) :
    session.phase ≠ .main := by
  rw [phase_of_closed h]
  decide

theorem main_of_pinned {session : Session} (h : session.phase = .main) :
    ∃ main, session.main.handle? = some main ∧ session.currentHandle = some main := by
  obtain ⟨main, since, hm⟩ := main_ready_of_phase h
  have hheld : session.main.handle? = some main := by rw [hm]; rfl
  refine ⟨main, hheld, ?_⟩
  unfold currentHandle
  rw [h, ← hheld]

theorem done_telling {act : Act (Chronicle σ Dispatch) Unit} {operation : Operation}
    (h : Proceeds act session fun result later reports =>
      Telling session operation (result.map fun _ => .done) later reports) :
    Proceeds
      (do
        act
        return Answer.done : Act (Chronicle σ Dispatch) Answer) session
      (Telling session operation) :=
  done_proceeds session h fun _ _ _ ht => ht

theorem recordWrite_telling :
    Proceeds (perform among.reporting .recordWrite) session (Telling session .recordWrite) := by
  apply done_telling
  apply proceeds_session
  split
  · rename_i hc
    obtain ⟨hauto, hpinned⟩ : session.parameters.autoCommits = true ∧ session.phase = .main := by
      simpa using hc
    obtain ⟨main, hheld, -⟩ := main_of_pinned hpinned
    rw [hheld]
    exact proceeds_noting_last _ _ (.recorded hpinned hheld hauto)
  · rename_i hc
    refine proceeds_pure () (.unwritten unwritten_nil (fun hp _ => ?_) ?_ fun _ hm => hm)
    · simpa [hp] using hc
    · rintro - ⟨⟩

theorem commit_telling :
    Proceeds (perform among.reporting .commit) session (Telling session .commit) := by
  apply done_telling
  apply opened_proceeds
  · exact fun closed => .of_unpinned (unpinned_of_closed closed) unwritten_nil
  intro opened
  have hcall (handle : Handle) : Asks
      (request (among.reporting.database.call handle.connection .commit)) session
      fun result reports => reports = [.call handle.connection .commit result] :=
    asks_entering _ _
  -- off main there is nothing to report, whatever is committed
  by_cases pinned : session.phase = .main
  · obtain ⟨main, hheld, hcurrent⟩ := main_of_pinned pinned
    simp only [hcurrent, pinned, decide_true, ↓reduceIte, Bool.true_and]
    apply proceeds_noting
    apply (hcall main).bind
    · rintro fault _ rfl
      refine .unwritten (by simp [Unwritten]) ?_ ?_ fun _ hm => hm
      · rintro - ⟨⟩
      · rintro - - ⟨⟩
    rintro _ _ rfl
    cases hmode : session.parameters.autoCommits with
    | false => exact proceeds_noting_last _ _ (.committed pinned hheld hmode)
    | true =>
      refine proceeds_pure () (.unwritten (by simp [Unwritten]) ?_ (fun _ _ _ => hmode)
        fun _ hm => hm)
      rintro - ⟨⟩
  · simp only [pinned, decide_false, Bool.false_eq_true, ↓reduceIte, Bool.false_and]
    cases session.currentHandle with
    | none => exact proceeds_pure () (.of_unpinned pinned unwritten_nil)
    | some handle =>
      apply (hcall handle).bind
      · rintro fault _ rfl
        exact .of_unpinned pinned (by simp [Unwritten])
      rintro _ _ rfl
      exact proceeds_pure () (.of_unpinned pinned (by simp [Unwritten]))

/-- What a call on a handle enters, if there is one to make it on. -/
def callReports (held : Option Handle) (call : Call) (result : Except Fault Unit) :
    List Dispatch :=
  (held.map fun handle => .call handle.connection call result).toList

theorem unwritten_calls (held : Option Handle) (call : Call) (result : Except Fault Unit) :
    Unwritten (callReports held call result) := by
  cases held with
  | none => exact unwritten_nil
  | some handle => exact unwritten_call handle.connection call result

theorem callIfHeld_reported (held : Option Handle) (call : Call) :
    Asks (request (among.reporting.database.callIfHeld held call)) session
      fun result reports => reports = callReports held call result := by
  cases held with
  | none => exact proceeds_pure () ⟨rfl, rfl⟩
  | some handle => exact asks_entering _ _

/-- Nothing is told of a write, and it stays with what makes writes durable. -/
structure Reserved (session later : Session) (reports : List Dispatch) : Prop where
  unwritten : Unwritten reports
  mode : later.parameters.autoCommits = session.parameters.autoCommits

theorem Reserved.telling {session later : Session} {operation : Operation}
    {answer : Except Fault Answer} {reports : List Dispatch} (h : Reserved session later reports)
    (unrecorded : operation ≠ .recordWrite) (uncommitted : operation ≠ .commit) :
    Telling session operation answer later reports :=
  .unwritten h.unwritten (fun _ ho => absurd ho unrecorded) (fun _ ho => absurd ho uncommitted)
    fun _ hm => h.mode.trans hm

theorem opened_reserved {α : Type} {next : Session → Act (Chronicle σ Dispatch) α}
    (h : Proceeds (next session) session fun _ later reports => Reserved session later reports) :
    Proceeds (do ensureOpen; next (← Act.session)) session
      fun _ later reports => Reserved session later reports :=
  opened_proceeds session (fun _ => ⟨unwritten_nil, rfl⟩) fun _ => h

/-- What the setters have in common: the value is set on the handle in use before it is
recorded. -/
theorem setting_reports {call : Call} {parameters : Parameters}
    {course : Except Fault Unit → Session → List Dispatch → Prop}
    {next : Parameters → Act (Chronicle σ Dispatch) Unit}
    (failed : ∀ fault, course (.error fault) session
      (callReports session.currentHandle call (.error fault)))
    (goesOn : Proceeds (next parameters) session fun result later more =>
      course result later (callReports session.currentHandle call (.ok ()) ++ more)) :
    Proceeds
      (do
        let parameters ← request (do
          among.reporting.database.callIfHeld session.currentHandle call
          return parameters)
        next parameters : Act (Chronicle σ Dispatch) Unit) session course := by
  rw [request_bind_eq, bind_assoc]
  apply (callIfHeld_reported among session session.currentHandle call).bind
  · rintro fault _ rfl
    exact failed fault
  rintro _ _ rfl
  exact proceeds_request_pure parameters goesOn

theorem setAutoCommit_telling (value : Bool) :
    Proceeds (perform among.reporting (.setAutoCommit value)) session
      (Telling session (.setAutoCommit value)) := by
  apply done_telling
  apply opened_proceeds
  · exact fun closed => .of_unpinned (unpinned_of_closed closed) unwritten_nil
  intro opened
  apply setting_reports among session
  · intro fault
    exact Reserved.telling ⟨unwritten_calls _ _ _, rfl⟩ nofun nofun
  apply proceeds_update
  by_cases pinned : session.phase = .main
  · obtain ⟨main, hheld, hcurrent⟩ := main_of_pinned pinned
    rw [hcurrent, hheld]
    split
    · rename_i hc
      obtain ⟨⟨hmode, rfl⟩, -⟩ : (session.parameters.autoCommits = false ∧ value = true) ∧
          session.phase = .main := by
        simpa using hc
      exact proceeds_noting_last _ _ (.switched pinned hheld hmode rfl)
    · rename_i hc
      refine proceeds_pure () (.unwritten (unwritten_call _ _ _) ?_ ?_ fun _ hm => ?_)
      · rintro - ⟨⟩
      · rintro - ⟨⟩
      · -- nothing was switched on, so that the value is off
        have hoff : value = false := by simpa [pinned, hm] using hc
        rw [hoff]
        rfl
  · rw [if_neg (by simp [pinned])]
    apply proceeds_pure ()
    rw [List.append_nil]
    exact .of_unpinned pinned (unwritten_calls _ _ _)

theorem rollback_reserved :
    Proceeds (rollback among.reporting) session
      fun _ later reports => Reserved session later reports := by
  apply opened_reserved
  apply (callIfHeld_reported among session session.currentHandle .rollback).mono
  rintro result _ rfl
  exact ⟨unwritten_calls _ _ _, rfl⟩

theorem setting_reserved {call : Call} {parameters : Parameters}
    (hm : parameters.autoCommits = session.parameters.autoCommits) :
    Proceeds
      (do
        let parameters ← request (do
          among.reporting.database.callIfHeld session.currentHandle call
          return parameters)
        update fun session => { session with parameters } : Act (Chronicle σ Dispatch) Unit) session
      fun _ later reports => Reserved session later reports := by
  apply setting_reports among session fun _ => ⟨unwritten_calls _ _ _, rfl⟩
  apply proceeds_update_last
  rw [List.append_nil]
  exact ⟨unwritten_calls _ _ _, hm⟩

theorem setReadOnly_reserved (value : Bool) :
    Proceeds (setReadOnly among.reporting value) session
      fun _ later reports => Reserved session later reports :=
  opened_reserved session (setting_reserved among session rfl)

theorem setIsolation_reserved (level : Isolation) :
    Proceeds (setIsolation among.reporting level) session
      fun _ later reports => Reserved session later reports :=
  opened_reserved session (setting_reserved among session rfl)

theorem applySetStatement_reserved (sql : String) :
    Proceeds (applySetStatement among.reporting sql) session
      fun _ later reports => Reserved session later reports := by
  apply opened_reserved
  apply (callIfHeld_reported among session session.main.handle? (.execute sql)).bind
  · rintro fault _ rfl
    exact ⟨unwritten_calls _ _ _, rfl⟩
  rintro _ _ rfl
  apply (callIfHeld_reported among session session.replica.handle? (.execute sql)).bind
  · rintro fault _ rfl
    exact ⟨(unwritten_calls _ _ _).append (unwritten_calls _ _ _), rfl⟩
  rintro _ _ rfl
  apply proceeds_update_last
  rw [List.append_nil]
  exact ⟨(unwritten_calls _ _ _).append (unwritten_calls _ _ _), rfl⟩

theorem listWarnings_reserved :
    Proceeds (listWarnings among.reporting) session
      fun _ later reports => Reserved session later reports := by
  apply opened_reserved
  split
  · rename_i handle _
    apply (asks_silently (among.database.warnings handle.connection)).bind
    · rintro fault _ rfl
      exact ⟨unwritten_nil, rfl⟩
    rintro fresh _ rfl
    apply proceeds_update
    exact proceeds_session (proceeds_pure _ ⟨unwritten_nil, rfl⟩)
  · exact proceeds_session (proceeds_pure _ ⟨unwritten_nil, rfl⟩)

theorem clearWarnings_reserved :
    Proceeds (clearWarnings among.reporting) session
      fun _ later reports => Reserved session later reports := by
  apply opened_reserved
  apply (callIfHeld_reported among session session.currentHandle .clearWarnings).bind
  · rintro fault _ rfl
    exact ⟨unwritten_calls _ _ _, rfl⟩
  rintro _ _ rfl
  apply proceeds_update_last
  rw [List.append_nil]
  exact ⟨unwritten_calls _ _ _, rfl⟩

/-- Taking a handle and ending the session say nothing to the tracker. -/
theorem entries_of_silent (turn : Turn σ)
    (h : perform among.reporting turn.operation =
      perform { among.reporting with tracker := among.tracker.silently } turn.operation) :
    Unwritten (entries among.reporting session turn) := by
  obtain ⟨-, ⟨-, -, hu⟩, -, -⟩ := perform_agrees (fun _ => trivial) among.reporting_unwritten
    turn.operation ⟨session, { world := turn.world, events := [] }⟩ _ ⟨rfl, rfl, unwritten_nil⟩
  unfold entries
  rw [h]
  exact hu

theorem aside_telling {operation : Operation} (ha : operation.isAside = true) :
    Proceeds (perform among.reporting operation) session (Telling session operation) := by
  cases operation with
  | readHandle _ | writeHandle _ | close | abort _ => cases ha
  | recordWrite => exact recordWrite_telling among session
  | commit => exact commit_telling among session
  | setAutoCommit value => exact setAutoCommit_telling among session value
  | rollback =>
    exact done_proceeds session (rollback_reserved among session) fun _ _ _ h =>
      h.telling nofun nofun
  | setReadOnly value =>
    exact done_proceeds session (setReadOnly_reserved among session value) fun _ _ _ h =>
      h.telling nofun nofun
  | setIsolation level =>
    exact done_proceeds session (setIsolation_reserved among session level) fun _ _ _ h =>
      h.telling nofun nofun
  | applySetStatement sql =>
    exact done_proceeds session (applySetStatement_reserved among session sql) fun _ _ _ h =>
      h.telling nofun nofun
  | listWarnings =>
    exact (listWarnings_reserved among session).map _ fun _ _ _ h =>
      h.telling nofun nofun
  | clearWarnings =>
    exact done_proceeds session (clearWarnings_reserved among session) fun _ _ _ h =>
      h.telling nofun nofun

/-- What a session tells its tracker in the course of a turn. -/
theorem turn_telling (turn : Turn σ) :
    Telling session turn.operation (session.answer among turn) (session.after among turn)
      (entries among.reporting session turn) := by
  by_cases ha : turn.operation.isAside = true
  · exact entries_of_proceeds among.reporting_agrees (aside_telling among session ha)
  -- taking a handle and ending the session have no words for the tracker at all
  have hsilent : perform among.reporting turn.operation =
      perform { among.reporting with tracker := among.tracker.silently } turn.operation := by
    cases ho : turn.operation with
    | readHandle _ | writeHandle _ | close | abort _ => rfl
    | _ => simp [ho, Operation.isAside] at ha
  have hparameters : (session.after among turn).parameters = session.parameters :=
    (turn_performing among session turn).parameters (Bool.not_eq_true _ ▸ ha)
  refine Reserved.telling ⟨entries_of_silent among session turn hsilent, ?_⟩ ?_ ?_
  · rw [hparameters]
  · exact fun ho => ha (by rw [ho]; rfl)
  · exact fun ho => ha (by rw [ho]; rfl)

end Telling

end Session

end ReplicaRouting
