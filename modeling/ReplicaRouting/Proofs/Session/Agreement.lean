import ReplicaRouting.Proofs.Agreement
import ReplicaRouting.Proofs.Session.Operation

/-!
Sessions among collaborators that agree. Every operation is made of what the collaborators do and
so agrees as well.
-/

namespace ReplicaRouting

open Fallible Act

section Collaborators

variable {σ τ : Type}

structure Database.Agrees (bond : Bond σ τ) (left : Database σ) (right : Database τ) : Prop where
  available : bond.Answers left.replicaAvailable right.replicaAvailable
  openMain : Fallible.Agrees bond left.openMain right.openMain
  openReplica : Fallible.Agrees bond left.openReplica right.openReplica
  call : ∀ connection call,
    Fallible.Agrees bond (left.call connection call) (right.call connection call)
  warnings : ∀ connection, Fallible.Agrees bond (left.warnings connection) (right.warnings connection)

/-- Collaborators that agree apart from trackers and chains. -/
structure Collaborators.Surround (bond : Bond σ τ) (left : Collaborators σ)
    (right : Collaborators τ) : Prop where
  database : Database.Agrees bond left.database right.database
  listener : ∀ before after, bond.Keeps (left.listener before after) (right.listener before after)
  log : ∀ notice, bond.Keeps (left.log notice) (right.log notice)

structure Collaborators.Agrees (bond : Bond σ τ) (left : Collaborators σ)
    (right : Collaborators τ) : Prop extends Collaborators.Surround bond left right where
  write : ∀ main, bond.Keeps (left.tracker.write main) (right.tracker.write main)
  preCommit : ∀ main, bond.Keeps (left.tracker.preCommit main) (right.tracker.preCommit main)
  decide : ∀ seed replicas,
    Consult.Agrees bond (left.chain.decide seed replicas) (right.chain.decide seed replicas)

variable {bond : Bond σ τ} {left : Database σ} {right : Database τ}

theorem Database.Agrees.mainHandle (h : Database.Agrees bond left right) :
    Fallible.Agrees bond left.mainHandle right.mainHandle :=
  h.openMain.bind fun _ => agrees_pure _

theorem Database.Agrees.replicaHandle (h : Database.Agrees bond left right) :
    Fallible.Agrees bond left.replicaHandle right.replicaHandle :=
  h.openReplica.bind fun _ => agrees_pure _

theorem Database.Agrees.callIfHeld (h : Database.Agrees bond left right) (handle : Option Handle)
    (call : Call) :
    Fallible.Agrees bond (left.callIfHeld handle call) (right.callIfHeld handle call) := by
  cases handle with
  | none => exact agrees_pure ()
  | some handle => exact h.call handle.connection call

theorem Database.Agrees.callAll (h : Database.Agrees bond left right) (handle : Handle)
    (calls : List Call) :
    Fallible.Agrees bond (Parameters.callAll left handle calls)
      (Parameters.callAll right handle calls) := by
  induction calls with
  | nil => exact agrees_pure ()
  | cons call calls ih => exact (h.call handle.connection call).bind fun _ => ih

variable {log : Log σ} {log' : Log τ}

theorem Database.Agrees.replay (h : Database.Agrees bond left right)
    (hl : ∀ notice, bond.Keeps (log notice) (log' notice)) (handle : Handle)
    (statements : List String) :
    Fallible.Agrees bond (Parameters.replay left log handle statements)
      (Parameters.replay right log' handle statements) := by
  induction statements with
  | nil => exact agrees_pure ()
  | cons sql statements ih =>
    apply (agrees_modify (hl _)).bind
    intro _
    exact (h.call handle.connection (.execute sql)).bind fun _ => ih

theorem Database.Agrees.applyTo (h : Database.Agrees bond left right)
    (hl : ∀ notice, bond.Keeps (log notice) (log' notice)) (parameters : Parameters)
    (handle : Handle) :
    Fallible.Agrees bond (parameters.applyTo left log handle)
      (parameters.applyTo right log' handle) := by
  apply (agrees_modify (hl _)).bind
  intro _
  apply (h.callAll handle parameters.settingCalls).bind
  intro _
  exact h.replay hl handle parameters.setStatements

end Collaborators

namespace Session

variable {σ τ : Type} {bond : Bond σ τ} {among : Collaborators σ} {among' : Collaborators τ}

section Handles

variable (h : Collaborators.Surround bond among among')
include h

theorem closeSlot_agrees (kind : HandleKind) :
    Agrees bond.onScenes (closeSlot among kind) (closeSlot among' kind) := by
  rintro ⟨session, s⟩ ⟨_, t⟩ ⟨rfl, hm⟩
  cases hh : (session.slot kind).handle? with
  | none =>
    rw [closeSlot_of_empty among ⟨session, s⟩ hh, closeSlot_of_empty among' ⟨session, t⟩ hh]
    exact ⟨rfl, ⟨rfl, hm⟩, fun hbt => hbt, by rintro _ ⟨⟩⟩
  | some handle =>
    rw [closeSlot_of_held among ⟨session, s⟩ hh, closeSlot_of_held among' ⟨session, t⟩ hh]
    dsimp only
    obtain ⟨hr, hw, hb, -⟩ := h.database.warnings handle.connection s t hm
    rw [← hr]
    obtain ⟨hr', hw', hb', hf⟩ := h.database.call handle.connection .close _ _ hw
    rcases hs : among.database.call handle.connection .close _ with ⟨fault | _, s'⟩ <;>
      rcases ht : among'.database.call handle.connection .close _ with ⟨fault' | _, t'⟩ <;>
      rw [hs, ht] at hr' hw' <;> rw [ht] at hb' hf <;> cases hr'
    · -- the fault of the call is the fault of the slot, and the notice of it takes no blame away
      obtain ⟨hn, hk⟩ := h.log (.closeFailed _ kind fault) s' t' hw'
      exact ⟨rfl, ⟨rfl, hn⟩, fun hbt => hk (hb' (hb hbt)), fun _ _ => hk (hf _ rfl)⟩
    · exact ⟨rfl, ⟨rfl, hw'⟩, fun hbt => hb' (hb hbt), by rintro _ ⟨⟩⟩

theorem releaseReplica_agrees (main : Handle) :
    Agrees bond.onScenes (releaseReplica among main) (releaseReplica among' main) := by
  apply agrees_session.bind
  intro session
  split
  · exact agrees_update _
  · exact closeSlot_agrees h .replica

theorem bringInLine_agrees (handle : Handle) :
    Agrees bond.onScenes (bringInLine among handle) (bringInLine among' handle) :=
  agrees_session.bind fun session =>
    agrees_request (h.database.applyTo h.log session.parameters handle)

theorem takeMain_agrees (decision : Decision) :
    Agrees bond.onScenes (takeMain among decision) (takeMain among' decision) := by
  apply agrees_session.bind
  intro session
  cases session.main.handle? with
  | some handle => exact (releaseReplica_agrees h handle).bind fun _ => agrees_pure handle
  | none =>
    apply (agrees_request h.database.mainHandle).bind
    intro handle
    apply (agrees_update _).bind
    intro _
    apply agrees_session.bind
    intro session
    apply (agrees_affect (h.log _)).bind
    intro _
    apply (releaseReplica_agrees h handle).bind
    intro _
    exact (bringInLine_agrees h handle).bind fun _ => agrees_pure handle

theorem takeMainForGood_agrees (decision : Decision) :
    Agrees bond.onScenes (takeMainForGood among decision) (takeMainForGood among' decision) := by
  apply (agrees_update _).bind
  intro _
  apply (takeMain_agrees h decision).bind
  intro handle
  exact (agrees_update _).bind fun _ => agrees_pure handle

theorem divertToMain_agrees (decision : Decision) :
    Agrees bond.onScenes (divertToMain among decision) (divertToMain among' decision) := by
  unfold divertToMain
  split
  · exact takeMainForGood_agrees h decision
  · exact (agrees_update _).bind fun _ => takeMain_agrees h decision

theorem takeReplica_agrees (decision : Decision) :
    Agrees bond.onScenes (takeReplica among decision) (takeReplica among' decision) := by
  apply agrees_session.bind
  intro session
  have ho : Agrees bond (session.replica.getOrOpen decision among.database.replicaHandle)
      (session.replica.getOrOpen decision among'.database.replicaHandle) := by
    cases session.replica with
    | ready handle since => exact agrees_pure _
    | absent => exact h.database.replicaHandle.bind fun _ => agrees_pure _
  apply (agrees_request ho).bind
  intro obtained
  apply (agrees_update _).bind
  intro _
  split
  · apply agrees_session.bind
    intro session
    apply (agrees_affect (h.log _)).bind
    intro _
    exact (bringInLine_agrees h obtained.handle).bind fun _ => agrees_pure _
  · exact agrees_pure _

theorem adoptReplica_agrees (decision : Decision) (opened : Option Handle) :
    Agrees bond.onScenes (adoptReplica among decision opened)
      (adoptReplica among' decision opened) := by
  apply agrees_session.bind
  intro session
  split
  · exact agrees_pure ()
  · cases opened with
    | none => exact agrees_pure ()
    | some handle => exact (agrees_update _).bind fun _ => bringInLine_agrees h handle

theorem followRoute_agrees (decision : Decision) (route : Route) :
    Agrees bond.onScenes (followRoute among decision route) (followRoute among' decision route) := by
  cases route with
  | main => exact takeMain_agrees h decision
  | withoutReplica => exact divertToMain_agrees h decision
  | byChain opened =>
    apply (adoptReplica_agrees h decision opened).bind
    intro _
    split
    · exact divertToMain_agrees h decision
    · apply agrees_session.bind
      intro session
      have hend : Agrees bond.onScenes
          (do update fun session => { session with committed := false }
              takeReplica among decision : Act σ Handle)
          (do update fun session => { session with committed := false }
              takeReplica among' decision) :=
        (agrees_update _).bind fun _ => takeReplica_agrees h decision
      split
      · exact (closeSlot_agrees h .main).bind fun _ => hend
      · exact hend

theorem announce_agrees (before : Phase) :
    Agrees bond.onScenes (announce among before) (announce among' before) := by
  apply agrees_session.bind
  intro session
  split
  · exact (agrees_affect (h.log _)).bind fun _ => agrees_affect (h.listener _ _)
  · exact agrees_pure ()

theorem conclude_agrees (decision : Decision) (result : Except Fault Handle) :
    Agrees bond.onScenes (conclude among decision result) (conclude among' decision result) := by
  apply agrees_session.bind
  intro session
  cases result with
  | ok handle => exact (agrees_affect (h.log _)).bind fun _ => agrees_update _
  | error fault => exact agrees_affect (h.log _)

/-- The end of routing agrees where an outcome that is a fault has found its blame already. -/
theorem conclude_announce_meets (decision : Decision) (before : Phase)
    (result : Except Fault Handle) {s : Scene σ} {t : Scene τ} (hm : bond.onScenes.meets s t)
    (hb : ∀ fault, result = .error fault → bond.onScenes.blamed t) :
    Meets bond.onScenes t
      ((do
        conclude among decision result
        announce among before
        ofOutcome result : Act σ Handle) s)
      ((do
        conclude among' decision result
        announce among' before
        ofOutcome result : Act τ Handle) t) := by
  apply (conclude_agrees h decision result s t hm).bind
  intro _ s' t' hm' hb'
  apply (announce_agrees h before s' t' hm').bind
  intro _ s'' t'' hm'' hb''
  exact ⟨rfl, hm'', fun blamed => blamed, fun fault hf => hb'' (hb' (hb fault hf))⟩

/-- Reads agree once their decisions are settled alike. -/
theorem readHandle_meets {seed settled : Decision} {route : Route} {s s' : Scene σ}
    {t t' : Scene τ} (ho : s.session.closed = false) (hst : s.session = t.session)
    (hs : chooseRoute among seed s = (.ok (settled, route), s'))
    (ht : chooseRoute among' seed t = (.ok (settled, route), t'))
    (hm : bond.onScenes.meets s' t') :
    Meets bond.onScenes t' (readHandle among seed s) (readHandle among' seed t) := by
  rw [readHandle_of_open among ho hs, readHandle_of_open among' (hst ▸ ho) ht, ← hst]
  obtain ⟨hr, hw, hb, hf⟩ := followRoute_agrees h settled route s' t' hm
  rw [outcomeOf_bind, outcomeOf_bind, hr]
  obtain ⟨hr', hw', hb', hf'⟩ := conclude_announce_meets h settled s.session.phase
    (followRoute among' settled route t').1 hw hf
  exact ⟨hr', hw', fun blamed => hb' (hb blamed), hf'⟩

end Handles

section Operations

variable (lenient : ∀ t, bond.blamed t)
include lenient

theorem ensureOpen_agrees :
    Agrees bond.onScenes (ensureOpen : Act σ Unit) (ensureOpen : Act τ Unit) := by
  apply agrees_session.bind
  intro session
  split
  · exact agrees_session.bind fun _ => agrees_throw (fun t => lenient t.world) _
  · exact agrees_pure ()

theorem opened_agrees {α : Type} {next : Session → Act σ α} {next' : Session → Act τ α}
    (h : ∀ session, Agrees bond.onScenes (next session) (next' session)) :
    Agrees bond.onScenes (do ensureOpen; next (← Act.session))
      (do ensureOpen; next' (← Act.session)) := by
  apply (ensureOpen_agrees lenient).bind
  intro _
  exact agrees_session.bind h

omit lenient in
theorem decideWithoutReplica_answers (h : Collaborators.Agrees bond among among')
    (seed : Decision) :
    bond.Answers (decideWithoutReplica among seed) (decideWithoutReplica among' seed) := by
  intro s t hm
  have hr : ((among.chain.decide seed 0).run (fun replica _ _ => replica.elim0) () s).1 =
        ((among'.chain.decide seed 0).run (fun replica _ _ => replica.elim0) () t).1 ∧
      ((among.chain.decide seed 0).run (fun replica _ _ => replica.elim0) () s).2.1 =
        ((among'.chain.decide seed 0).run (fun replica _ _ => replica.elim0) () t).2.1 ∧
      bond.meets ((among.chain.decide seed 0).run (fun replica _ _ => replica.elim0) () s).2.2
        ((among'.chain.decide seed 0).run (fun replica _ _ => replica.elim0) () t).2.2 :=
    (h.decide seed 0 s t hm).run (fun replica => replica.elim0) ()
  obtain ⟨ha, -, hw⟩ := hr
  refine ⟨?_, hw⟩
  simp only [decideWithoutReplica]
  rw [ha]

variable (h : Collaborators.Agrees bond among among')
include h

theorem chooseRoute_agrees (seed : Decision) :
    Agrees bond.onScenes (chooseRoute among seed) (chooseRoute among' seed) := by
  apply agrees_session.bind
  intro session
  split
  · exact agrees_pure _
  split
  · exact agrees_pure _
  apply (agrees_consult lenient h.database.available).bind
  intro available
  split
  · have hd : bond.Answers (decideWithReplica among seed session.replica.handle?)
        (decideWithReplica among' seed session.replica.handle?) :=
      (h.decide seed 1).runWithHandle h.database.replicaHandle _
    exact (agrees_consult lenient hd).bind fun _ => agrees_pure _
  · exact (agrees_consult lenient (decideWithoutReplica_answers h seed)).bind
      fun _ => agrees_pure _

theorem readHandle_agrees (seed : Decision) :
    Agrees bond.onScenes (readHandle among seed) (readHandle among' seed) := by
  apply opened_agrees lenient
  intro session
  apply (chooseRoute_agrees lenient h seed).bind
  intro chosen
  apply (agrees_outcomeOf (followRoute_agrees h.toSurround chosen.1 chosen.2)).bind
  intro result
  exact fun s t hm => conclude_announce_meets h.toSurround chosen.1 session.phase result hm
    fun _ _ => lenient t.world

theorem writeHandle_agrees (seed : Decision) :
    Agrees bond.onScenes (writeHandle among seed) (writeHandle among' seed) := by
  apply opened_agrees lenient
  intro session
  apply (agrees_outcomeOf (takeMainForGood_agrees h.toSurround seed)).bind
  intro result
  exact fun s t hm => conclude_announce_meets h.toSurround seed session.phase result hm
    fun _ _ => lenient t.world

omit lenient in
theorem recordWrite_agrees :
    Agrees bond.onScenes (recordWrite among) (recordWrite among') := by
  apply agrees_session.bind
  intro session
  split
  · cases session.main.handle? with
    | some main => exact agrees_affect (h.write main)
    | none => exact agrees_pure ()
  · exact agrees_pure ()

theorem commit_agrees : Agrees bond.onScenes (commit among) (commit among') := by
  apply opened_agrees lenient
  intro session
  cases session.currentHandle with
  | none => exact agrees_pure ()
  | some handle =>
    have hend (pinned : Bool) : Agrees bond.onScenes
        (do request (among.database.call handle.connection .commit)
            if pinned && !session.parameters.autoCommits then
              affect (among.tracker.write handle) : Act σ Unit)
        (do request (among'.database.call handle.connection .commit)
            if pinned && !session.parameters.autoCommits then
              affect (among'.tracker.write handle)) := by
      apply (agrees_request (h.database.call handle.connection .commit)).bind
      intro _
      split
      · exact agrees_affect (h.write handle)
      · exact agrees_pure ()
    dsimp only
    split
    · exact (agrees_affect (h.preCommit handle)).bind fun _ => hend _
    · exact hend _

theorem rollback_agrees : Agrees bond.onScenes (rollback among) (rollback among') := by
  apply opened_agrees lenient
  intro session
  exact agrees_request (h.database.callIfHeld _ _)

theorem setAutoCommit_agrees (value : Bool) :
    Agrees bond.onScenes (setAutoCommit among value) (setAutoCommit among' value) := by
  apply opened_agrees lenient
  intro session
  apply (agrees_request ((h.database.callIfHeld session.currentHandle (.setAutoCommit value)).bind
    fun _ => agrees_pure _)).bind
  intro parameters
  apply (agrees_update _).bind
  intro _
  split
  · cases session.main.handle? with
    | some main => exact agrees_affect (h.write main)
    | none => exact agrees_pure ()
  · exact agrees_pure ()

theorem setReadOnly_agrees (value : Bool) :
    Agrees bond.onScenes (setReadOnly among value) (setReadOnly among' value) := by
  apply opened_agrees lenient
  intro session
  apply (agrees_request ((h.database.callIfHeld session.currentHandle (.setReadOnly value)).bind
    fun _ => agrees_pure _)).bind
  intro parameters
  exact agrees_update _

theorem setIsolation_agrees (level : Isolation) :
    Agrees bond.onScenes (setIsolation among level) (setIsolation among' level) := by
  apply opened_agrees lenient
  intro session
  apply (agrees_request ((h.database.callIfHeld session.currentHandle (.setIsolation level)).bind
    fun _ => agrees_pure _)).bind
  intro parameters
  exact agrees_update _

theorem applySetStatement_agrees (sql : String) :
    Agrees bond.onScenes (applySetStatement among sql) (applySetStatement among' sql) := by
  apply opened_agrees lenient
  intro session
  apply (agrees_request (h.database.callIfHeld _ _)).bind
  intro _
  apply (agrees_request (h.database.callIfHeld _ _)).bind
  intro _
  exact agrees_update _

theorem listWarnings_agrees :
    Agrees bond.onScenes (listWarnings among) (listWarnings among') := by
  apply opened_agrees lenient
  intro session
  have hend : Agrees bond.onScenes
      (Act.session >>= fun session => pure session.warnings.kept : Act σ _)
      (Act.session >>= fun session => pure session.warnings.kept) :=
    agrees_session.bind fun _ => agrees_pure _
  cases session.currentHandle with
  | some handle =>
    apply (agrees_request (h.database.warnings handle.connection)).bind
    intro fresh
    exact (agrees_update _).bind fun _ => hend
  | none => exact hend

theorem clearWarnings_agrees :
    Agrees bond.onScenes (clearWarnings among) (clearWarnings among') := by
  apply opened_agrees lenient
  intro session
  apply (agrees_request (h.database.callIfHeld _ _)).bind
  intro _
  exact agrees_update _

theorem ending_agrees {slot : HandleKind → Act σ Unit} {slot' : HandleKind → Act τ Unit}
    (hs : ∀ kind, Agrees bond.onScenes (slot kind) (slot' kind)) :
    Agrees bond.onScenes (ending among slot) (ending among' slot') := by
  apply agrees_session.bind
  intro session
  split
  · exact agrees_pure ()
  apply (agrees_update _).bind
  intro _
  apply (agrees_outcomeOf (hs .main)).bind
  intro main
  apply (agrees_outcomeOf (hs .replica)).bind
  intro replica
  apply (announce_agrees h.toSurround session.phase).bind
  intro _
  exact agrees_ofOutcome lenient _

omit lenient in
theorem abortSlot_agrees (kind : HandleKind) (deadline : Span) :
    Agrees bond.onScenes (abortSlot among kind deadline) (abortSlot among' kind deadline) := by
  apply agrees_session.bind
  intro session
  apply (agrees_update _).bind
  intro _
  exact agrees_request (h.database.callIfHeld _ _)

/-- Among collaborators that agree, every operation has the same answer and the same effect on the
session. -/
theorem perform_agrees (operation : Operation) :
    Agrees bond.onScenes (perform among operation) (perform among' operation) := by
  cases operation with
  | readHandle seed => exact (readHandle_agrees lenient h seed).map _
  | writeHandle seed => exact (writeHandle_agrees lenient h seed).map _
  | recordWrite => exact (recordWrite_agrees h).bind fun _ => agrees_pure _
  | commit => exact (commit_agrees lenient h).bind fun _ => agrees_pure _
  | rollback => exact (rollback_agrees lenient h).bind fun _ => agrees_pure _
  | setAutoCommit value => exact (setAutoCommit_agrees lenient h value).bind fun _ => agrees_pure _
  | setReadOnly value => exact (setReadOnly_agrees lenient h value).bind fun _ => agrees_pure _
  | setIsolation level => exact (setIsolation_agrees lenient h level).bind fun _ => agrees_pure _
  | applySetStatement sql =>
    exact (applySetStatement_agrees lenient h sql).bind fun _ => agrees_pure _
  | listWarnings => exact (listWarnings_agrees lenient h).map _
  | clearWarnings => exact (clearWarnings_agrees lenient h).bind fun _ => agrees_pure _
  | close =>
    have hc : Agrees bond.onScenes (close among) (close among') := by
      rw [close_eq, close_eq]
      exact ending_agrees lenient h (closeSlot_agrees h.toSurround)
    exact hc.bind fun _ => agrees_pure _
  | abort deadline =>
    have ha : Agrees bond.onScenes (abort among deadline) (abort among' deadline) := by
      rw [abort_eq, abort_eq]
      exact ending_agrees lenient h (abortSlot_agrees h · deadline)
    exact ha.bind fun _ => agrees_pure _

end Operations

end Session

end ReplicaRouting
