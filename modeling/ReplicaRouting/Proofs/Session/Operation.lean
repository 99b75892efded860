import ReplicaRouting.Proofs.Session.Routing
import ReplicaRouting.Session.Operation

/-!
The operations beside reading and writing. All but the ones that end a session leave its handles
alone, and the ones that end it part with both handles whatever fails.
-/

namespace ReplicaRouting

namespace Act

variable {σ α β γ : Type}

/-- The action leaves alone what is seen of the session. -/
def Frames (view : Session → γ) (act : Act σ α) : Prop :=
  ∀ scene, view (act scene).2.session = view scene.session

variable {view : Session → γ}

theorem Frames.bind {act : Act σ α} {next : α → Act σ β} (ha : Frames view act)
    (hn : ∀ value, Frames view (next value)) : Frames view (act >>= next) := by
  intro scene
  have h := ha scene
  rcases hr : act scene with ⟨_ | value, after⟩ <;> rw [hr] at h
  · rw [Fallible.bind_of_error hr]
    exact h
  · rw [Fallible.bind_of_ok hr]
    exact (hn value after).trans h

theorem frames_pure (value : α) : Frames view (pure value : Act σ α) := fun _ => rfl

theorem frames_throw (fault : Fault) : Frames view (throw fault : Act σ α) := fun _ => rfl

theorem frames_session : Frames view (session : Act σ Session) := fun _ => rfl

theorem frames_affect (f : σ → σ) : Frames view (affect f) := fun _ => rfl

theorem frames_request (action : Fallible σ α) : Frames view (request action) := fun _ => rfl

theorem frames_update {f : Session → Session} (h : ∀ session, view (f session) = view session) :
    Frames view (update f : Act σ Unit) := fun scene => h scene.session

theorem Frames.map {act : Act σ α} (ha : Frames view act) (f : α → β) : Frames view (f <$> act) := by
  intro scene
  rw [Fallible.map_apply]
  exact ha scene

end Act

namespace Session

open Act

variable {σ : Type} (among : Collaborators σ)

/-- A session apart from its parameters and its warnings. -/
def core (session : Session) : Session := { session with parameters := {}, warnings := {} }

theorem eq_of_core {session later : Session} (h : later.core = session.core) :
    later.main = session.main ∧ later.replica = session.replica ∧
      later.committed = session.committed ∧ later.closed = session.closed ∧
      later.lastDecision = session.lastDecision := by
  simp only [core, Session.mk.injEq] at h
  obtain ⟨-, -, -, hm, hr, hc, hd, hl⟩ := h
  exact ⟨hm, hr, hc, hd, hl⟩

theorem ensureOpen_frames {γ : Type} (view : Session → γ) : Frames view (ensureOpen : Act σ Unit) := by
  unfold ensureOpen
  apply frames_session.bind
  intro session
  split
  · exact frames_session.bind fun _ => frames_throw _
  · exact frames_pure _

/-- An operation of an open session begins with a look at it. -/
theorem opened_frames {α γ : Type} {view : Session → γ} {next : Session → Act σ α}
    (h : ∀ session, Frames view (next session)) :
    Frames view (do ensureOpen; next (← Act.session)) := by
  apply (ensureOpen_frames view).bind
  intro _
  exact frames_session.bind h

/-- The operations that neither take a handle nor end the session. -/
def Operation.isAside : Operation → Bool
  | .readHandle _ | .writeHandle _ | .close | .abort _ => false
  | _ => true

theorem recordWrite_frames {γ : Type} (view : Session → γ) : Frames view (recordWrite among) := by
  unfold recordWrite
  apply frames_session.bind
  intro session
  split
  · split
    · exact frames_affect _
    · exact frames_pure _
  · exact frames_pure _

theorem commit_frames {γ : Type} (view : Session → γ) : Frames view (commit among) := by
  unfold commit
  apply opened_frames
  intro session
  split
  · exact frames_pure _
  · dsimp only
    -- with or without a word to the tracker before it, the commit itself is the same
    have hend (pinned : Bool) (handle : Handle) : Frames view
        (request (among.database.call handle.connection .commit) >>= fun _ =>
          if pinned && !session.parameters.autoCommits then affect (among.tracker.write handle)
          else pure ()) := by
      apply (frames_request _).bind
      intro _
      split
      · exact frames_affect _
      · exact frames_pure _
    split
    · exact (frames_affect _).bind fun _ => hend _ _
    · exact hend _ _

theorem frames_warnings (f : Session → Warnings) :
    Frames core (update fun session => { session with warnings := f session } : Act σ Unit) :=
  frames_update fun _ => rfl

theorem rollback_frames {γ : Type} (view : Session → γ) : Frames view (rollback among) := by
  unfold rollback
  apply opened_frames
  intro session
  exact frames_request _

section Setting

variable {γ : Type} {view : Session → γ}
  (hview : ∀ session parameters, view { session with parameters } = view session)
include hview

theorem frames_parameters (f : Session → Parameters) :
    Frames view (update fun session => { session with parameters := f session } : Act σ Unit) :=
  frames_update fun session => hview session (f session)

theorem setAutoCommit_frames (value : Bool) : Frames view (setAutoCommit among value) := by
  unfold setAutoCommit
  apply opened_frames
  intro session
  apply (frames_request _).bind
  intro parameters
  apply (frames_parameters hview fun _ => parameters).bind
  intro _
  split
  · split
    · exact frames_affect _
    · exact frames_pure _
  · exact frames_pure _

theorem setReadOnly_frames (value : Bool) : Frames view (setReadOnly among value) := by
  unfold setReadOnly
  apply opened_frames
  intro session
  apply (frames_request _).bind
  intro parameters
  exact frames_parameters hview fun _ => parameters

theorem setIsolation_frames (level : Isolation) : Frames view (setIsolation among level) := by
  unfold setIsolation
  apply opened_frames
  intro session
  apply (frames_request _).bind
  intro parameters
  exact frames_parameters hview fun _ => parameters

theorem applySetStatement_frames (sql : String) : Frames view (applySetStatement among sql) := by
  unfold applySetStatement
  apply opened_frames
  intro session
  apply (frames_request _).bind
  intro _
  apply (frames_request _).bind
  intro _
  exact frames_parameters hview fun session => session.parameters.addStatement sql

end Setting

theorem listWarnings_frames : Frames core (listWarnings among) := by
  unfold listWarnings
  apply opened_frames
  intro session
  have hend : Frames core (Act.session >>= fun session => pure session.warnings.kept : Act σ _) :=
    frames_session.bind fun _ => frames_pure _
  split
  · apply (frames_request _).bind
    intro fresh
    exact (frames_warnings fun session => session.warnings.saveAll fresh).bind fun _ => hend
  · exact hend

theorem clearWarnings_frames : Frames core (clearWarnings among) := by
  unfold clearWarnings
  apply opened_frames
  intro session
  apply (frames_request _).bind
  intro _
  exact frames_warnings fun _ => {}

/-- The operations that neither take a handle nor end the session and collect no warnings. -/
def Operation.isSilent : Operation → Bool
  | .listWarnings | .clearWarnings => false
  | operation => operation.isAside

/-- They leave alone whatever does not depend on the parameters. -/
theorem perform_silent {γ : Type} {view : Session → γ}
    (hview : ∀ session parameters, view { session with parameters } = view session)
    {operation : Operation} (h : operation.isSilent = true) :
    Frames view (perform among operation) := by
  cases operation with
  | readHandle _ | writeHandle _ | close | abort _ | listWarnings | clearWarnings =>
    simp [Operation.isSilent, Operation.isAside] at h
  | recordWrite => exact (recordWrite_frames among view).bind fun _ => frames_pure _
  | commit => exact (commit_frames among view).bind fun _ => frames_pure _
  | rollback => exact (rollback_frames among view).bind fun _ => frames_pure _
  | setAutoCommit value =>
    exact (setAutoCommit_frames among hview value).bind fun _ => frames_pure _
  | setReadOnly value => exact (setReadOnly_frames among hview value).bind fun _ => frames_pure _
  | setIsolation level =>
    exact (setIsolation_frames among hview level).bind fun _ => frames_pure _
  | applySetStatement sql =>
    exact (applySetStatement_frames among hview sql).bind fun _ => frames_pure _

theorem perform_aside {operation : Operation} (h : operation.isAside = true) :
    Frames core (perform among operation) := by
  cases operation with
  | listWarnings => exact (listWarnings_frames among).map _
  | clearWarnings => exact (clearWarnings_frames among).bind fun _ => frames_pure _
  | _ => exact perform_silent among (fun _ _ => rfl) h

section Ending

/-- What closing and aborting have in common: one slot after the other, whatever fails. -/
def ending (slot : HandleKind → Act σ Unit) : Act σ Unit := do
  let session ← Act.session
  if session.closed then return ()
  Act.update fun session => { session with closed := true }
  let main ← Act.outcomeOf (slot .main)
  let replica ← Act.outcomeOf (slot .replica)
  announce among session.phase
  Act.ofOutcome (firstFault main replica)

theorem close_eq : close among = ending among (closeSlot among) := rfl

theorem abort_eq (deadline : Span) :
    abort among deadline = ending among (abortSlot among · deadline) := rfl

variable (slot : HandleKind → Act σ Unit) {scene : Scene σ}

theorem ending_of_closed (h : scene.session.closed = true) :
    ending among slot scene = (.ok (), scene) := by
  unfold ending
  simp only [Act.session_bind, h, ↓reduceIte, Fallible.pure_apply]

theorem ending_session (h : scene.session.closed = false) :
    let start : Scene σ := { scene with session := { scene.session with closed := true } }
    (ending among slot scene).2.session = (slot .replica (slot .main start).2).2.session := by
  intro start
  obtain ⟨world, hw⟩ := announce_apply among scene.session.phase
    (slot .replica (slot .main start).2).2
  unfold ending
  simp only [Act.session_bind, h, Bool.false_eq_true, ↓reduceIte, Act.update_bind,
    Act.outcomeOf_bind]
  rw [Fallible.bind_of_ok hw]
  rfl

def ended (session : Session) (warnings : Warnings) : Session :=
  { session with main := .absent, replica := .absent, closed := true, warnings }

theorem close_session (h : scene.session.closed = false) :
    ∃ warnings, (close among scene).2.session = scene.session.ended warnings := by
  let start : Scene σ := { scene with session := { scene.session with closed := true } }
  obtain ⟨first, hf⟩ := closeSlot_session among start .main
  obtain ⟨second, hs⟩ := closeSlot_session among (closeSlot among .main start).2 .replica
  refine ⟨second, ?_⟩
  calc
    (close among scene).2.session =
        (closeSlot among .replica (closeSlot among .main start).2).2.session :=
      ending_session among (closeSlot among) h
    _ = scene.session.ended second := by
      rw [hs, hf]
      rfl

theorem abort_session (deadline : Span) (h : scene.session.closed = false) :
    (abort among deadline scene).2.session = scene.session.ended scene.session.warnings := by
  rw [abort_eq, ending_session among _ h]
  rfl

end Ending

end Session

end ReplicaRouting
