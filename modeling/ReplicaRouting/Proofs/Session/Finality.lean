import ReplicaRouting.Proofs.Obliging
import ReplicaRouting.Proofs.Session.Conduct
import ReplicaRouting.Proofs.Session.Custody
import ReplicaRouting.Proofs.Session.Phases

/-!
How a session ends. To close or to abort it ends the connection of every handle held, also after a
failure. From then on it is closed for good: nothing that is asked of it reaches any collaborator.
-/

namespace ReplicaRouting

/-- Requests by which a connection is ended. -/
def Event.isEnding : Event → Bool
  | .called _ call _ => call.ends
  | _ => false

namespace Session

/-- The call on every connection held by which the operation ends the session. -/
def Operation.endingCall? : Operation → Option Call
  | .close => some .close
  | .abort deadline => some (.abort deadline)
  | _ => none

/-- What the operation yields in a session that has been ended. -/
def Operation.afterwards (id : String) : Operation → Except Fault Answer
  | .recordWrite | .close | .abort _ => .ok .done
  | _ => .error (.sessionClosed id)

/-! ### Ending -/

section Ending

variable {kind : HandleKind} {session later : Session} {result : Except Fault Unit}
  {events : List Event}

/-- The fault of main, or else that of the replica. -/
def mainThenReplica : Except Fault Unit → Except Fault Unit → Except Fault Answer
  | .error fault, _ => .error fault
  | .ok (), .error fault => .error fault
  | .ok (), .ok () => .ok .done

/-- The connection of a handle is ended by the call with this result. If there is no handle, nothing
is done and that cannot fail. -/
structure EndsSlot (held : Option Handle) (call : Call) (result : Except Fault Unit)
    (events : List Event) : Prop where
  calls : events.filter (·.isEnding) = callEvents held call result
  vacant : held = none → result = .ok ()

/-- The connection of each handle held is ended by the call, that of main first and that of the
replica whatever came of it. -/
inductive EndsEach (session : Session) (call : Call) : Except Fault Answer → List Event → Prop where
  | inTurn {main replica : Except Fault Unit} {first second : List Event}
      (mainEnds : EndsSlot (session.hand .main) call main first)
      (replicaEnds : EndsSlot (session.hand .replica) call replica second) :
    EndsEach session call (mainThenReplica main replica) (first ++ second)

theorem map_firstFault (main replica : Except Fault Unit) :
    ((firstFault main replica).map fun _ => Answer.done) = mainThenReplica main replica := by
  cases main with
  | error fault => rfl
  | ok => cases replica <;> rfl

theorem Closing.endsSlot (h : Closing kind session result later events) :
    EndsSlot (session.hand kind) .close result events := by
  cases h with
  | vacant held =>
    rw [held]
    exact ⟨rfl, fun _ => rfl⟩
  | closed held read result =>
    rw [held]
    exact ⟨rfl, nofun⟩

theorem Aborting.endsSlot {deadline : Span}
    (h : Aborting deadline kind session result later events) :
    EndsSlot (session.hand kind) (.abort deadline) result events := by
  cases h with
  | vacant held =>
    rw [held]
    exact ⟨rfl, fun _ => rfl⟩
  | aborted held result =>
    rw [held]
    exact ⟨rfl, nofun⟩

/-- What ends one slot leaves the other to be ended, so that both are. -/
theorem Ending.endsEach
    {slot : HandleKind → Session → Except Fault Unit → Session → List Event → Prop} {call : Call}
    (hslot : ∀ {kind session result later events}, slot kind session result later events →
      EndsSlot (session.hand kind) call result events)
    (hhand : ∀ {kind session result later events}, slot kind session result later events →
      later.hand = Function.update session.hand kind none)
    (hopen : session.closed = false) (h : Ending slot session result later events) :
    EndsEach session call (result.map fun _ => .done) events := by
  cases h with
  | again closed => exact absurd (hopen.symm.trans closed) Bool.false_ne_true
  | @ended main replica between later first second opened mainEnds replicaEnds =>
    have hmain := hslot mainEnds
    have hother : between.hand .replica = session.hand .replica := by
      rw [hhand mainEnds]
      rfl
    rw [map_firstFault]
    exact .inTurn hmain (hother ▸ hslot replicaEnds)

theorem Performing.endsEach {operation : Operation} {call : Call} {answer : Except Fault Answer}
    (h : Performing session operation answer later events)
    (hcall : operation.endingCall? = some call) (hopen : session.closed = false) :
    EndsEach session call answer events ∧ later.closed = true := by
  cases h with
  | read | write => exact nomatch hcall
  | close ends =>
    obtain rfl := Option.some.inj hcall
    exact ⟨ends.endsEach (fun h => h.endsSlot) (fun h => h.hand_eq) hopen,
      ends.closed fun h => h.standing⟩
  | abort deadline ends =>
    obtain rfl := Option.some.inj hcall
    exact ⟨ends.endsEach (fun h => h.endsSlot) (fun h => h.hand_eq) hopen,
      ends.closed fun h => h.standing⟩
  | aside isAside =>
    cases operation with
    | close | abort _ => exact absurd isAside Bool.false_ne_true
    | _ => exact nomatch hcall

end Ending

/-! ### Afterwards -/

section Closed

variable {σ : Type} (among : Collaborators σ) {scene : Scene σ} {session : Session}

theorem recordWrite_of_closed (h : scene.session.closed = true) :
    recordWrite among scene = (.ok (), scene) := by
  have hphase : scene.session.phase ≠ .main := by
    rw [phase_of_closed h]
    exact nofun
  unfold recordWrite
  rw [Act.session_bind, if_neg (by simp [hphase])]
  rfl

/-- In a closed session an operation is over before it does anything. -/
theorem perform_of_closed (operation : Operation) (h : scene.session.closed = true) :
    perform among operation scene = (operation.afterwards scene.session.id, scene) := by
  have hrefused : ∀ {α : Type} (next : Unit → Act σ α), (ensureOpen >>= next) scene =
      (.error (.sessionClosed scene.session.id), scene) := fun next =>
    Fallible.bind_of_error (ensureOpen_of_closed h) next
  cases operation with
  | readHandle seed =>
    rw [perform, Fallible.map_apply, readHandle_of_closed among seed h]
    rfl
  | writeHandle seed =>
    rw [perform, Fallible.map_apply, writeHandle_of_closed among seed h]
    rfl
  | recordWrite =>
    rw [perform, Fallible.bind_of_ok (recordWrite_of_closed among h)]
    rfl
  | listWarnings =>
    rw [perform, Fallible.map_apply, listWarnings, hrefused]
    rfl
  | close =>
    rw [perform, close_eq, Fallible.bind_of_ok (ending_of_closed among _ h)]
    rfl
  | abort deadline =>
    rw [perform, abort_eq, Fallible.bind_of_ok (ending_of_closed among _ h)]
    rfl
  | _ => exact Fallible.bind_of_error (hrefused _) _

theorem after_of_closed (turn : Turn σ) (h : session.closed = true) :
    session.after among turn = session := by
  have hscene : (⟨session, turn.world⟩ : Scene σ).session.closed = true := h
  rw [after, perform_of_closed among turn.operation hscene]

theorem run_of_closed (turns : List (Turn σ)) (h : session.closed = true) :
    run among turns session = session := by
  induction turns with
  | nil => rfl
  | cons turn turns ih =>
    calc run among (turn :: turns) session = run among turns (session.after among turn) := rfl
      _ = session := by rw [after_of_closed among turn h, ih]

/-- Whatever the collaborators would enter in an account, nothing is entered. -/
theorem account_of_closed {ε : Type} (keeper : Collaborators (Chronicle σ ε))
    (turns : List (Turn σ)) (h : session.closed = true) : account keeper turns session = [] := by
  induction turns with
  | nil => rfl
  | cons turn turns ih =>
    have hscene : (⟨session, ⟨turn.world, []⟩⟩ : Scene (Chronicle σ ε)).session.closed = true := h
    rw [account, entries, perform_of_closed keeper turn.operation hscene]
    exact ih

/-- The session is at its end, whatever turns are still taken: it is closed and stays as it is,
every operation is answered by itself, and no collaborator is asked for anything. For that the
account may be kept by any collaborators, of any of the things asked of them. -/
structure IsFinal (among : Collaborators σ) (session : Session) : Prop where
  phase : ∀ turns, (run among turns session).phase = .closed
  unchanged : ∀ turns, run among turns session = session
  answers : ∀ turns turn, (run among turns session).answer among turn =
    turn.operation.afterwards session.id
  unasked : ∀ {ε : Type} (keeper : Collaborators (Chronicle σ ε)) (turns : List (Turn σ)),
    account keeper turns session = []

theorem isFinal_of_closed (h : session.closed = true) : IsFinal among session where
  phase turns := by rw [run_of_closed among turns h, phase_of_closed h]
  unchanged turns := run_of_closed among turns h
  answers turns turn := by
    have hscene : (⟨session, turn.world⟩ : Scene σ).session.closed = true := h
    rw [run_of_closed among turns h, answer, perform_of_closed among turn.operation hscene]
  unasked keeper turns := account_of_closed keeper turns h

/-- Ending an open session ends each of its connections, and the session for good. -/
theorem ending_ends_each_for_good (turn : Turn σ) {call : Call} (hopen : session.closed = false)
    (hcall : turn.operation.endingCall? = some call) :
    EndsEach session call (session.answer among turn) (entries among.watched session turn) ∧
      IsFinal among (session.after among turn) := by
  obtain ⟨hends, hclosed⟩ := (turn_performing among session turn).endsEach hcall hopen
  exact ⟨hends, isFinal_of_closed among hclosed⟩

end Closed

/-- A deployment in which main cannot be closed and no replica can be brought in line with a session
that only reads. -/
def stubbornDeployment : Deployment Bool :=
  { Deployment.obliging with
    database := { Database.obliging Bool with
      call := fun connection call world =>
        let fails : Bool := (connection, call) ∈ [(⟨0⟩, .close), (⟨1⟩, .setReadOnly true)]
        (if fails then .error (.closeFailed .main "refused") else .ok (), world) } }

/-- After a read that could not bring its replica in line both handles are held. Closing fails on
main, and the replica is closed all the same. -/
theorem stubborn_main_ends_each_for_good :
    let among := stubbornDeployment.collaborators
    let lagging : Turn Bool := ⟨.readHandle (.read "SELECT 1"), false⟩
    let session := run among [lagging, ⟨.setReadOnly true, false⟩, lagging] { id := "a" }
    let turn : Turn Bool := ⟨.close, false⟩
    session.hand .main = some (.main ⟨0⟩) ∧ session.hand .replica = some (.replica ⟨1⟩) ∧
      session.closed = false ∧ turn.operation.endingCall? = some .close ∧
      EndsEach session .close (.error (.closeFailed .main "refused"))
        (entries among.watched session turn) ∧
      IsFinal among (session.after among turn) := by
  intro among lagging session turn
  have hopen : session.closed = false := by decide +kernel
  have hanswer : session.answer among turn = .error (.closeFailed .main "refused") := by
    decide +kernel
  obtain ⟨hends, hfinal⟩ := ending_ends_each_for_good among turn hopen
    (show turn.operation.endingCall? = some .close from rfl)
  rw [hanswer] at hends
  exact ⟨by decide +kernel, by decide +kernel, hopen, rfl, hends, hfinal⟩

end Session

end ReplicaRouting
