import ReplicaRouting.Session.Routing

/-!
All operations of a session, and sessions that share a world.
-/

namespace ReplicaRouting

namespace Session

variable {σ : Type} (among : Collaborators σ)

/-- Tell the tracker of a write that has committed by itself. -/
def recordWrite : Act σ Unit := do
  let session ← Act.session
  if session.parameters.autoCommits && session.phase = .main then
    match session.main.handle? with
    | some main => Act.affect (among.tracker.write main)
    | none => return ()

/-- Commit on the handle in use. The tracker is told before, and again after if that is what makes
writes durable. -/
def commit : Act σ Unit := do
  ensureOpen
  let session ← Act.session
  match session.currentHandle with
  | none => return ()
  | some handle =>
    let pinned : Bool := session.phase = .main
    if pinned then Act.affect (among.tracker.preCommit handle)
    Act.request (among.database.call handle.connection .commit)
    if pinned && !session.parameters.autoCommits then
      Act.affect (among.tracker.write handle)

/-- Roll back on the handle in use. -/
def rollback : Act σ Unit := do
  ensureOpen
  Act.request (among.database.callIfHeld (← Act.session).currentHandle .rollback)

/-- Set auto-commit. To switch it on commits what is pending, which counts as a write. -/
def setAutoCommit (value : Bool) : Act σ Unit := do
  ensureOpen
  let session ← Act.session
  let parameters ← Act.request
    (session.parameters.setAutoCommit among.database session.currentHandle value)
  Act.update fun session => { session with parameters }
  if !session.parameters.autoCommits && value && session.phase = .main then
    match session.main.handle? with
    | some main => Act.affect (among.tracker.write main)
    | none => return ()

def setReadOnly (value : Bool) : Act σ Unit := do
  ensureOpen
  let session ← Act.session
  let parameters ← Act.request
    (session.parameters.setReadOnly among.database session.currentHandle value)
  Act.update fun session => { session with parameters }

def setIsolation (level : Isolation) : Act σ Unit := do
  ensureOpen
  let session ← Act.session
  let parameters ← Act.request
    (session.parameters.setIsolation among.database session.currentHandle level)
  Act.update fun session => { session with parameters }

/-- Run a statement that sets a parameter on every handle held, and record it for later ones. -/
def applySetStatement (sql : String) : Act σ Unit := do
  ensureOpen
  let session ← Act.session
  Act.request (among.database.callIfHeld session.main.handle? (.execute sql))
  Act.request (among.database.callIfHeld session.replica.handle? (.execute sql))
  Act.update fun session => { session with parameters := session.parameters.addStatement sql }

/-- The warnings collected so far, with those of the handle in use. -/
def listWarnings : Act σ (List Warning) := do
  ensureOpen
  match (← Act.session).currentHandle with
  | some handle =>
    let fresh ← Act.request (among.database.warnings handle.connection)
    Act.update fun session => { session with warnings := session.warnings.saveAll fresh }
  | none => pure ()
  return (← Act.session).warnings.kept

def clearWarnings : Act σ Unit := do
  ensureOpen
  Act.request (among.database.callIfHeld (← Act.session).currentHandle .clearWarnings)
  Act.update fun session => { session with warnings := {} }

/-- Two results in one: the first fault counts. -/
def firstFault (first second : Except Fault Unit) : Except Fault Unit :=
  match first with
  | .ok () => second
  | .error fault => .error fault

/-- Close every handle held, also after a failure. Closing again does nothing. -/
def close : Act σ Unit := do
  let session ← Act.session
  if session.closed then return ()
  Act.update fun session => { session with closed := true }
  let main ← Act.outcomeOf (closeSlot among .main)
  let replica ← Act.outcomeOf (closeSlot among .replica)
  announce among session.phase
  Act.ofOutcome (firstFault main replica)

/-- Give up the handle of a kind, and abort what runs on it. -/
def abortSlot (kind : HandleKind) (deadline : Span) : Act σ Unit := do
  let handle := ((← Act.session).slot kind).handle?
  Act.update (·.without kind)
  Act.request (among.database.callIfHeld handle (.abort deadline))

/-- Abort every handle held, also after a failure. -/
def abort (deadline : Span) : Act σ Unit := do
  let session ← Act.session
  if session.closed then return ()
  Act.update fun session => { session with closed := true }
  let main ← Act.outcomeOf (abortSlot among .main deadline)
  let replica ← Act.outcomeOf (abortSlot among .replica deadline)
  announce among session.phase
  Act.ofOutcome (firstFault main replica)

/-- An operation of a session. -/
inductive Operation where
  | readHandle (seed : Decision)
  | writeHandle (seed : Decision)
  | recordWrite
  | commit
  | rollback
  | setAutoCommit (value : Bool)
  | setReadOnly (value : Bool)
  | setIsolation (level : Isolation)
  | applySetStatement (sql : String)
  | listWarnings
  | clearWarnings
  | close
  | abort (deadline : Span)
deriving DecidableEq

/-- What an operation yields. -/
inductive Answer where
  | done
  | handle (handle : Handle)
  | warnings (warnings : List Warning)
deriving DecidableEq

/-- Perform an operation. -/
def perform : Operation → Act σ Answer
  | .readHandle seed => .handle <$> readHandle among seed
  | .writeHandle seed => .handle <$> writeHandle among seed
  | .recordWrite => do recordWrite among; return .done
  | .commit => do commit among; return .done
  | .rollback => do rollback among; return .done
  | .setAutoCommit value => do setAutoCommit among value; return .done
  | .setReadOnly value => do setReadOnly among value; return .done
  | .setIsolation level => do setIsolation among level; return .done
  | .applySetStatement sql => do applySetStatement among sql; return .done
  | .listWarnings => .warnings <$> listWarnings among
  | .clearWarnings => do clearWarnings among; return .done
  | .close => do close among; return .done
  | .abort deadline => do abort among deadline; return .done

def text (session : Session) : String :=
  "SessionState \x7b id: " ++ session.id ++ ", state: " ++ session.phase.title ++
    ", parameters: " ++ session.parameters.text ++ ", chain: " ++ Chain.text among.chain ++
    ", .. \x7d"

end Session

/-- Sessions over one world. -/
structure Fleet (σ : Type) where
  sessions : List Session
  world : σ

namespace Fleet

variable {σ : Type}

/-- Let one of the sessions perform an operation. -/
def perform (fleet : Fleet σ) (among : Nat → Collaborators σ) (index : Nat)
    (operation : Session.Operation) : Option (Except Fault Session.Answer × Fleet σ) :=
  fleet.sessions[index]?.map fun session =>
    let (result, scene) := Session.perform (among index) operation ⟨session, fleet.world⟩
    (result, { sessions := fleet.sessions.set index scene.session, world := scene.world })

end Fleet

end ReplicaRouting
