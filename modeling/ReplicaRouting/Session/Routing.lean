import ReplicaRouting.Session.Handles

/-!
Routing. A read first settles its decision, which cannot fail, and then takes a handle by it.
-/

namespace ReplicaRouting.Session

variable {σ : Type} (among : Collaborators σ)

/-- How a read comes by its handle once its decision is settled. -/
inductive Route where
  /-- Main, which stays what it is to the session. -/
  | main
  /-- Main, because there is no replica. -/
  | withoutReplica
  /-- Where the chain has sent it; a replica may have been opened for that. -/
  | byChain (opened : Option Handle)
deriving DecidableEq

/-- Ask the chain where there is no replica. -/
def decideWithoutReplica (decision : Decision) : StateM σ Decision := fun world =>
  let (decision, _, world) :=
    (among.chain.decide decision 0).run (fun replica _ _ => replica.elim0) () world
  (if decision.runsOnMain then decision else decision.withReason .replicaUnavailable, world)

/-- Ask the chain where there is a replica: the one held, or one that is opened if a chief asks
for it. -/
def decideWithReplica (decision : Decision) (held : Option Handle) :
    StateM σ (Decision × Option Handle) :=
  (among.chain.decide decision 1).runWithHandle among.database.replicaHandle held

/-- Settle the decision of a read: strict isolation first, then main if the session stays there,
then the chain. -/
def chooseRoute (decision : Decision) : Act σ (Decision × Route) := do
  let session ← Act.session
  if session.parameters.exceedsReadCommitted then
    return (decision.withReason .highIsolation, .main)
  if session.phase = .main then
    let reused := match session.main.decision? with
      | some cause => decision.withCause cause.rootCause
      | none => decision
    return (reused.withReason .mainReuse, .main)
  if ← Act.consult among.database.replicaAvailable then
    let (decision, opened) ←
      Act.consult (decideWithReplica among decision session.replica.handle?)
    return (decision, .byChain opened)
  return (← Act.consult (decideWithoutReplica among decision), .withoutReplica)

/-- Take the handle of a read. On the way from main back to a replica main is closed. -/
def followRoute (decision : Decision) : Route → Act σ Handle
  | .main => takeMain among decision
  | .withoutReplica => divertToMain among decision
  | .byChain opened => do
    adoptReplica among decision opened
    if decision.runsOnMain then divertToMain among decision
    else
      if (← Act.session).phase = .committedMain then closeSlot among .main
      Act.update fun session => { session with committed := false }
      takeReplica among decision

/-- Fail if the session is closed. -/
def ensureOpen : Act σ Unit := do
  if (← Act.session).closed then throw (.sessionClosed (← Act.session).id)

/-- Tell of a change of phase, if there was one. -/
def announce (before : Phase) : Act σ Unit := do
  let session ← Act.session
  if session.phase ≠ before then
    Act.affect (among.log (.transition session.id before session.phase))
    Act.affect (among.listener before session.phase)

/-- Note how routing ended, and remember the decision if it led to a handle. -/
def conclude (decision : Decision) (result : Except Fault Handle) : Act σ Unit := do
  let id := (← Act.session).id
  match result with
  | .ok handle =>
    Act.affect (among.log (.routed id decision.reason handle.kind))
    Act.update fun session => { session with lastDecision := some decision }
  | .error fault => Act.affect (among.log (.routingFailed id decision.reason fault))

/-- A handle for a read, on a replica whenever that is safe. -/
def readHandle (seed : Decision) : Act σ Handle := do
  ensureOpen
  let before := (← Act.session).phase
  let (decision, route) ← chooseRoute among seed
  let result ← Act.outcomeOf (followRoute among decision route)
  conclude among decision result
  announce among before
  Act.ofOutcome result

/-- A handle for a write, always on main. -/
def writeHandle (seed : Decision) : Act σ Handle := do
  ensureOpen
  let before := (← Act.session).phase
  let result ← Act.outcomeOf (takeMainForGood among seed)
  conclude among seed result
  announce among before
  Act.ofOutcome result

end ReplicaRouting.Session
