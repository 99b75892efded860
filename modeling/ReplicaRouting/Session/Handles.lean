import ReplicaRouting.Session.Act

/-!
How a session comes by its handles and parts with them. A handle is put into its slot before it is
brought in line with the session; a slot is emptied before its handle is closed.
-/

namespace ReplicaRouting.Session

variable {σ : Type} (among : Collaborators σ)

/-- Close the handle of a kind, after saving its warnings. If they cannot be read, that is saved as
a warning. -/
def closeSlot (kind : HandleKind) : Act σ Unit := do
  match ((← Act.session).slot kind).handle? with
  | none => return ()
  | some handle =>
    Act.update (·.without kind)
    let collected := match ← Act.attempt (among.database.warnings handle.connection) with
      | .ok warnings => warnings
      | .error fault => [{ message := fault.message }]
    Act.update fun session => { session with warnings := session.warnings.saveAll collected }
    match ← Act.attempt (among.database.call handle.connection .close) with
    | .ok () => return ()
    | .error fault =>
      Act.affect (among.log (.closeFailed (← Act.session).id kind fault))
      throw fault

/-- Part with the replica when main is held. A replica that shares the connection of main is
dropped, not closed. -/
def releaseReplica (main : Handle) : Act σ Unit := do
  if (← Act.session).replica.handle?.any (·.connection = main.connection) then
    Act.update (·.without .replica)
  else closeSlot among .replica

/-- Bring a handle in line with the parameters of the session. -/
def bringInLine (handle : Handle) : Act σ Unit := do
  Act.request ((← Act.session).parameters.applyTo among.database among.log handle)

/-- The main handle, opened if need be; the replica is parted with. -/
def takeMain (decision : Decision) : Act σ Handle := do
  match (← Act.session).main.handle? with
  | some handle =>
    releaseReplica among handle
    return handle
  | none =>
    let handle ← Act.request among.database.mainHandle
    Act.update fun session => { session with main := session.main.install handle decision }
    Act.affect (among.log (.mainOpened (← Act.session).id decision.reason))
    releaseReplica among handle
    bringInLine among handle
    return handle

/-- The main handle for a write, with which the session stays. -/
def takeMainForGood (decision : Decision) : Act σ Handle := do
  Act.update fun session => { session with committed := false }
  let handle ← takeMain among decision
  Act.update fun session => { session with main := session.main.repin decision }
  return handle

/-- The main handle for an operation that the chain or the lack of a replica sends there. -/
def divertToMain (decision : Decision) : Act σ Handle := do
  if decision.pinsMain then takeMainForGood among decision
  else
    Act.update fun session => { session with committed := true }
    takeMain among decision

/-- The replica handle, opened if need be. -/
def takeReplica (decision : Decision) : Act σ Handle := do
  let obtained ← Act.request
    ((← Act.session).replica.getOrOpen decision among.database.replicaHandle)
  Act.update fun session => { session with replica := obtained.slot }
  if obtained.created then
    Act.affect (among.log (.replicaOpened (← Act.session).id))
    bringInLine among obtained.handle
  return obtained.handle

/-- Keep a replica that was opened while the chain was asked. -/
def adoptReplica (decision : Decision) (opened : Option Handle) : Act σ Unit := do
  if (← Act.session).replica.isReady then return ()
  match opened with
  | none => return ()
  | some handle =>
    Act.update fun session => { session with replica := session.replica.install handle decision }
    bringInLine among handle

end ReplicaRouting.Session
