import ReplicaRouting.Cache.Newest
import ReplicaRouting.Chain

/-!
Trackers and chiefs for rehearsals, with answers set in advance.
-/

namespace ReplicaRouting

/-- Ask for the replica if `touches` says so, and get to know whether it could be had. -/
def Consult.reach {σ : Type} (touches : Bool) : Consult σ Unit Supply Bool := do
  if touches then
    match ← Consult.ask () with
    | .ok _ => return true
    | .error _ => return false
  return true

/-- A tracker with an answer that can be switched; it counts the calls to it. -/
structure Switch where
  consistent : Bool := true
  touches : Bool := false
  writes : Nat := 0
  preCommits : Nat := 0
  checks : Nat := 0

instance : Inhabited Switch := ⟨{}⟩

/-- The tracker of a switch. It says no if it is to touch the replica and cannot. -/
def Switch.tracker {σ : Type} (cell : Cell σ Switch) : Tracker σ where
  write _ world := cell.modify (fun s => { s with writes := s.writes + 1 }) world
  preCommit _ world := cell.modify (fun s => { s with preCommits := s.preCommits + 1 }) world
  isConsistent := do
    Consult.change (cell.modify fun s => { s with checks := s.checks + 1 })
    let touches ← Consult.look fun world => (cell.get world).touches
    if ← Consult.reach touches then Consult.look fun world => (cell.get world).consistent
    else return false

/-- A tracker that goes through a list of answers again and again. -/
structure Rotation where
  answers : List Bool := []
  touches : Bool := false
  next : Nat := 0

instance : Inhabited Rotation := ⟨{}⟩

/-- The tracker of a rotation. Only an answer that is given counts. -/
def Rotation.tracker {σ : Type} (cell : Cell σ Rotation) : Tracker σ where
  write _ world := world
  isConsistent := do
    let rotation ← Consult.look cell.get
    if rotation.answers.isEmpty then return false
    if ← Consult.reach rotation.touches then
      Consult.act fun world =>
        let rotation := cell.get world
        (rotation.answers.getD (rotation.next % rotation.answers.length) false,
          cell.set { rotation with next := rotation.next + 1 } world)
    else return false

/-- The tracker `inner` asked twice for every answer, with `preCommit` kept from it. -/
def Tracker.askedTwice {σ : Type} (inner : Tracker σ) : Tracker σ where
  write := inner.write
  isConsistent := do
    let first ← inner.isConsistent
    let second ← inner.isConsistent
    return first && second

/-- A chief that follows a script: for statements that hold a text, or for all operations, it may
ask for the first replica and then give a reason. -/
structure ScriptedChief where
  reason? : Option Reason
  touches : Bool
  only? : Option String

namespace ScriptedChief

def concerns (script : ScriptedChief) (decision : Decision) : Bool :=
  match script.only? with
  | none => true
  | some text => decision.sql.any fun sql => Text.hasPart text.toList sql.toList

/-- The chief of a script; it counts the calls to it. -/
def chief {σ : Type} (script : ScriptedChief) (calls : Cell σ Nat) : Chief σ :=
  fun decision replicas => do
    Consult.change (calls.modify (· + 1))
    if script.concerns decision then
      if h : script.touches = true ∧ 0 < replicas then
        let _ ← Consult.ask ⟨0, h.2⟩
      match script.reason? with
      | some reason => return decision.withReason reason
      | none => return decision
    return decision

end ScriptedChief

end ReplicaRouting
