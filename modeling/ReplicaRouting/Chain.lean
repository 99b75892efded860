import ReplicaRouting.Breaker
import ReplicaRouting.Statement.Classifier
import ReplicaRouting.Tracker

/-!
Chiefs may send an operation to main. A chain of them is asked in order until one does.
-/

namespace ReplicaRouting

/-- A rule that may change a decision. It is told how many replicas there are and may ask for the
handle of any of them. -/
abbrev Chief (σ : Type) : Type :=
  Decision → (replicas : Nat) → Consult σ (Fin replicas) Supply Decision

/-- Chiefs in the order in which they are asked. -/
abbrev Chain (σ : Type) : Type := List (Chief σ)

namespace Chief

variable {σ : Type}

/-- While the breaker is open everything runs on main. -/
def breaker (cell : Cell σ Breaker) : Chief σ := fun decision _ => do
  if ← Consult.look fun world => (cell.get world).isOpen then
    return decision.withReason .circuitOpen
  return decision

/-- Writes and row locks run on main. -/
def writes (classifier : Classifier) : Chief σ := fun decision _ =>
  if classifier.isWrite decision.sql then return decision.withReason .writeOperation
  else if classifier.isLock decision.sql then return decision.withReason .lock
  else return decision

/-- Reads run on main while the first replica has not caught up. -/
def consistency (tracker : Tracker σ) (log : Log σ) : Chief σ := fun decision replicas =>
  match replicas with
  | 0 => do
    Consult.change (log .noReplicaToCheck)
    return decision
  | _ + 1 => do
    if ← tracker.isConsistent.mapQuestion fun _ => 0 then return decision
    Consult.change (log (.replicaInconsistent decision.sql))
    return decision.withReason .replicaInconsistent

def consistencyText : String := "ConsistencyGuardingChief \x7b .. \x7d"

end Chief

namespace Chain

variable {σ : Type}

/-- Ask the chiefs in order, until the operation runs on main. -/
def decide : Chain σ → Chief σ
  | [], decision, _ => return decision
  | chief :: chiefs, decision, replicas => do
    if decision.runsOnMain then return decision
    decide chiefs (← chief decision replicas) replicas

/-- The breaker first, then writes, then consistency: the cheap questions before the dear one. -/
def standard (classifier : Classifier) (tracker : Tracker σ) (breaker : Cell σ Breaker)
    (log : Log σ) : Chain σ :=
  [Chief.breaker breaker, Chief.writes classifier, Chief.consistency tracker log]

def text (chain : Chain σ) : String :=
  "ChainOfChiefs \x7b chiefs: " ++ toString chain.length ++ " \x7d"

end Chain

end ReplicaRouting
