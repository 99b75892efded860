import Mathlib.Tactic.SplitIfs
import ReplicaRouting.Proofs.Session.Routing
import ReplicaRouting.Proofs.Consult
import ReplicaRouting.Session.Deployment

/-!
What the standard chain decides: the breaker, writes and row locks settle a decision without a look
at any replica, and only what they leave open is put to the tracker.
-/

namespace ReplicaRouting

namespace Deployment

variable {σ : Type} (deployment : Deployment σ)

/-- The reason for which an operation runs on main before the tracker is asked. -/
def earlyReason (seed : Decision) (world : σ) : Option Reason :=
  if seed.runsOnMain then some seed.reason
  else if (deployment.breaker.get world).isOpen then some .circuitOpen
  else if deployment.classifier.isWrite seed.sql then some .writeOperation
  else if deployment.classifier.isLock seed.sql then some .lock
  else none

variable {deployment} {seed : Decision} {world : σ}

theorem runsOnMain_of_earlyReason {reason : Reason}
    (h : deployment.earlyReason seed world = some reason) : reason.runsOnMain = true := by
  unfold earlyReason at h
  split_ifs at h with hm <;> cases h
  · exact hm
  all_goals rfl

theorem breaker_apply (replicas : Nat) :
    Chief.breaker deployment.breaker seed replicas world =
      .answered (if (deployment.breaker.get world).isOpen then seed.withReason .circuitOpen
        else seed) world := by
  unfold Chief.breaker
  rw [Consult.look_bind]
  split <;> rfl

theorem writes_apply (classifier : Classifier) (replicas : Nat) :
    Chief.writes classifier seed replicas world =
      .answered (if classifier.isWrite seed.sql then seed.withReason .writeOperation
        else if classifier.isLock seed.sql then seed.withReason .lock else seed) world := by
  unfold Chief.writes
  split_ifs <;> rfl

theorem decide_of_early {reason : Reason} (h : deployment.earlyReason seed world = some reason)
    (replicas : Nat) :
    deployment.collaborators.chain.decide seed replicas world =
      .answered (seed.withReason reason) world := by
  unfold earlyReason at h
  simp only [collaborators, Chain.standard, Chain.decide]
  by_cases hm : seed.runsOnMain = true
  · simp only [hm, ↓reduceIte] at h ⊢
    cases h
    rfl
  simp only [hm, Bool.false_eq_true, ↓reduceIte] at h ⊢
  rw [Consult.bind_of_answered (breaker_apply replicas)]
  split_ifs at h with hb hw hl
  · cases h
    simp only [hb, ↓reduceIte]
    rfl
  all_goals
    simp only [hb, Bool.false_eq_true, ↓reduceIte, hm]
    rw [Consult.bind_of_answered (writes_apply _ replicas)]
    cases h
  · simp only [hw, ↓reduceIte]
    rfl
  · simp only [hw, hl, Bool.false_eq_true, ↓reduceIte]
    rfl

theorem decide_of_undecided (h : deployment.earlyReason seed world = none) (replicas : Nat) :
    deployment.collaborators.chain.decide seed replicas world =
      Chief.consistency deployment.tracker deployment.log seed replicas world := by
  unfold earlyReason at h
  simp only [collaborators, Chain.standard, Chain.decide]
  split_ifs at h with hm hb hw hl
  simp only [hm, Bool.false_eq_true, ↓reduceIte]
  rw [Consult.bind_of_answered (breaker_apply replicas)]
  simp only [hb, Bool.false_eq_true, ↓reduceIte, hm]
  rw [Consult.bind_of_answered (writes_apply _ replicas)]
  simp only [hw, hl, Bool.false_eq_true, ↓reduceIte, hm]
  exact congrFun (Consult.bind_pure _) world

theorem runsOnMain_of_undecided (h : deployment.earlyReason seed world = none) :
    seed.runsOnMain = false := by
  unfold earlyReason at h
  split_ifs at h with hm
  exact Bool.eq_false_iff.mpr hm

theorem decideWithoutReplica_of_early {reason : Reason}
    (h : deployment.earlyReason seed world = some reason) :
    Session.decideWithoutReplica deployment.collaborators seed world =
      (seed.withReason reason, world) := by
  have hm : (seed.withReason reason).runsOnMain = true := runsOnMain_of_earlyReason h
  unfold Session.decideWithoutReplica Consult.run
  rw [decide_of_early h 0]
  simp only [Inquiry.run, hm, ↓reduceIte]

theorem decideWithoutReplica_of_undecided (h : deployment.earlyReason seed world = none) :
    Session.decideWithoutReplica deployment.collaborators seed world =
      (seed.withReason .replicaUnavailable, deployment.log .noReplicaToCheck world) := by
  have hm := runsOnMain_of_undecided h
  unfold Session.decideWithoutReplica Consult.run
  rw [decide_of_undecided h 0]
  unfold Chief.consistency
  dsimp only
  rw [Consult.change_bind]
  change ((if seed.runsOnMain then seed else _), _) = _
  simp only [hm, Bool.false_eq_true, ↓reduceIte]
  rfl

variable (held : Option Handle)

theorem decideWithReplica_of_early {reason : Reason}
    (h : deployment.earlyReason seed world = some reason) :
    Session.decideWithReplica deployment.collaborators seed held world =
      ((seed.withReason reason, held), world) := by
  unfold Session.decideWithReplica
  rw [Consult.runWithHandle_eq]
  unfold Consult.run
  rw [decide_of_early h 1]
  rfl

/-- What the breaker and the statement leave open is for the tracker to say. -/
theorem decideWithReplica_of_undecided (h : deployment.earlyReason seed world = none) :
    Session.decideWithReplica deployment.collaborators seed held world =
      let verdict := deployment.tracker.isConsistent.runWithHandle
        deployment.database.replicaHandle held world
      if verdict.1.1 then ((seed, verdict.1.2), verdict.2)
      else ((seed.withReason .replicaInconsistent, verdict.1.2),
        deployment.log (.replicaInconsistent seed.sql) verdict.2) := by
  have hd : Session.decideWithReplica deployment.collaborators seed held world =
      (Chief.consistency deployment.tracker deployment.log seed 1).runWithHandle
        deployment.database.replicaHandle held world := by
    unfold Session.decideWithReplica
    rw [Consult.runWithHandle_eq, Consult.runWithHandle_eq]
    unfold Consult.run
    rw [decide_of_undecided h 1]
    rfl
  rw [hd]
  unfold Chief.consistency
  dsimp only
  rw [Consult.runWithHandle_bind, Consult.runWithHandle_mapQuestion]
  rcases deployment.tracker.isConsistent.runWithHandle deployment.database.replicaHandle held
    world with ⟨⟨_ | _, _⟩, _⟩ <;> rfl

end Deployment

end ReplicaRouting
