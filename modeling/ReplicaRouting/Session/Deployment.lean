import ReplicaRouting.Session.Act

/-!
Sessions on the standard chain: the tracker that is told of their writes is also the one that the
chain asks.
-/

namespace ReplicaRouting

/-- What a session on the standard chain works with, apart from the tracker. -/
structure Surroundings (σ : Type) where
  database : Database σ
  classifier : Classifier
  breaker : Cell σ Breaker
  listener : Phase → Phase → σ → σ
  log : Log σ

/-- What a session on the standard chain is built from. -/
structure Deployment (σ : Type) extends Surroundings σ where
  tracker : Tracker σ

namespace Deployment

/-- The collaborators of a session on the standard chain. -/
def collaborators {σ : Type} (deployment : Deployment σ) : Collaborators σ where
  database := deployment.database
  tracker := deployment.tracker
  chain := Chain.standard deployment.classifier deployment.tracker deployment.breaker
    deployment.log
  listener := deployment.listener
  log := deployment.log

end Deployment

end ReplicaRouting
