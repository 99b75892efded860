import Mathlib.Control.Monad.Basic
import ReplicaRouting.Session.Deployment

/-!
The simplest surroundings of a session: a database that grants every request and a breaker that has
seen no failure. With a tracker that finds its verdict in the world they make a deployment.
Statements about all deployments are tried on it.
-/

namespace ReplicaRouting

/-- A database that grants every request, main on connection 0 and a replica on connection 1. -/
def Database.obliging (σ : Type) : Database σ where
  replicaAvailable world := (true, world)
  openMain world := (.ok ⟨0⟩, world)
  openReplica world := (.ok ⟨1⟩, world)
  call _ _ world := (.ok (), world)
  warnings _ world := (.ok [], world)

/-- Surroundings in which nothing fails and no failure was ever counted. -/
def Surroundings.obliging (σ : Type) : Surroundings σ where
  database := .obliging σ
  classifier := {}
  breaker := ⟨fun _ => {}, fun _ world => world⟩
  listener _ _ world := world
  log _ world := world

/-- The world of the deployment tells whether the replica has caught up. -/
def Deployment.obliging : Deployment Bool where
  toSurroundings := .obliging Bool
  tracker :=
    { write := fun _ world => world
      isConsistent := do
        let _ ← Consult.ask ()
        Consult.look id }

end ReplicaRouting
