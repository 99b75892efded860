import ReplicaRouting.Cache.Newest
import ReplicaRouting.Time.Instant
import ReplicaRouting.Tracker

/-!
Tracking by an assumed lag: a replica has caught up once the lag has passed since the last write.
-/

namespace ReplicaRouting

/-- The lag assumed of the replica, and the time of the last write. -/
structure LagTracker where
  lag : Span
  lastWrite : NewestCache Instant
deriving DecidableEq

namespace LagTracker

/-- A tracker that begins as if a write had just happened. -/
def startingAt (now : Instant) (lag : Span) : LagTracker := { lag, lastWrite := ⟨some now⟩ }

/-- Main was written to. -/
def write (tracker : LagTracker) (now : Instant) : LagTracker :=
  { tracker with lastWrite := tracker.lastWrite.put now }

def isConsistent (tracker : LagTracker) (now : Instant) : Bool :=
  match tracker.lastWrite.value? with
  | some lastWrite => lastWrite < now.earlier tracker.lag
  | none => true

/-- The tracker in a world with a clock. -/
def tracker {σ : Type} (cell : Cell σ LagTracker) (now : σ → Instant) : Tracker σ where
  write _ world := cell.modify (·.write (now world)) world
  isConsistent := Consult.look fun world => (cell.get world).isConsistent (now world)

end LagTracker

end ReplicaRouting
