import ReplicaRouting.Cache.Newest
import ReplicaRouting.Cache.Refresh
import ReplicaRouting.Tracker

/-!
Tracking by cached progress: that of main is stored after every write, that of the replica is read
through a refreshing cache. While either is unknown a fixed answer is given.
-/

namespace ReplicaRouting

namespace ProgressTracker

variable {σ π : Type} [Ord π]

/-- What is stored of main's progress after a write. -/
def afterWrite (lastMain : NewestCache π) : Except Fault π → NewestCache π
  | .ok progress => lastMain.put progress
  | .error _ => lastMain.reset

/-- The judgement on the progress of a replica, which has to be at least `lastMain`. -/
def judge (fallback : Bool) (lastMain : π) : Except Fault (Option π) → Bool
  | .ok (some reached) => (compare reached lastMain).isGE
  | .ok none => fallback
  | .error _ => false

/-- The tracker in a world with a way to measure progress. -/
def tracker (fallback : Bool) (lastMain : Cell σ (NewestCache π)) (lastReplica : SharedCache σ π)
    (source : ProgressSource σ π) (log : Log σ) : Tracker σ where
  write main world :=
    let (fetched, world) := source.fetchMain main world
    let world := lastMain.modify (afterWrite · fetched) world
    match fetched with
    | .ok _ => world
    | .error fault => log (.mainProgressForgotten fault) world
  isConsistent := do
    match ← Consult.look fun world => (lastMain.get world).value? with
    | none => return fallback
    | some main =>
      let fetched ← lastReplica.get source.consultReplica
      match fetched with
      | .error fault => Consult.change (log (.replicaProgressUnreadable fault))
      | .ok _ => pure ()
      return judge fallback main fetched

def text (fallback : Bool) : String :=
  "ProgressCachingConsistency \x7b fallback: " ++ toString fallback ++ ", .. \x7d"

end ProgressTracker

end ReplicaRouting
