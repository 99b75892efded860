import ReplicaRouting.Cache.Newest
import ReplicaRouting.Position
import ReplicaRouting.Tracker

/-!
Tracking by positions: the furthest position of main seen after a write is what the replica has to
reach. Before the first write there is nothing to reach.
-/

namespace ReplicaRouting

/-- The furthest position seen, and whether the position of the latest write is unknown. -/
structure PositionTracker (π : Type) where
  lastWrite : NewestCache π := {}
  unknown : Bool := false
deriving DecidableEq

namespace PositionTracker

variable {σ π : Type} [Ord π]

/-- Main was written to, and its position was asked for. -/
def write (tracker : PositionTracker π) : Except Fault π → PositionTracker π
  | .ok position => { lastWrite := tracker.lastWrite.put position, unknown := false }
  | .error _ => { tracker with unknown := true }

/-- What a tracker knows before it looks at the replica. -/
inductive Standing (π : Type) where
  | settled (consistent : Bool)
  | awaiting (position : π)

/-- Whether the replica has to be looked at. -/
def standing (tracker : PositionTracker π) : Standing π :=
  if tracker.unknown then .settled false
  else match tracker.lastWrite.value? with
    | none => .settled true
    | some position => .awaiting position

/-- The tracker in a world with a way to measure progress. -/
def tracker (cell : Cell σ (PositionTracker π)) (source : ProgressSource σ π) (log : Log σ) :
    Tracker σ where
  write main world :=
    let (fetched, world) := source.fetchMain main world
    let world := cell.modify (·.write fetched) world
    match fetched with
    | .ok _ => world
    | .error fault => log (.mainPositionUnreadable fault) world
  isConsistent := do
    match ← Consult.look fun world => (cell.get world).standing with
    | .settled consistent => return consistent
    | .awaiting position =>
      match ← source.consultReplica with
      | .ok reached => return (compare reached position).isGE
      | .error fault =>
        Consult.change (log (.replicaPositionUnreadable fault))
        return false

def text (tracker : PositionTracker Position) : String :=
  let position := tracker.lastWrite.value?.map fun p => s!"LogPosition({p.offset.toNat})"
  "LogPositionConsistency \x7b last_write: " ++ Text.optional position ++
    ", unknown: " ++ toString tracker.unknown ++ " \x7d"

end PositionTracker

end ReplicaRouting
