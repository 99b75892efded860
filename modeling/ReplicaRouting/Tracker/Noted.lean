import ReplicaRouting.Tracker

/-!
A tracker that notes every call to another one.
-/

namespace ReplicaRouting

/-- The tracker `inner`, with a notice under `name` after each call. -/
def Tracker.noted {σ : Type} (inner : Tracker σ) (name : String) (log : Log σ) : Tracker σ where
  write main world := log (.trackerWrite name main.kind) (inner.write main world)
  preCommit main world := log (.trackerPreCommit name main.kind) (inner.preCommit main world)
  isConsistent := do
    let consistent ← inner.isConsistent
    Consult.change (log (.trackerCheck name consistent))
    return consistent

def Tracker.notedText (name : String) : String :=
  "LoggingConsistency \x7b name: " ++ Text.quoted name ++ ", .. \x7d"

end ReplicaRouting
