import ReplicaRouting.Handle

/-!
The warnings a session has collected: each once, the first hundred.
-/

namespace ReplicaRouting

/-- Collected warnings, oldest first. -/
structure Warnings where
  kept : List Warning := []
deriving DecidableEq, Repr

namespace Warnings

/-- How many warnings are kept. -/
def capacity : Nat := 100

/-- Keep a warning, if there is room and it is not there yet. -/
def save (warnings : Warnings) (warning : Warning) : Warnings :=
  if warnings.kept.length ≥ capacity ∨ warning ∈ warnings.kept then warnings
  else { kept := warnings.kept ++ [warning] }

def saveAll (warnings : Warnings) (more : List Warning) : Warnings := more.foldl save warnings

end Warnings

end ReplicaRouting
