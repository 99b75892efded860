import ReplicaRouting.Decision
import ReplicaRouting.Fallible

/-!
The place of one of the two handles a session may hold. A handle is kept with the decision for
which it was opened.
-/

namespace ReplicaRouting

/-- A place for a handle. -/
inductive Slot where
  | absent
  | ready (handle : Handle) (decision : Decision)
deriving DecidableEq, Repr

namespace Slot

def isReady : Slot → Bool
  | ready .. => true
  | absent => false

/-- The handle held. -/
def handle? : Slot → Option Handle
  | ready handle _ => some handle
  | absent => none

def decision? : Slot → Option Decision
  | ready _ decision => some decision
  | absent => none

/-- Hold a handle, unless one is held. -/
def install (slot : Slot) (handle : Handle) (decision : Decision) : Slot :=
  match slot with
  | ready .. => slot
  | absent => ready handle decision

/-- A handle from a slot, and whether it had to be opened for that. -/
structure Obtained where
  handle : Handle
  created : Bool
  slot : Slot

/-- The handle held, or a new one, kept with `decision`. -/
def getOrOpen {σ : Type} (slot : Slot) (decision : Decision) (opening : Fallible σ Handle) :
    Fallible σ Obtained :=
  match slot with
  | ready handle _ => return { handle, created := false, slot }
  | absent => do
    let handle ← opening
    return { handle, created := true, slot := ready handle decision }

/-- The decision kept gives way to one that keeps the session on main, unless it is such a one. -/
def repin (slot : Slot) (decision : Decision) : Slot :=
  match slot with
  | ready handle kept =>
    if !kept.pinsMain && decision.pinsMain then ready handle decision else slot
  | absent => absent

end Slot

end ReplicaRouting
