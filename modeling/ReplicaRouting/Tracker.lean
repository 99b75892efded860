import ReplicaRouting.Consult
import ReplicaRouting.Fallible
import ReplicaRouting.Notice

/-!
Trackers judge whether a replica shows every write made through main. They are told of writes and
asked before reads. A tracker that cannot tell says no.
-/

namespace ReplicaRouting

/-- A replica handle, or why there is none. -/
abbrev Supply : Type := Except Fault Handle

/-- A judge of consistency over the world `σ`. -/
structure Tracker (σ : Type) where
  /-- Main was just written to. -/
  write : Handle → σ → σ
  /-- Main is about to commit. -/
  preCommit : Handle → σ → σ := fun _ world => world
  /-- Whether a read from the replica would see every write. The question asks for its handle. -/
  isConsistent : Consult σ Unit Supply Bool

/-- A way to measure how far the databases have come. -/
structure ProgressSource (σ π : Type) where
  fetchMain : Handle → Fallible σ π
  fetchReplica : Handle → Fallible σ π

namespace ProgressSource

variable {σ π : Type}

/-- Ask for the replica and measure its progress. -/
def consultReplica (source : ProgressSource σ π) : Consult σ Unit Supply (Except Fault π) := do
  match ← Consult.ask () with
  | .error fault => return .error fault
  | .ok handle => Consult.act (source.fetchReplica handle)

end ProgressSource

namespace Consult

variable {σ q α : Type}

/-- Run with handles opened by `supply` on the first question and used again on all later ones.
A failed opening is tried again. The handle held at the end comes with the answer. -/
def runWithHandle (consult : Consult σ q Supply α) (supply : Fallible σ Handle)
    (held : Option Handle) : StateM σ (α × Option Handle) := fun world =>
  let reply := fun (_ : q) (held : Option Handle) (world : σ) =>
    match held with
    | some handle => (Except.ok handle, held, world)
    | none =>
      match supply world with
      | (.ok handle, world) => (Except.ok handle, some handle, world)
      | (.error fault, world) => (Except.error fault, none, world)
  let (answer, held, world) := consult.run reply held world
  ((answer, held), world)

end Consult

end ReplicaRouting
