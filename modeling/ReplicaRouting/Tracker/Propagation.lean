import ReplicaRouting.Cache.Newest
import ReplicaRouting.Time.Instant
import ReplicaRouting.Tracker

/-!
Tracking by the longest time a write takes to arrive. The time of the last write is kept in a cache
that may lose it; then a write is assumed to have just happened.
-/

namespace ReplicaRouting

/-- A cache for the time of the last write. -/
structure WriteTimes (σ : Type) where
  get? : σ → Option Instant
  put : Instant → σ → σ

namespace WriteTimes

/-- Write times kept by a part of the world. -/
def inCell {σ : Type} (cell : Cell σ (NewestCache Instant)) : WriteTimes σ where
  get? world := (cell.get world).value?
  put time world := cell.modify (·.put time) world

end WriteTimes

namespace PropagationTracker

/-- Whether a write at `lastWrite` has arrived everywhere. -/
def arrived (maxPropagation : Span) (lastWrite now : Instant) : Bool :=
  lastWrite < now.earlier maxPropagation

/-- Judge by the time of the last write. If that is unknown, it is taken to be now, and kept. -/
def check {σ : Type} (maxPropagation : Span) (times : WriteTimes σ) (now : σ → Instant)
    (log : Log σ) : StateM σ Bool := fun world =>
  match times.get? world with
  | some lastWrite => (arrived maxPropagation lastWrite (now world), world)
  | none =>
    let assumed := now world
    let world := times.put assumed (log (.lastWriteAssumed assumed) world)
    (arrived maxPropagation assumed (now world), world)

/-- The tracker in a world with a clock. -/
def tracker {σ : Type} (maxPropagation : Span) (times : WriteTimes σ) (now : σ → Instant)
    (log : Log σ) : Tracker σ where
  write _ world := times.put (now world) world
  isConsistent := Consult.act (check maxPropagation times now log)

end PropagationTracker

end ReplicaRouting
