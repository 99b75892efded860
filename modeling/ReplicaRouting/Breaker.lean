import ReplicaRouting.Fallible
import ReplicaRouting.Notice

/-!
A breaker that opens when a replica turns out to lack a capability, and stays open until it is
reset. While it is open everything runs on main.
-/

namespace ReplicaRouting

/-- A breaker, closed at first. -/
structure Breaker where
  isOpen : Bool := false
deriving DecidableEq, Repr

namespace Breaker

def allowsReplicas (breaker : Breaker) : Bool := !breaker.isOpen

def name (breaker : Breaker) : String := if breaker.isOpen then "Open" else "Closed"

def text (breaker : Breaker) : String :=
  "CircuitBreaker \x7b state: " ++ breaker.name ++ " \x7d"

variable {σ α : Type}

/-- Open the breaker. Only the first time is worth a notice. -/
def trip (cell : Cell σ Breaker) (log : Log σ) (world : σ) : σ :=
  let tripped := cell.set { isOpen := true } world
  if (cell.get world).isOpen then tripped else log .capabilityUnsupported tripped

def reset (cell : Cell σ Breaker) (world : σ) : σ := cell.set { isOpen := false } world

/-- Run an operation, and open the breaker if a replica lacks the capability for it. -/
def guard (cell : Cell σ Breaker) (log : Log σ) (operation : Fallible σ α) : Fallible σ α :=
  fun world =>
    match operation world with
    | (.error fault, world) =>
      if fault.isUnsupportedCapability then
        (.error fault, trip cell log (log (.tripping fault) world))
      else (.error fault, world)
    | (.ok value, world) => (.ok value, world)

end Breaker

end ReplicaRouting
