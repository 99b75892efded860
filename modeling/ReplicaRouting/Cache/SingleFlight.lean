import ReplicaRouting.Fault

/-!
A cache that refreshes its value on every read, one refresh at a time. A reader that finds a
refresh under way does not wait for it and gets the last value.
-/

namespace ReplicaRouting

/-- The last value, and whether a refresh is under way. -/
structure SingleFlight (α : Type) where
  value? : Option α := none
  busy : Bool := false

namespace SingleFlight

variable {α : Type}

def acquire (cache : SingleFlight α) : Option (SingleFlight α) :=
  if cache.busy then none else some { cache with busy := true }

/-- End the refresh under way. Only a fresh value changes what is stored. -/
def finish (cache : SingleFlight α) : Except Fault α → SingleFlight α
  | .ok fresh => { value? := some fresh, busy := false }
  | .error _ => { cache with busy := false }

def breakOff (cache : SingleFlight α) : SingleFlight α := { cache with busy := false }

end SingleFlight

end ReplicaRouting
