import ReplicaRouting.Fault
import ReplicaRouting.Time.Text

/-!
A cache that refreshes its value on every read, one refresh at a time, where a refresh that takes
too long can be overtaken. Refreshes are numbered; one that ends after a later one was stored is
dropped. If the values are known to grow, the greater value is kept instead, whenever it comes.

The numbers of refreshes and the counts of dropped ones are natural numbers. A cache that lives to
see 2^64 refreshes, where a word of 64 bits would run out, is out of scope.
-/

namespace ReplicaRouting

/-- The right to refresh: the number of the refresh, and the last point in time at which nobody
may take it over. -/
structure Lease where
  ticket : Nat
  deadline : Instant
deriving DecidableEq

namespace Lease

def expired (lease : Lease) (now : Instant) : Bool := lease.deadline < now

end Lease

/-- A cache whose refreshes hold a lease. -/
structure TimedFlight (α : Type) where
  timeout : Span
  /-- Whether a fresh value is beyond the stored one, where values are known to grow. -/
  newer? : Option (α → α → Bool) := none
  value? : Option α := none
  /-- The highest number of a refresh that was stored. -/
  storedTicket : Nat := 0
  lease? : Option Lease := none
  /-- The number of the latest refresh. -/
  lastTicket : Nat := 0
  /-- How many refreshes were dropped after a later one was stored. -/
  discarded : Nat := 0
  /-- How many other refreshes were dropped because they did not advance the value. -/
  stale : Nat := 0

namespace TimedFlight

variable {α : Type}

/-- A refresh that has begun: its number, and the number of the one that it takes over from. -/
structure Start where
  ticket : Nat
  robbed? : Option Nat
deriving DecidableEq

/-- Begin a refresh unless another one holds a lease that has not expired. -/
def acquire (cache : TimedFlight α) (now : Instant) : Option (Start × TimedFlight α) :=
  let ticket := cache.lastTicket + 1
  let started := { cache with
    lastTicket := ticket
    lease? := some { ticket, deadline := now.later cache.timeout } }
  match cache.lease? with
  | none => some ({ ticket, robbed? := none }, started)
  | some lease =>
    if lease.expired now then some ({ ticket, robbed? := some lease.ticket }, started)
    else none

/-- What became of a refresh that ended. -/
inductive Settlement where
  | kept
  | late (stored : Nat)
  | unmoved
  | failed
deriving DecidableEq

/-- Give back the lease, if it is still that of the refresh. -/
def release (cache : TimedFlight α) (ticket : Nat) : TimedFlight α :=
  if cache.lease?.map (·.ticket) = some ticket then { cache with lease? := none } else cache

def keeps (cache : TimedFlight α) (ticket : Nat) (fresh : α) : Bool :=
  match cache.newer?, cache.value? with
  | some newer, some current => newer fresh current
  | some _, none => true
  | none, _ => cache.storedTicket < ticket

/-- Keep a fresh value, or count it among the dropped ones. -/
def settle (cache : TimedFlight α) (ticket : Nat) (fresh : α) : Settlement × TimedFlight α :=
  if cache.keeps ticket fresh then
    (.kept, { cache with
      value? := some fresh
      storedTicket := max cache.storedTicket ticket })
  else if ticket < cache.storedTicket then
    (.late cache.storedTicket, { cache with discarded := cache.discarded + 1 })
  else (.unmoved, { cache with stale := cache.stale + 1 })

/-- End a refresh. A refresh that is broken off instead leaves its lease to expire. -/
def finish (cache : TimedFlight α) (ticket : Nat) : Except Fault α → Settlement × TimedFlight α
  | .ok fresh => (cache.release ticket).settle ticket fresh
  | .error _ => (.failed, cache.release ticket)

def text (cache : TimedFlight α) : String :=
  "TimedSingleFlightCache \x7b timeout: " ++ cache.timeout.text ++
    ", sequence_values: " ++ toString cache.newer?.isSome ++
    ", discarded: " ++ toString cache.discarded ++
    ", stale: " ++ toString cache.stale ++ " \x7d"

end TimedFlight

end ReplicaRouting
