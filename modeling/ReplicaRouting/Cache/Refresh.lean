import ReplicaRouting.Cache.SingleFlight
import ReplicaRouting.Cache.TimedFlight
import ReplicaRouting.Consult
import ReplicaRouting.Fallible
import ReplicaRouting.Notice

/-!
The caches that refresh on read, under one set of operations. A refresh is begun, and ended or
broken off later, so that several may be under way in one cache.
-/

namespace ReplicaRouting

/-- A cache that refreshes on read. The first kind stores nothing. -/
inductive RefreshCache (α : Type) where
  | passThrough
  | single (cache : SingleFlight α)
  | timed (cache : TimedFlight α)

namespace RefreshCache

variable {α : Type}

/-- What a reader gets: the last value without a refresh, or a refresh with its number and the
number of the one that it takes over from. -/
inductive Access (α : Type) where
  | contended (last : Option α)
  | refreshing (ticket : Nat) (robbed? : Option Nat)

def last : RefreshCache α → Option α
  | passThrough => none
  | single cache => cache.value?
  | timed cache => cache.value?

/-- Read at a point in time: begin a refresh, if that is possible. -/
def acquire (now : Instant) : RefreshCache α → Access α × RefreshCache α
  | passThrough => (.refreshing 0 none, passThrough)
  | single cache =>
    match cache.acquire with
    | some started => (.refreshing 0 none, single started)
    | none => (.contended cache.value?, single cache)
  | timed cache =>
    match cache.acquire now with
    | some (start, started) => (.refreshing start.ticket start.robbed?, timed started)
    | none => (.contended cache.value?, timed cache)

/-- A refresh that ended: what its reader gets, and what became of its value. -/
structure Ending (α : Type) where
  answer : Except Fault (Option α)
  settlement : TimedFlight.Settlement

/-- End a refresh. Its reader gets the value then stored, or the fault. -/
def finish (ticket : Nat) (outcome : Except Fault α) : RefreshCache α → Ending α × RefreshCache α
  | passThrough => ({ answer := outcome.map some, settlement := .kept }, passThrough)
  | single cache =>
    let cache := cache.finish outcome
    ({ answer := outcome.map fun _ => cache.value?, settlement := .kept }, single cache)
  | timed cache =>
    let (settlement, cache) := cache.finish ticket outcome
    ({ answer := outcome.map fun _ => cache.value?, settlement }, timed cache)

/-- Break off a refresh. -/
def breakOff : RefreshCache α → RefreshCache α
  | passThrough => passThrough
  | single cache => single cache.breakOff
  | timed cache => timed cache

/-- The refreshes dropped by a cache with leases: late ones, and those that advanced nothing. -/
def dropped? : RefreshCache α → Option (Nat × Nat)
  | timed cache => some (cache.discarded, cache.stale)
  | _ => none

end RefreshCache

/-- A refreshing cache in a world, with the clock that it goes by and the log for its notices. -/
structure SharedCache (σ α : Type) where
  cell : Cell σ (RefreshCache α)
  now : σ → Instant
  log : Log σ

namespace SharedCache

variable {σ q r α : Type}

/-- Read the cache: begin a refresh, or get the last value. -/
def acquire (cache : SharedCache σ α) : StateM σ (RefreshCache.Access α) := fun world =>
  let (access, next) := (cache.cell.get world).acquire (cache.now world)
  let world := cache.cell.set next world
  match access with
  | .refreshing _ (some robbed) => (access, cache.log (.leaseTakenOver robbed) world)
  | _ => (access, world)

def finish (cache : SharedCache σ α) (ticket : Nat) (outcome : Except Fault α) :
    StateM σ (Except Fault (Option α)) := fun world =>
  let (ending, next) := (cache.cell.get world).finish ticket outcome
  let world := cache.cell.set next world
  match ending.settlement with
  | .late stored => (ending.answer, cache.log (.lateRefresh ticket stored) world)
  | .unmoved => (ending.answer, cache.log (.unmovedRefresh ticket) world)
  | .kept | .failed => (ending.answer, world)

/-- Break off a refresh. -/
def breakOff (cache : SharedCache σ α) (world : σ) : σ :=
  cache.cell.modify RefreshCache.breakOff world

/-- Read through the cache, refreshing its value from `supplier` if that is possible. -/
def get (cache : SharedCache σ α) (supplier : Consult σ q r (Except Fault α)) :
    Consult σ q r (Except Fault (Option α)) := do
  match ← Consult.act cache.acquire with
  | .contended last => return .ok last
  | .refreshing ticket _ =>
    let outcome ← supplier
    Consult.act (cache.finish ticket outcome)

end SharedCache

end ReplicaRouting
