import ReplicaRouting.Rehearsal.Stage

/-!
What is done on stage from outside while trackers, chains and sessions play: moving the clock and
the progress of the databases, setting answers, and refreshing caches, with refreshes that can be
held for a while.
-/

namespace ReplicaRouting

/-- Something done from outside. -/
inductive Cue where
  | advance (span : Span)
  | setClock (time : Instant)
  | setMain (position? : Option Position)
  | setReplica (position? : Option Position)
  | setConsistent (index : Nat) (value : Bool)
  | resetMemory (index : Nat)
  | resetMainCache (index : Nat)
  | refresh (index : Nat) (supplier : Supplier)
  | hold (index : Nat) (id : String) (supplier : Supplier)
  | release (id : String)

/-- A value of a refreshing cache, as it is shown. -/
inductive Shown where
  | number (value : Int)
  | position (value : Position)
  | nodes (names : List String)

/-- What the reader of a refreshing cache gets. -/
inductive Reply where
  | value (value? : Option Shown)
  | fault (cause : Fault)
  | broken

/-- What comes of a cue. -/
inductive Report where
  | done
  | time (now : Instant)
  | refreshed (called : Bool) (reply : Reply)
  | entered
  | answered (reply : Reply)
  | released (reply : Reply)

namespace Stage

/-- How a cache of the stage deals with its values. -/
structure Handling (α : Type) where
  cell : Cell Stage (RefreshCache α)
  fresh : Int → α
  shown : α → Shown

def numberHandling (index : Nat) : Handling Int := ⟨numberCacheCell index, id, .number⟩

def positionHandling (index : Nat) : Handling Position :=
  ⟨positionCacheCell index, fun offset => ⟨.ofNat offset.toNat⟩, .position⟩

def freshNodes (count : Nat) : List Node :=
  (List.range count).map fun i => { name := s!"replica-node-{i + 1}" }

def nodeHandling (index : Nat) : Handling (List Node) :=
  ⟨nodeCacheCell index, fun count => freshNodes count.toNat,
    fun nodes => .nodes (nodes.map (·.name))⟩

namespace Handling

variable {α : Type} (handling : Handling α)

def last (stage : Stage) : Option Shown := (handling.cell.get stage).last.map handling.shown

def finish (ticket : Nat) : Supplier → StateM Stage Reply
  | .value value => do
    match ← (shared handling.cell).finish ticket (.ok (handling.fresh value)) with
    | .ok stored => return .value (stored.map handling.shown)
    | .error fault => return .fault fault
  | .fails reason => do
    match ← (shared handling.cell).finish ticket (.error (.discoveryFailed reason)) with
    | .ok stored => return .value (stored.map handling.shown)
    | .error fault => return .fault fault
  | .breaksOff => do
    modify (shared handling.cell).breakOff
    return .broken

/-- Read the cache: with the number of a refresh that has begun, or with the reply. -/
def acquire : StateM Stage (Except Reply Nat) := do
  match ← (shared handling.cell).acquire with
  | .contended last => return .error (.value (last.map handling.shown))
  | .refreshing ticket _ => return .ok ticket

end Handling

def finish (ticket : Nat) (supplier : Supplier) : CacheId → StateM Stage Reply
  | .numbers index => (numberHandling index).finish ticket supplier
  | .positions index => (positionHandling index).finish ticket supplier
  | .nodes index => (nodeHandling index).finish ticket supplier

def acquire : CacheId → StateM Stage (Except Reply Nat)
  | .numbers index => (numberHandling index).acquire
  | .positions index => (positionHandling index).acquire
  | .nodes index => (nodeHandling index).acquire

def last (stage : Stage) : CacheId → Option Shown
  | .numbers index => (numberHandling index).last stage
  | .positions index => (positionHandling index).last stage
  | .nodes index => (nodeHandling index).last stage

def follow : Cue → StateM Stage Report
  | .advance span => do
    modify fun s => { s with clock := s.clock.later span }
    return .time (← get).clock
  | .setClock time => do
    modify fun s => { s with clock := time }
    return .time time
  | .setMain position? => do
    modify fun s => { s with main := { s.main with position? } }
    return .done
  | .setReplica position? => do
    modify fun s => { s with replica := { s.replica with position? } }
    return .done
  | .setConsistent index value => do
    modify ((switchCell index).modify fun s => { s with consistent := value })
    return .done
  | .resetMemory index => do
    if let some memory := (← get).openMemories[index]? then
      modify ((memoryCell memory).modify fun m => { m with lastWrite := m.lastWrite.reset })
    return .done
  | .resetMainCache index => do
    if let some cache := (← get).openMainCaches[index]? then
      modify ((mainCacheCell cache).modify NewestCache.reset)
    return .done
  | .refresh index supplier => do
    let some cache := (← get).openCaches[index]? | return .done
    match ← acquire cache with
    | .error reply => return .refreshed false reply
    | .ok ticket => return .refreshed true (← finish ticket supplier cache)
  | .hold index id supplier => do
    let some cache := (← get).openCaches[index]? | return .done
    match ← acquire cache with
    | .error reply => return .answered reply
    | .ok ticket =>
      modify fun s => { s with held := { id, cache, ticket, supplier } :: s.held }
      return .entered
  | .release id => do
    match (← get).held.find? (·.id == id) with
    | none => return .done
    | some refresh =>
      modify fun s => { s with held := s.held.eraseP (·.id == id) }
      return .released (← finish refresh.ticket refresh.supplier refresh.cache)

end Stage

end ReplicaRouting
