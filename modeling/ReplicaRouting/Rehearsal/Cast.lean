import ReplicaRouting.Rehearsal.Stage
import ReplicaRouting.Tracker.Noted

/-!
The cast of a rehearsal: trackers and chains put together from descriptions. Every part is entered
on the stage when it is made, the inner tracker before the one around it.
-/

namespace ReplicaRouting

/-- A refreshing cache. -/
inductive CacheSpec where
  | passThrough
  | single
  | timed (timeout : Span) (sequenced : Bool)

namespace CacheSpec

/-- The cache, still empty. Where values can grow, a fresh one has to be beyond the stored one. -/
def cache {α : Type} (grows? : Option (α → α → Bool)) : CacheSpec → RefreshCache α
  | passThrough => .passThrough
  | single => .single {}
  | timed timeout sequenced =>
    .timed { timeout, newer? := if sequenced then grows? else none }

end CacheSpec

/-- Where a tracker by propagation keeps the time of the last write. -/
inductive MemorySpec where
  | own
  | given
  | forgetful
deriving DecidableEq

/-- A tracker. -/
inductive TrackerSpec where
  | switch (consistent touches : Bool)
  | rotation (answers : List Bool) (touches : Bool)
  | lag (lag : Span)
  | propagation (max : Span) (memory : MemorySpec)
  | positions
  | progress (ownMain : Bool) (cache? : Option CacheSpec) (fallback : Bool)
  | cluster (inner : TrackerSpec) (nodes? : Option (List Node)) (cache? : Option CacheSpec)
  | noted (name : String) (inner : TrackerSpec)
  | twice (inner : TrackerSpec)

/-- A tracker that is on stage, by the parts it works with. -/
inductive Part where
  | switch (index : Nat)
  | rotation
  | lag (index : Nat)
  | propagation (max : Span) (memory? : Option Nat)
  | positions (index : Nat)
  | progress (fallback : Bool) (mainCache? cache? : Option Nat)
  | cluster (directory cache : Nat)
  | noted (name : String)
  | twice

/-- A tracker with the parts of all trackers in it, the outermost first. -/
structure Casting where
  tracker : Tracker Stage
  parts : List Part

namespace Stage

def enter {α : Type} (get : Stage → Array α) (set : Array α → Stage → Stage) (part : α) :
    StateM Stage Nat := fun stage =>
  ((get stage).size, set ((get stage).push part) stage)

def enterPositionCache (cache? : Option CacheSpec) : StateM Stage Nat := do
  let grows := fun (fresh current : Position) => compare fresh current == .gt
  let cache := (cache?.getD .passThrough).cache (some grows)
  let index ← enter Stage.positionCaches (fun items s => { s with positionCaches := items }) cache
  if cache?.isSome then
    modify fun s => { s with openCaches := s.openCaches.push (.positions index) }
  return index

def enterNodeCache (cache? : Option CacheSpec) : StateM Stage Nat := do
  let cache := (cache?.getD .passThrough).cache none
  let index ← enter Stage.nodeCaches (fun items s => { s with nodeCaches := items }) cache
  if cache?.isSome then
    modify fun s => { s with openCaches := s.openCaches.push (.nodes index) }
  return index

def enterNumberCache (cache : CacheSpec) : StateM Stage Nat := do
  let grows := fun (fresh current : Int) => compare fresh current == .gt
  let index ← enter Stage.numberCaches (fun items s => { s with numberCaches := items })
    (cache.cache (some grows))
  modify fun s => { s with openCaches := s.openCaches.push (.numbers index) }
  return index

def enterMemory (memory : MemorySpec) : StateM Stage Nat := do
  let index ← enter Stage.writeMemories (fun items s => { s with writeMemories := items })
    { forgetful := memory = .forgetful }
  if memory ≠ .own then modify fun s => { s with openMemories := s.openMemories.push index }
  return index

def enterMainCache (own : Bool) : StateM Stage Nat := do
  let index ← enter Stage.mainCaches (fun items s => { s with mainCaches := items }) {}
  if !own then modify fun s => { s with openMainCaches := s.openMainCaches.push index }
  return index

/-- Enter a directory of nodes; it keeps account of the connections to them. -/
def enterDirectory (nodes? : Option (List Node)) : StateM Stage Nat := do
  let index := (← get).directories.size
  let nodes? := nodes?.map (·.map fun node => { node with directory? := some index })
  enter Stage.directories (fun items s => { s with directories := items }) { nodes? }

end Stage

namespace TrackerSpec

open Stage

def build : TrackerSpec → StateM Stage Casting
  | switch consistent touches => do
    let index ← enter Stage.switches (fun items s => { s with switches := items })
      { consistent, touches }
    return { tracker := Switch.tracker (switchCell index), parts := [.switch index] }
  | rotation answers touches => do
    let index ← enter Stage.rotations (fun items s => { s with rotations := items })
      { answers, touches }
    return { tracker := Rotation.tracker (rotationCell index), parts := [.rotation] }
  | lag span => do
    let index ← enter Stage.lags (fun items s => { s with lags := items })
      (.startingAt (← get).clock span)
    return { tracker := LagTracker.tracker (lagCell index) Stage.clock, parts := [.lag index] }
  | propagation max memory => do
    let index ← enterMemory memory
    let tracker := PropagationTracker.tracker max (writeTimes index) Stage.clock log
    let memory? := if memory = .own then none else some index
    return { tracker, parts := [.propagation max memory?] }
  | positions => do
    let index ← enter Stage.positions (fun items s => { s with positions := items }) {}
    let tracker := PositionTracker.tracker (positionCell index) Stage.progress log
    return { tracker, parts := [.positions index] }
  | progress ownMain cache? fallback => do
    let main ← enterMainCache ownMain
    let replica ← enterPositionCache cache?
    let tracker := ProgressTracker.tracker fallback (mainCacheCell main)
      (shared (positionCacheCell replica)) Stage.progress log
    let main? := if ownMain then none else some main
    let replica? := if cache?.isSome then some replica else none
    return { tracker, parts := [.progress fallback main? replica?] }
  | cluster inner nodes? cache? => do
    let cast ← inner.build
    let cache ← enterNodeCache cache?
    let directory ← enterDirectory nodes?
    let discover := (shared (nodeCacheCell cache)).get (Consult.act (listNodes directory))
    let tracker := ClusterTracker.tracker nodeAccess discover cast.tracker log
    return { tracker, parts := .cluster directory cache :: cast.parts }
  | noted name inner => do
    let cast ← inner.build
    return { tracker := cast.tracker.noted name log, parts := .noted name :: cast.parts }
  | twice inner => do
    let cast ← inner.build
    return { tracker := cast.tracker.askedTwice, parts := .twice :: cast.parts }

end TrackerSpec

/-- A chief. A nested chain may have the standard chiefs before its own. -/
inductive ChiefSpec where
  | breaker
  | writes
  | consistency
  | chain (standard : Bool) (chiefs : List ChiefSpec)
  | scripted (script : ScriptedChief)

namespace ChiefSpec

open Stage

def standardChiefs (classifier : Classifier) (tracker : Tracker Stage) (wanted : Bool) :
    Chain Stage :=
  if wanted then Chain.standard classifier tracker breakerCell log else []

mutual

def build (classifier : Classifier) (tracker : Tracker Stage) :
    ChiefSpec → StateM Stage (Chief Stage)
  | breaker => return Chief.breaker breakerCell
  | writes => return Chief.writes classifier
  | consistency => return Chief.consistency tracker log
  | chain standard chiefs => do
    let own ← buildAll classifier tracker chiefs
    return Chain.decide (standardChiefs classifier tracker standard ++ own)
  | scripted script => do
    let index ← enter Stage.forcings (fun items s => { s with forcings := items }) 0
    return script.chief (forcingCell index)

def buildAll (classifier : Classifier) (tracker : Tracker Stage) :
    List ChiefSpec → StateM Stage (Chain Stage)
  | [] => return []
  | spec :: specs => do
    let chief ← spec.build classifier tracker
    return chief :: (← buildAll classifier tracker specs)

end

end ChiefSpec

end ReplicaRouting
