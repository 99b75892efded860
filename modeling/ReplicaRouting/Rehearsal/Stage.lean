import ReplicaRouting.Position
import ReplicaRouting.Rehearsal.Connection
import ReplicaRouting.Rehearsal.Doubles
import ReplicaRouting.Session.Database
import ReplicaRouting.Tracker.Cluster
import ReplicaRouting.Tracker.Lag
import ReplicaRouting.Tracker.Positions
import ReplicaRouting.Tracker.Progress
import ReplicaRouting.Tracker.Propagation

/-!
The stage of a rehearsal: the world in which trackers, chains and sessions are tried out, with all
of its parts under control.
-/

namespace ReplicaRouting

/-- Progress that is set in advance, or cannot be read; queries are counted. -/
structure ScriptedProgress where
  position? : Option Position := none
  queries : Nat := 0

/-- What is done to a connection of some name when it is first handed out. -/
structure Preparation where
  name : String
  failing : List String := []
  warnings : List Warning := []

/-- A provider that hands out new connections, or always the same one. -/
structure ScriptedProvider where
  replicaAvailable : Bool := true
  failsMain : Bool := false
  failsReplica : Bool := false
  shared? : Option ConnectionId := none
  mains : Array ConnectionId := #[]
  replicas : Array ConnectionId := #[]
  /-- What is still to be done to connections. -/
  preparations : List Preparation := []

/-- How a replica node behaves. -/
inductive NodeManner where
  | ok
  | refuses
  | failsToClose
deriving DecidableEq, Repr

/-- A replica node, and the directory that keeps account of the connections to it. -/
structure Node where
  name : String
  manner : NodeManner := .ok
  directory? : Option Nat := none

/-- A list of nodes that can be asked for, or cannot; it counts the times it is. -/
structure Directory where
  nodes? : Option (List Node) := none
  asked : Nat := 0
  opened : Array ConnectionId := #[]

instance : Inhabited Directory := ⟨{}⟩

/-- A memory of the last write, which may keep nothing. -/
structure WriteMemory where
  forgetful : Bool := false
  lastWrite : NewestCache Instant := {}

instance : Inhabited WriteMemory := ⟨{}⟩

/-- The supplier of a refresh: it comes up with a value, fails, or breaks off. -/
inductive Supplier where
  | value (value : Int)
  | fails (reason : String)
  | breaksOff
deriving DecidableEq, Repr

/-- A refreshing cache of the stage. -/
inductive CacheId where
  | numbers (index : Nat)
  | positions (index : Nat)
  | nodes (index : Nat)
deriving DecidableEq, Repr

/-- A refresh whose supplier has not come up with anything yet. -/
structure HeldRefresh where
  id : String
  cache : CacheId
  ticket : Nat
  supplier : Supplier

/-- All there is to a rehearsal. -/
structure Stage where
  clock : Instant := .epoch
  main : ScriptedProgress := {}
  replica : ScriptedProgress := {}
  connections : Array ScriptedConnection := #[]
  provider : ScriptedProvider := {}
  breaker : Breaker := {}
  switches : Array Switch := #[]
  rotations : Array Rotation := #[]
  lags : Array LagTracker := #[]
  writeMemories : Array WriteMemory := #[]
  positions : Array (PositionTracker Position) := #[]
  mainCaches : Array (NewestCache Position) := #[]
  numberCaches : Array (RefreshCache Int) := #[]
  positionCaches : Array (RefreshCache Position) := #[]
  nodeCaches : Array (RefreshCache (List Node)) := #[]
  directories : Array Directory := #[]
  forcings : Array Nat := #[]
  /-- The memories, caches of main and refreshing caches that can be reached from outside. -/
  openMemories : Array Nat := #[]
  openMainCaches : Array Nat := #[]
  openCaches : Array CacheId := #[]
  held : List HeldRefresh := []
  /-- How often replicas were asked for outside of sessions. -/
  supplied : Nat := 0
  transitions : Array (List (Phase × Phase)) := #[]
  notices : Array Notice := #[]

namespace Stage

def item {α : Type} [Inhabited α] (get : Stage → Array α) (set : Array α → Stage → Stage)
    (index : Nat) : Cell Stage α where
  get stage := (get stage)[index]?.getD default
  set value stage := set ((get stage).setIfInBounds index value) stage

instance : Inhabited LagTracker := ⟨.startingAt .epoch (.ofMillis 0)⟩

instance {α : Type} : Inhabited (RefreshCache α) := ⟨.passThrough⟩

instance {α : Type} : Inhabited (NewestCache α) := ⟨{}⟩

instance {α : Type} : Inhabited (PositionTracker α) := ⟨{}⟩

def breakerCell : Cell Stage Breaker := ⟨Stage.breaker, fun b stage => { stage with breaker := b }⟩

def switchCell : Nat → Cell Stage Switch :=
  item Stage.switches fun items stage => { stage with switches := items }

def rotationCell : Nat → Cell Stage Rotation :=
  item Stage.rotations fun items stage => { stage with rotations := items }

def lagCell : Nat → Cell Stage LagTracker :=
  item Stage.lags fun items stage => { stage with lags := items }

def memoryCell : Nat → Cell Stage WriteMemory :=
  item Stage.writeMemories fun items stage => { stage with writeMemories := items }

def positionCell : Nat → Cell Stage (PositionTracker Position) :=
  item Stage.positions fun items stage => { stage with positions := items }

def mainCacheCell : Nat → Cell Stage (NewestCache Position) :=
  item Stage.mainCaches fun items stage => { stage with mainCaches := items }

def numberCacheCell : Nat → Cell Stage (RefreshCache Int) :=
  item Stage.numberCaches fun items stage => { stage with numberCaches := items }

def positionCacheCell : Nat → Cell Stage (RefreshCache Position) :=
  item Stage.positionCaches fun items stage => { stage with positionCaches := items }

def nodeCacheCell : Nat → Cell Stage (RefreshCache (List Node)) :=
  item Stage.nodeCaches fun items stage => { stage with nodeCaches := items }

def directoryCell : Nat → Cell Stage Directory :=
  item Stage.directories fun items stage => { stage with directories := items }

def forcingCell : Nat → Cell Stage Nat :=
  item Stage.forcings fun items stage => { stage with forcings := items }

def connectionCell (id : ConnectionId) : Cell Stage ScriptedConnection :=
  item Stage.connections (fun items stage => { stage with connections := items }) id.index

def log : Log Stage := fun notice stage => { stage with notices := stage.notices.push notice }

def shared {α : Type} (cell : Cell Stage (RefreshCache α)) : SharedCache Stage α :=
  { cell, now := Stage.clock, log }

def writeTimes (index : Nat) : WriteTimes Stage where
  get? stage := ((memoryCell index).get stage).lastWrite.value?
  put time stage :=
    (memoryCell index).modify (fun memory =>
      if memory.forgetful then memory
      else { memory with lastWrite := memory.lastWrite.put time }) stage

def fetch (kind : HandleKind) (progress : ScriptedProgress) : Except Fault Position :=
  match progress.position? with
  | some position => .ok position
  | none => .error (.progressUnknown kind "scripted failure")

def progress : ProgressSource Stage Position where
  fetchMain _ stage :=
    (fetch .main stage.main,
      { stage with main := { stage.main with queries := stage.main.queries + 1 } })
  fetchReplica _ stage :=
    (fetch .replica stage.replica,
      { stage with replica := { stage.replica with queries := stage.replica.queries + 1 } })

def connect (connection : ScriptedConnection) : StateM Stage ConnectionId := fun stage =>
  (⟨stage.connections.size⟩, { stage with connections := stage.connections.push connection })

def connectionNamed (name : String) (kind : HandleKind) : StateM Stage ConnectionId := do
  match (← get).connections.findIdx? (·.name == name) with
  | some index => return ⟨index⟩
  | none => connect { name, kind }

/-- Every connection handed out by the provider, those to main first, each once. -/
def handedOut (stage : Stage) : List ConnectionId :=
  (stage.provider.mains ++ stage.provider.replicas).toList.eraseDups

def call (id : ConnectionId) (call : Call) : Fallible Stage Unit := fun stage =>
  let (outcome, connection) := ScriptedConnection.call call ((connectionCell id).get stage)
  (outcome, (connectionCell id).set connection stage)

/-- Do what is to be done to a connection that is handed out for the first time. -/
def prepare (id : ConnectionId) (stage : Stage) : Stage :=
  let name := ((connectionCell id).get stage).name
  let apply := fun (connection : ScriptedConnection) (preparation : Preparation) =>
    { connection with
      failing := preparation.failing ++ connection.failing
      warnings := connection.warnings ++ preparation.warnings }
  let due := stage.provider.preparations.filter (·.name == name)
  let later := stage.provider.preparations.filter (·.name != name)
  (connectionCell id).modify (due.foldl apply)
    { stage with provider := { stage.provider with preparations := later } }

/-- The connection that is handed out next for a kind. -/
def nextConnection (kind : HandleKind) (opened : Nat) : StateM Stage ConnectionId := do
  match (← get).provider.shared? with
  | some id => return id
  | none => connect { name := s!"{kind.name}-{opened + 1}", kind }

def openMain : Fallible Stage ConnectionId := do
  let provider := (← get).provider
  if provider.failsMain then throw (.creationFailed .main "connection refused")
  let id ← nextConnection .main provider.mains.size
  modify fun stage =>
    prepare id { stage with provider := { stage.provider with mains := provider.mains.push id } }
  return id

def openReplica : Fallible Stage ConnectionId := do
  let provider := (← get).provider
  if provider.failsReplica then throw (.creationFailed .replica "connection refused")
  let id ← nextConnection .replica provider.replicas.size
  modify fun stage =>
    prepare id
      { stage with provider := { stage.provider with replicas := provider.replicas.push id } }
  return id

def database : Database Stage where
  replicaAvailable := do return (← get).provider.replicaAvailable
  openMain
  openReplica
  call
  warnings id stage := (((connectionCell id).get stage).readWarnings, stage)

def nodeAccess : NodeAccess Stage Node where
  name := Node.name
  connect node := do
    if node.manner = .refuses then throw (.creationFailed .replica s!"{node.name} refused")
    let id ← connect
      { name := node.name, kind := .replica
        failing := if node.manner = .failsToClose then ["close"] else [] }
    match node.directory? with
    | some index =>
      modify ((directoryCell index).modify fun d => { d with opened := d.opened.push id })
    | none => pure ()
    return .replica id
  close handle := call handle.connection .close

def listNodes (index : Nat) : Fallible Stage (List Node) := do
  modify ((directoryCell index).modify fun d => { d with asked := d.asked + 1 })
  match ((directoryCell index).get (← get)).nodes? with
  | some nodes => return nodes
  | none => throw (.discoveryFailed "cluster directory unreachable")

/-- A replica outside of sessions: a new connection if it is up, or else a refusal. -/
def supplyReplica (up : Bool) : Fallible Stage Handle := do
  modify fun stage => { stage with supplied := stage.supplied + 1 }
  if up then return .replica (← connect { name := "replica", kind := .replica })
  else throw (.creationFailed .replica "down")

/-- Run a consultation outside of sessions. Every question opens a connection to a replica that is
up, or is refused. -/
def runWithReplicas {q α : Type} (consult : Consult Stage q Supply α) (up : q → Bool) :
    StateM Stage α := fun stage =>
  let reply := fun (question : q) (_ : Unit) (stage : Stage) =>
    let (supply, stage) := supplyReplica (up question) stage
    (supply, (), stage)
  let (answer, _, stage) := consult.run reply () stage
  (answer, stage)

end Stage

end ReplicaRouting
