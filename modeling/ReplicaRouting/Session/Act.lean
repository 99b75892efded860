import ReplicaRouting.Chain
import ReplicaRouting.Session.Basic

/-!
A session among its collaborators, and the small actions that all of its operations are made of.
-/

namespace ReplicaRouting

/-- Everything a session works with. -/
structure Collaborators (σ : Type) where
  database : Database σ
  tracker : Tracker σ
  chain : Chain σ
  /-- Told of every change of phase. -/
  listener : Phase → Phase → σ → σ
  log : Log σ

/-- A session and the world around it. -/
structure Scene (σ : Type) where
  session : Session
  world : σ

/-- An action of a session, which may change the session and the world, and may fail. -/
abbrev Act (σ α : Type) : Type := Fallible (Scene σ) α

namespace Act

variable {σ α : Type}

def session : Act σ Session := fun scene => (.ok scene.session, scene)

/-- Change the session. -/
def update (f : Session → Session) : Act σ Unit := fun scene =>
  (.ok (), { scene with session := f scene.session })

/-- Change the world. -/
def affect (f : σ → σ) : Act σ Unit := fun scene =>
  (.ok (), { scene with world := f scene.world })

/-- Have a collaborator do something. -/
def request (action : Fallible σ α) : Act σ α := fun scene =>
  let (result, world) := action scene.world
  (result, { scene with world })

/-- Have a collaborator do something, and get to know whether that failed. -/
def attempt (action : Fallible σ α) : Act σ (Except Fault α) := fun scene =>
  let (result, world) := action scene.world
  (.ok result, { scene with world })

/-- Have a collaborator do something that cannot fail. -/
def consult (action : StateM σ α) : Act σ α := fun scene =>
  let (answer, world) := action scene.world
  (.ok answer, { scene with world })

/-- Do something, and get to know whether it failed. -/
def outcomeOf (act : Act σ α) : Act σ (Except Fault α) := fun scene =>
  let (result, scene) := act scene
  (.ok result, scene)

/-- Fail or not, as is already known. -/
def ofOutcome (result : Except Fault α) : Act σ α := fun scene => (result, scene)

variable {β : Type} (scene : Scene σ)

@[simp]
theorem session_bind (next : Session → Act σ β) :
    (session >>= next) scene = next scene.session scene := rfl

@[simp]
theorem update_apply (f : Session → Session) :
    update f scene = (.ok (), { scene with session := f scene.session }) := rfl

@[simp]
theorem update_bind (f : Session → Session) (next : Unit → Act σ β) :
    (update f >>= next) scene = next () { scene with session := f scene.session } := rfl

@[simp]
theorem affect_apply (f : σ → σ) :
    affect f scene = (.ok (), { scene with world := f scene.world }) := rfl

@[simp]
theorem affect_bind (f : σ → σ) (next : Unit → Act σ β) :
    (affect f >>= next) scene = next () { scene with world := f scene.world } := rfl

@[simp]
theorem request_apply (action : Fallible σ α) :
    request action scene =
      ((action scene.world).1, { scene with world := (action scene.world).2 }) := rfl

@[simp]
theorem attempt_bind (action : Fallible σ α) (next : Except Fault α → Act σ β) :
    (attempt action >>= next) scene =
      next (action scene.world).1 { scene with world := (action scene.world).2 } := rfl

@[simp]
theorem consult_bind (action : StateM σ α) (next : α → Act σ β) :
    (consult action >>= next) scene =
      next (action scene.world).1 { scene with world := (action scene.world).2 } := rfl

@[simp]
theorem outcomeOf_bind (act : Act σ α) (next : Except Fault α → Act σ β) :
    (outcomeOf act >>= next) scene = next (act scene).1 (act scene).2 := rfl

@[simp]
theorem ofOutcome_apply (result : Except Fault α) : ofOutcome result scene = (result, scene) := rfl

theorem request_bind (action : Fallible σ α) (next : α → Act σ β) :
    (request action >>= next) scene =
      match action scene.world with
      | (.ok value, world) => next value { scene with world }
      | (.error fault, world) => (.error fault, { scene with world }) := by
  rw [Fallible.bind_apply, request_apply]
  rcases action scene.world with ⟨_ | _, _⟩ <;> rfl

end Act

end ReplicaRouting
