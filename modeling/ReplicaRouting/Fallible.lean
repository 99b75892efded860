import ReplicaRouting.Fault

/-!
Actions on a world that may fail. What an action did to the world before it failed stays done.
-/

namespace ReplicaRouting

/-- An action on the world `σ` that yields a value or a fault. -/
abbrev Fallible (σ α : Type) : Type := ExceptT Fault (StateM σ) α

namespace Fallible

variable {σ α β : Type}

/-- A first fault ends a row of actions; the world is then as the failed action left it. -/
theorem bind_apply (action : Fallible σ α) (next : α → Fallible σ β) (world : σ) :
    (action >>= next) world =
      match action world with
      | (.ok value, world) => next value world
      | (.error fault, world) => (.error fault, world) := by
  change (match action world with
    | (result, world) => ExceptT.bindCont next result world) = _
  rcases action world with ⟨_ | _, _⟩ <;> rfl

@[simp]
theorem pure_apply (value : α) (world : σ) :
    (pure value : Fallible σ α) world = (.ok value, world) := rfl

@[simp]
theorem throw_apply (fault : Fault) (world : σ) :
    (throw fault : Fallible σ α) world = (.error fault, world) := rfl

@[simp]
theorem modify_apply (f : σ → σ) (world : σ) :
    (modify f : Fallible σ PUnit) world = (.ok (), f world) := rfl

theorem bind_of_ok {action : Fallible σ α} {world after : σ} {value : α}
    (h : action world = (.ok value, after)) (next : α → Fallible σ β) :
    (action >>= next) world = next value after := by
  rw [bind_apply, h]

theorem bind_of_error {action : Fallible σ α} {world after : σ} {fault : Fault}
    (h : action world = (.error fault, after)) (next : α → Fallible σ β) :
    (action >>= next) world = (.error fault, after) := by
  rw [bind_apply, h]

theorem bind_pure_world (action : Fallible σ α) (value : β) (world : σ) :
    ((action >>= fun _ => pure value) world).2 = (action world).2 := by
  rw [bind_apply]
  rcases action world with ⟨_ | _, _⟩ <;> rfl

theorem map_apply (f : α → β) (action : Fallible σ α) (world : σ) :
    (f <$> action) world = ((action world).1.map f, (action world).2) := by
  rw [map_eq_pure_bind, bind_apply]
  rcases action world with ⟨_ | _, _⟩ <;> rfl

end Fallible

/-- A part of the world `σ` that holds a value. -/
structure Cell (σ α : Type) where
  get : σ → α
  set : α → σ → σ

namespace Cell

/-- Change the value of the part. -/
def modify {σ α : Type} (cell : Cell σ α) (f : α → α) (world : σ) : σ :=
  cell.set (f (cell.get world)) world

end Cell

end ReplicaRouting
