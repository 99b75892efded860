/-!
Caches that keep the greatest value they were given. A put looks at what is there before it stores
anything, and between the look and the store others may put in their values.
-/

namespace ReplicaRouting

/-- The greatest value put in since the last reset, the earliest one where several are equal in
the order. -/
structure NewestCache (α : Type) where
  value? : Option α := none
deriving DecidableEq

namespace NewestCache

variable {α : Type}

section Put

variable [Ord α] (cache : NewestCache α) (candidate : α)

/-- Whether a candidate is greater than the value there. -/
def advances : Bool :=
  match cache.value? with
  | some current => compare candidate current == .gt
  | none => true

/-- The second half of a put. The cache may have gone on since the look, so it looks again. -/
def store : NewestCache α :=
  if cache.advances candidate then { value? := some candidate } else cache

/-- Put in a value. It is kept if it is greater than the one there, and nothing is stored for any
other. -/
def put : NewestCache α :=
  if cache.advances candidate then cache.store candidate else cache

end Put

def reset (_ : NewestCache α) : NewestCache α := {}

end NewestCache

end ReplicaRouting
