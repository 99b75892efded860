import ReplicaRouting.Cache.Refresh

/-!
Reads of a refreshing cache that overlap. A refresh begins with one move and ends with a later one,
and anything may happen in between.
-/

namespace ReplicaRouting

/-- A refresh: its number, and when it began. -/
structure Flight where
  ticket : Nat
  start : Instant
deriving DecidableEq

namespace Flight

/-- The last point in time at which nobody may take over the refresh. -/
def deadline (flight : Flight) (timeout : Span) : Instant := flight.start.later timeout

def lease (flight : Flight) (timeout : Span) : Lease := ⟨flight.ticket, flight.deadline timeout⟩

end Flight

/-- A refresh that has ended, and how. -/
structure Landing (α : Type) where
  flight : Flight
  outcome : Except Fault α

/-- A cache, and the refreshes that it has seen: all in the order in which they began, and those
that have ended in the order in which they did. -/
structure Traffic (α : Type) where
  cache : RefreshCache α
  begun : List Flight := []
  underWay : List Flight := []
  landed : List (Landing α) := []

namespace Traffic

variable {α : Type}

/-- What may happen next. A refresh that ends, or is broken off, is named by its place among those
under way; nothing happens if there is none at that place. -/
inductive Move (α : Type) where
  | read (now : Instant)
  | finish (index : Nat) (outcome : Except Fault α)
  | breakOff (index : Nat)

def step (traffic : Traffic α) : Move α → Traffic α
  | .read now =>
    match traffic.cache.acquire now with
    | (.contended _, cache) => { traffic with cache }
    | (.refreshing ticket _, cache) =>
      { traffic with
        cache
        begun := traffic.begun ++ [⟨ticket, now⟩]
        underWay := traffic.underWay ++ [⟨ticket, now⟩] }
  | .finish index outcome =>
    match traffic.underWay[index]? with
    | none => traffic
    | some flight =>
      { traffic with
        cache := (traffic.cache.finish flight.ticket outcome).2
        underWay := traffic.underWay.eraseIdx index
        landed := traffic.landed ++ [⟨flight, outcome⟩] }
  | .breakOff index =>
    match traffic.underWay[index]? with
    | none => traffic
    | some _ =>
      { traffic with
        cache := traffic.cache.breakOff
        underWay := traffic.underWay.eraseIdx index }

def run (traffic : Traffic α) (moves : List (Move α)) : Traffic α := moves.foldl step traffic

/-- The latest refresh, unless it has ended. -/
def holder? (traffic : Traffic α) : Option Flight :=
  traffic.begun.getLast?.filter fun flight => flight ∉ traffic.landed.map (·.flight)

variable {traffic : Traffic α} {index : Nat} {flight : Flight} {outcome : Except Fault α}

theorem step_finish (h : traffic.underWay[index]? = some flight) :
    traffic.step (.finish index outcome) =
      { traffic with
        cache := (traffic.cache.finish flight.ticket outcome).2
        underWay := traffic.underWay.eraseIdx index
        landed := traffic.landed ++ [⟨flight, outcome⟩] } := by
  simp only [step, h]

theorem step_breakOff (h : traffic.underWay[index]? = some flight) :
    traffic.step (.breakOff index) =
      { traffic with
        cache := traffic.cache.breakOff
        underWay := traffic.underWay.eraseIdx index } := by
  simp only [step, h]

theorem step_finish_missing (h : traffic.underWay[index]? = none) (outcome : Except Fault α) :
    traffic.step (.finish index outcome) = traffic := by
  simp only [step, h]

theorem step_breakOff_missing (h : traffic.underWay[index]? = none) :
    traffic.step (.breakOff index) = traffic := by
  simp only [step, h]

end Traffic

end ReplicaRouting
