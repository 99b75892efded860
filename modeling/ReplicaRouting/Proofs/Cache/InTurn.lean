import ReplicaRouting.Proofs.Cache.GrowingValues

/-!
Caches with one reader at a time. Every read refreshes, and its reader gets what the refresh has
brought. Only where values are known to grow, an earlier value that is not smaller is given instead.
-/

namespace ReplicaRouting

/-- The kinds of cache that refresh on read. -/
inductive CacheKind where
  | passThrough
  | single
  | timed (timeout : Span) (grows : Bool)

namespace CacheKind

/-- Whether the values are known to grow. -/
def grows : CacheKind → Bool
  | timed _ grows => grows
  | passThrough | single => false

/-- Whether a fresh value is beyond the stored one, in a cache for values that grow. -/
def newer? {α : Type} [Ord α] (grows : Bool) : Option (α → α → Bool) :=
  if grows then some fun fresh current => compare fresh current == .gt else none

/-- A cache of the kind that nothing was read from. -/
def empty {α : Type} [Ord α] : CacheKind → RefreshCache α
  | passThrough => .passThrough
  | single => .single {}
  | timed timeout grows => .timed { timeout, newer? := newer? grows }

end CacheKind

namespace RefreshCache

variable {α : Type} [Ord α] {grows : Bool} {cache : RefreshCache α}

/-- No refresh is under way. -/
inductive AtRest (grows : Bool) : RefreshCache α → Prop where
  | passThrough : AtRest grows .passThrough
  | single {cache : SingleFlight α} (free : cache.busy = false) : AtRest grows (.single cache)
  | timed {cache : TimedFlight α} (free : cache.lease? = none)
      (stored : cache.storedTicket ≤ cache.lastTicket)
      (order : cache.newer? = CacheKind.newer? grows) :
    AtRest grows (.timed cache)

/-- One refresh is under way, the latest one. -/
inductive Refreshing (grows : Bool) (ticket : Nat) : RefreshCache α → Prop where
  | passThrough : Refreshing grows ticket .passThrough
  | single {cache : SingleFlight α} : Refreshing grows ticket (.single cache)
  | timed {cache : TimedFlight α} {lease : Lease} (held : cache.lease? = some lease)
      (mine : lease.ticket = ticket) (latest : cache.lastTicket = ticket)
      (fresh : cache.storedTicket < ticket) (order : cache.newer? = CacheKind.newer? grows) :
    Refreshing grows ticket (.timed cache)

/-- What a reader gets for a fresh value: the value itself, or one that was stored and is not
smaller, where values are known to grow. -/
inductive Gives (grows : Bool) (stored : Option α) (fresh : α) : α → Prop where
  | fresh : Gives grows stored fresh fresh
  | stored {current : α} (grown : grows = true) (held : stored = some current)
      (behind : (compare current fresh).isGE = true) : Gives grows stored fresh current

theorem atRest_empty (kind : CacheKind) : AtRest kind.grows (kind.empty : RefreshCache α) := by
  cases kind with
  | passThrough => exact .passThrough
  | single => exact .single rfl
  | timed timeout grows => exact .timed rfl (Nat.le_refl _) rfl

/-- A reader that is alone is never turned away. -/
theorem AtRest.acquire (h : AtRest grows cache) (now : Instant) :
    ∃ ticket begun, cache.acquire now = (.refreshing ticket none, begun) ∧
      Refreshing grows ticket begun ∧ begun.last = cache.last := by
  cases h with
  | passThrough => exact ⟨0, .passThrough, rfl, .passThrough, rfl⟩
  | @single cache free =>
    refine ⟨0, .single { cache with busy := true }, ?_, .single, rfl⟩
    simp [RefreshCache.acquire, SingleFlight.acquire, free]
  | @timed cache free stored order =>
    let begun : TimedFlight α := { cache with
      lastTicket := cache.lastTicket + 1
      lease? := some ⟨cache.lastTicket + 1, now.later cache.timeout⟩ }
    have hrefreshing : Refreshing grows (cache.lastTicket + 1) (.timed begun) :=
      .timed rfl rfl rfl (Nat.lt_succ_of_le stored) order
    refine ⟨cache.lastTicket + 1, .timed begun, ?_, hrefreshing, rfl⟩
    simp only [RefreshCache.acquire, TimedFlight.acquire, free, begun]

namespace Refreshing

variable {ticket : Nat}

theorem atRest (h : Refreshing grows ticket cache) (outcome : Except Fault α) :
    AtRest grows (cache.finish ticket outcome).2 := by
  cases h with
  | passThrough => exact .passThrough
  | single => cases outcome <;> exact .single rfl
  | @timed cache lease held mine latest fresh order =>
    obtain ⟨hlease, hlast, -, hnewer⟩ := cache.finish_leases ticket outcome
    have hfree : (cache.finish ticket outcome).2.lease? = none := by
      rw [hlease, held]
      simp [Option.filter_some, mine]
    have hstored : (cache.finish ticket outcome).2.storedTicket ≤
        (cache.finish ticket outcome).2.lastTicket := by
      have hbound := cache.finish_storedTicket ticket outcome
      omega
    exact .timed hfree hstored (hnewer.trans order)

/-- A refresh that fails leaves what was stored. -/
theorem failed (h : Refreshing grows ticket cache) (fault : Fault) :
    let ended := cache.finish ticket (.error fault)
    ended.1.answer = .error fault ∧ AtRest grows ended.2 ∧ ended.2.last = cache.last := by
  refine ⟨by cases h <;> rfl, h.atRest (.error fault), ?_⟩
  rcases cache.finish_last ticket (.error fault) with hlast | ⟨_, hf, -⟩
  · exact hlast
  · cases hf

variable [Std.TransOrd α]

/-- The reader gets the value that it has brought, unless an earlier one counts instead. -/
theorem brought (h : Refreshing grows ticket cache) (fresh : α) :
    let ended := cache.finish ticket (.ok fresh)
    ∃ value, ended.1.answer = .ok (some value) ∧ AtRest grows ended.2 ∧
      Gives grows cache.last fresh value ∧
      (ended.2.last = cache.last ∨ ended.2.last = some fresh) := by
  have hrest := h.atRest (.ok fresh)
  have hlast : (cache.finish ticket (.ok fresh)).2.last = cache.last ∨
      (cache.finish ticket (.ok fresh)).2.last = some fresh := by
    rcases cache.finish_last ticket (.ok fresh) with hsame | ⟨_, hf, hnew⟩
    · exact .inl hsame
    · cases hf
      exact .inr hnew
  cases h with
  | passThrough | single => exact ⟨fresh, rfl, hrest, .fresh, hlast⟩
  | @timed cache lease held mine latest hfresh order =>
    cases grows with
    | true =>
      -- the greater one of two values is given, and it is stored
      cases cache.finish_settles order ticket fresh with
      | stored beyond value => exact ⟨fresh, congrArg Except.ok value, hrest, .fresh, hlast⟩
      | @dropped current kept behind value =>
        exact ⟨current, congrArg Except.ok value, hrest, .stored rfl kept behind, hlast⟩
    | false =>
      -- no other refresh has been under way meanwhile, so none that is later has ended
      have hnew : (cache.finish ticket (.ok fresh)).2.value? = some fresh :=
        ((TimedFlight.finish_contents order ticket fresh).1 hfresh).1
      exact ⟨fresh, congrArg Except.ok hnew, hrest, .fresh, hlast⟩

end Refreshing

end RefreshCache

end ReplicaRouting
