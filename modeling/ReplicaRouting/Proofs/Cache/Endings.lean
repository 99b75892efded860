import ReplicaRouting.Cache.TimedFlight

/-!
What a cache with leases makes of a refresh that ends: it takes the lease back, and keeps the value
that was brought or counts it.
-/

namespace ReplicaRouting

namespace TimedFlight

variable {α : Type} (cache : TimedFlight α)

/-- What is stored, and what has been dropped. -/
def contents : Option α × Nat × Nat × Nat :=
  (cache.value?, cache.storedTicket, cache.discarded, cache.stale)

/-- Whether to keep a fresh value is decided beside the leases. -/
theorem settle_leases (ticket : Nat) (fresh : α) :
    let settled := (cache.settle ticket fresh).2
    settled.lease? = cache.lease? ∧ settled.lastTicket = cache.lastTicket ∧
      settled.timeout = cache.timeout ∧ settled.newer? = cache.newer? := by
  unfold settle
  split
  · exact ⟨rfl, rfl, rfl, rfl⟩
  split <;> exact ⟨rfl, rfl, rfl, rfl⟩

theorem release_leases (ticket : Nat) :
    let released := cache.release ticket
    released.lease? = cache.lease?.filter (·.ticket ≠ ticket) ∧
      released.lastTicket = cache.lastTicket ∧ released.timeout = cache.timeout ∧
      released.newer? = cache.newer? := by
  unfold release
  cases hl : cache.lease? with
  | none => simp [hl]
  | some lease => by_cases ht : lease.ticket = ticket <;> simp [hl, ht, Option.filter_some]

/-- A refresh that ends gives back its lease, if it still has it. -/
theorem finish_leases (ticket : Nat) (outcome : Except Fault α) :
    let finished := (cache.finish ticket outcome).2
    finished.lease? = cache.lease?.filter (·.ticket ≠ ticket) ∧
      finished.lastTicket = cache.lastTicket ∧ finished.timeout = cache.timeout ∧
      finished.newer? = cache.newer? := by
  obtain ⟨hlease, hlast, htimeout, hnewer⟩ := cache.release_leases ticket
  cases outcome with
  | error fault => exact ⟨hlease, hlast, htimeout, hnewer⟩
  | ok fresh =>
    obtain ⟨hl, ht, hs, hn⟩ := settle_leases (cache.release ticket) ticket fresh
    exact ⟨hl.trans hlease, ht.trans hlast, hs.trans htimeout, hn.trans hnewer⟩

theorem release_eq (ticket : Nat) : ∃ lease?, cache.release ticket = { cache with lease? } := by
  unfold release
  split
  · exact ⟨none, rfl⟩
  · exact ⟨cache.lease?, rfl⟩

theorem contents_eq_iff {cache other : TimedFlight α} :
    other.contents = cache.contents ↔ other.value? = cache.value? ∧
      other.storedTicket = cache.storedTicket ∧ other.discarded = cache.discarded ∧
      other.stale = cache.stale := by
  simp [contents]

theorem finish_error_contents (ticket : Nat) (fault : Fault) :
    (cache.finish ticket (.error fault)).2.contents = cache.contents := by
  obtain ⟨lease?, hr⟩ := cache.release_eq ticket
  simp only [finish, hr]
  rfl

/-- What becomes of a refresh that ends well: its value is kept, or else it is counted by its
number. -/
inductive SettlesAs (ticket : Nat) (fresh : α) (settlement : Settlement) (later : TimedFlight α) :
    Prop where
  | kept (isKept : settlement = .kept) (keeps : cache.keeps ticket fresh = true)
      (value : later.value? = some fresh)
      (stored : later.storedTicket = max cache.storedTicket ticket)
      (discarded : later.discarded = cache.discarded) (stale : later.stale = cache.stale)
  | late (isLate : settlement = .late cache.storedTicket) (keeps : cache.keeps ticket fresh = false)
      (overtaken : ticket < cache.storedTicket) (value : later.value? = cache.value?)
      (stored : later.storedTicket = cache.storedTicket)
      (discarded : later.discarded = cache.discarded + 1) (stale : later.stale = cache.stale)
  | unmoved (isUnmoved : settlement = .unmoved) (keeps : cache.keeps ticket fresh = false)
      (latest : cache.storedTicket ≤ ticket) (value : later.value? = cache.value?)
      (stored : later.storedTicket = cache.storedTicket)
      (discarded : later.discarded = cache.discarded) (stale : later.stale = cache.stale + 1)

theorem finish_settlesAs (ticket : Nat) (fresh : α) :
    cache.SettlesAs ticket fresh (cache.finish ticket (.ok fresh)).1
      (cache.finish ticket (.ok fresh)).2 := by
  obtain ⟨lease?, hr⟩ := cache.release_eq ticket
  -- the lease is given back before, which makes no difference to what is kept
  have hkeeps : ({ cache with lease? } : TimedFlight α).keeps ticket fresh =
      cache.keeps ticket fresh := rfl
  simp only [finish, hr, settle, hkeeps]
  split
  · next hk => exact .kept rfl hk rfl rfl rfl rfl
  · next hk =>
    rw [Bool.not_eq_true] at hk
    split
    · next hlt => exact .late rfl hk hlt rfl rfl rfl rfl
    · next hge => exact .unmoved rfl hk (Nat.le_of_not_lt hge) rfl rfl rfl rfl

theorem finish_value (ticket : Nat) (fresh : α) :
    (cache.finish ticket (.ok fresh)).2.value? = cache.value? ∨
      (cache.finish ticket (.ok fresh)).2.value? = some fresh := by
  cases cache.finish_settlesAs ticket fresh with
  | kept _ _ value => exact .inr value
  | late _ _ _ value => exact .inl value
  | unmoved _ _ _ value => exact .inl value

/-- What is stored last is the refresh that ends, or what was stored before. -/
theorem finish_storedTicket (ticket : Nat) (outcome : Except Fault α) :
    (cache.finish ticket outcome).2.storedTicket ≤ max cache.storedTicket ticket := by
  cases outcome with
  | error fault =>
    obtain ⟨-, hstored, -⟩ := contents_eq_iff.mp (cache.finish_error_contents ticket fault)
    rw [hstored]
    exact Nat.le_max_left _ _
  | ok fresh =>
    cases cache.finish_settlesAs ticket fresh with
    | kept _ _ _ stored => exact Nat.le_of_eq stored
    | late _ _ _ _ stored => exact stored ▸ Nat.le_max_left _ _
    | unmoved _ _ _ _ stored => exact stored ▸ Nat.le_max_left _ _

end TimedFlight

end ReplicaRouting
