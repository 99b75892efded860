import ReplicaRouting.Proofs.Cache.LatestRefresh
import ReplicaRouting.Proofs.Cache.Newest

/-!
What a cache with leases stores where values are known to grow: a greatest of those that refreshes
have brought, whatever the order in which they end. Every value is stored or counted.
-/

namespace ReplicaRouting

/-- Whether a stored value has been replaced by a greater one, or there was none. -/
def grown {α : Type} [Ord α] : Option α → Option α → Bool
  | some before, some after => compare after before == .gt
  | none, some _ => true
  | _, none => false

theorem grown_self {α : Type} [Ord α] [Std.TransOrd α] (stored : Option α) :
    grown stored stored = false := by
  cases stored with
  | none => rfl
  | some value =>
    rw [grown, Std.compare_self]
    rfl

namespace TimedFlight

variable {α : Type} [Ord α]

/-- A cache with leases for values that are known to grow, still empty. -/
def growing (timeout : Span) : TimedFlight α where
  timeout
  newer? := some fun fresh current => compare fresh current == .gt

/-- What becomes of a fresh value: it is stored if it is beyond the stored one, and otherwise
counted once, by either counter. -/
inductive Settles (cache : TimedFlight α) (fresh : α) (later : TimedFlight α) : Prop where
  | stored (beyond : ∀ current ∈ cache.value?, compare fresh current = .gt)
      (value : later.value? = some fresh) (discarded : later.discarded = cache.discarded)
      (stale : later.stale = cache.stale)
  | dropped {current : α} (held : cache.value? = some current)
      (behind : (compare current fresh).isGE = true) (value : later.value? = some current)
      (counted : later.discarded = cache.discarded + 1 ∧ later.stale = cache.stale ∨
        later.discarded = cache.discarded ∧ later.stale = cache.stale + 1)

variable {cache later : TimedFlight α} {fresh : α}

theorem Settles.keepsGreater (h : Settles cache fresh later) :
    KeepsGreater fresh cache.value? later.value? := by
  cases h with
  | stored beyond value =>
    rw [value]
    exact .taken beyond
  | dropped held behind value =>
    rw [held, value]
    exact .left behind

variable [Std.TransOrd α]

theorem finish_settles (hn : cache.newer? = some fun fresh current => compare fresh current == .gt)
    (ticket : Nat) (fresh : α) : Settles cache fresh (cache.finish ticket (.ok fresh)).2 := by
  have hkeeps : cache.keeps ticket fresh = true ↔
      ∀ current ∈ cache.value?, compare fresh current = .gt := by
    unfold keeps
    rw [hn]
    cases cache.value? <;> simp
  -- the value alone decides that it is dropped, its number only by which counter
  have hdropped (hk : cache.keeps ticket fresh = false) :
      ∃ current, cache.value? = some current ∧ (compare current fresh).isGE = true := by
    have hnot := (not_congr hkeeps).mp (Bool.eq_false_iff.mp hk)
    obtain ⟨current, hcurrent⟩ := not_forall.mp hnot
    obtain ⟨hv, hngt⟩ := Classical.not_imp.mp hcurrent
    exact ⟨current, hv, Std.OrientedCmp.isGE_of_isLE (Ordering.isLE_iff_ne_gt.mpr hngt)⟩
  cases cache.finish_settlesAs ticket fresh with
  | kept _ keeps value _ discarded stale =>
    exact .stored (hkeeps.mp keeps) value discarded stale
  | late _ keeps _ value _ discarded stale =>
    obtain ⟨current, hv, hbehind⟩ := hdropped keeps
    exact .dropped hv hbehind (value.trans hv) (.inl ⟨discarded, stale⟩)
  | unmoved _ keeps _ value _ discarded stale =>
    obtain ⟨current, hv, hbehind⟩ := hdropped keeps
    exact .dropped hv hbehind (value.trans hv) (.inr ⟨discarded, stale⟩)

/-- A value is stored as a greater one, or counted once. -/
theorem Settles.counted (h : Settles cache fresh later) :
    grown cache.value? later.value? = true ∧ later.discarded = cache.discarded ∧
        later.stale = cache.stale ∨
      grown cache.value? later.value? = false ∧ later.value? = cache.value? ∧
        (later.discarded = cache.discarded + 1 ∧ later.stale = cache.stale ∨
          later.discarded = cache.discarded ∧ later.stale = cache.stale + 1) := by
  cases h with
  | stored beyond value discarded stale =>
    refine .inl ⟨?_, discarded, stale⟩
    rw [value]
    cases hv : cache.value? with
    | none => rfl
    | some current =>
      rw [grown, beyond current hv]
      rfl
  | @dropped current held behind value counted =>
    refine .inr ⟨?_, value.trans held.symm, counted⟩
    rw [held, value, grown_self]

end TimedFlight

namespace Traffic

variable {α : Type}

/-- The values that refreshes have brought, in the order in which they ended. -/
def values (traffic : Traffic α) : List α :=
  traffic.landed.filterMap fun landing => landing.outcome.toOption

/-- One more refresh has ended. -/
theorem values_of_landed {traffic later : Traffic α} {landing : Landing α}
    (h : later.landed = traffic.landed ++ [landing]) :
    later.values = traffic.values ++ landing.outcome.toOption.toList := by
  rw [values, h, List.filterMap_append, List.filterMap_cons, List.filterMap_nil]
  cases landing.outcome <;> rfl

variable [Ord α]

/-- How many of the moves put a greater value in the place of the stored one. -/
def stores (traffic : Traffic α) : List (Move α) → Nat
  | [] => 0
  | move :: moves =>
    (grown traffic.cache.last (traffic.step move).cache.last).toNat +
      (traffic.step move).stores moves

variable [Std.TransOrd α] {timeout : Span} {traffic : Traffic α} {cache later : TimedFlight α}
  {move : Move α}

/-- The leases are in order, and what is stored is a greatest of the values. -/
structure KeepsGreatest (timeout : Span) (traffic : Traffic α) (cache : TimedFlight α) : Prop where
  ordered : Timed timeout (TimedFlight.growing timeout : TimedFlight α).newer? traffic cache
  greatest : Greatest traffic.values traffic.cache.last

/-- What a move does where values are known to grow: a refresh brings a value that is stored or
counted, or else nothing changes. -/
inductive Grows (traffic : Traffic α) (cache : TimedFlight α) (move : Move α)
    (later : TimedFlight α) : Prop where
  | idle (contents : later.contents = cache.contents)
      (values : (traffic.step move).values = traffic.values)
  | brought (fresh : α) (settles : TimedFlight.Settles cache fresh later)
      (values : (traffic.step move).values = traffic.values ++ [fresh])

theorem Timed.grows
    (h : Timed timeout (TimedFlight.growing timeout : TimedFlight α).newer? traffic cache)
    (ha : Advances traffic cache move later) : Grows traffic cache move later := by
  cases ha with
  | idle contents landed => exact .idle contents (by rw [values, landed, values])
  | @ended index flight outcome underWay landed =>
    cases outcome with
    | error fault =>
      exact .idle (cache.finish_error_contents flight.ticket fault)
        ((values_of_landed landed).trans (List.append_nil _))
    | ok fresh =>
      exact .brought fresh (TimedFlight.finish_settles h.newer_eq flight.ticket fresh)
        (values_of_landed landed)

namespace KeepsGreatest

variable (h : KeepsGreatest timeout traffic cache)
include h

/-- Every move keeps a greatest value in store, and no value is neither stored nor counted. -/
theorem step (move : Move α) :
    ∃ later, KeepsGreatest timeout (traffic.step move) later ∧
      (∀ value, traffic.cache.last = some value → ∃ stored,
        (traffic.step move).cache.last = some stored ∧ (compare stored value).isGE = true) ∧
      (grown traffic.cache.last (traffic.step move).cache.last).toNat +
          (later.discarded + later.stale) + traffic.values.length =
        (cache.discarded + cache.stale) + (traffic.step move).values.length := by
  obtain ⟨later, hordered, hadvances⟩ := h.ordered.stepped move
  have hlast : traffic.cache.last = cache.value? := by
    rw [h.ordered.cache_eq]
    rfl
  have hlater : (traffic.step move).cache.last = later.value? := by
    rw [hordered.cache_eq]
    rfl
  have hgreatest := h.greatest
  rw [hlast] at hgreatest ⊢
  rw [hlater]
  cases h.ordered.grows hadvances with
  | idle contents values =>
    obtain ⟨hvalue, -, hdiscarded, hstale⟩ := TimedFlight.contents_eq_iff.mp contents
    -- neither the values nor what is stored has changed
    rw [← values, ← hvalue, ← hlater] at hgreatest
    refine ⟨later, ⟨hordered, hgreatest⟩, fun value hv => ⟨value, hvalue.trans hv, ?_⟩, ?_⟩
    · exact isGE_self value
    · rw [values, hvalue, hdiscarded, hstale, grown_self, Bool.toNat_false, Nat.zero_add]
  | brought fresh settles values =>
    have hlatest := settles.keepsGreater.greatest hgreatest
    rw [← values, ← hlater] at hlatest
    obtain ⟨stored, hstored, -, hge⟩ := settles.keepsGreater.isGE
    refine ⟨later, ⟨hordered, hlatest⟩, fun value hv => ⟨stored, hstored, hge value hv⟩, ?_⟩
    rw [values, List.length_append, List.length_singleton]
    rcases settles.counted with ⟨hgrown, hcounted⟩ | ⟨hgrown, -, hcounted⟩
    · rw [hgrown, Bool.toNat_true]
      omega
    · rw [hgrown, Bool.toNat_false]
      omega

theorem run (moves : List (Move α)) :
    ∃ later, KeepsGreatest timeout (traffic.run moves) later ∧
      (∀ value, traffic.cache.last = some value → ∃ stored,
        (traffic.run moves).cache.last = some stored ∧ (compare stored value).isGE = true) ∧
      traffic.stores moves + (later.discarded + later.stale) + traffic.values.length =
        (cache.discarded + cache.stale) + (traffic.run moves).values.length := by
  induction moves generalizing traffic cache with
  | nil =>
    refine ⟨cache, h, fun value hv => ⟨value, hv, isGE_self value⟩, ?_⟩
    rw [stores, Nat.zero_add]
    rfl
  | cons move moves ih =>
    obtain ⟨between, hbetween, hfirst, hcount⟩ := h.step move
    obtain ⟨later, hlater, hrest, hcounts⟩ := ih hbetween
    refine ⟨later, hlater, fun value hv => ?_, ?_⟩
    · obtain ⟨stored, hs, hge⟩ := hfirst value hv
      obtain ⟨last, hl, hge'⟩ := hrest stored hs
      exact ⟨last, hl, Std.TransOrd.isGE_trans hge' hge⟩
    · have hrun : traffic.run (move :: moves) = (traffic.step move).run moves := rfl
      rw [stores, hrun]
      omega

/-- What becomes of a refresh that ends well. -/
theorem finished {index : Nat} {flight : Flight} (hf : traffic.underWay[index]? = some flight)
    (fresh : α) :
    let later := traffic.step (.finish index (.ok fresh))
    (∃ stored, (traffic.cache.finish flight.ticket (.ok fresh)).1.answer = .ok (some stored) ∧
      later.cache.last = some stored ∧ (compare stored fresh).isGE = true) ∧
    ∃ discarded stale, traffic.cache.dropped? = some (discarded, stale) ∧
      (grown traffic.cache.last later.cache.last = true ∧
          later.cache.dropped? = some (discarded, stale) ∨
        later.cache.last = traffic.cache.last ∧
          (later.cache.dropped? = some (discarded + 1, stale) ∨
            later.cache.dropped? = some (discarded, stale + 1))) := by
  intro later
  have hlater : later.cache = .timed (cache.finish flight.ticket (.ok fresh)).2 :=
    (h.ordered.finished hf (.ok fresh)).cache_eq
  have hsettles := TimedFlight.finish_settles h.ordered.newer_eq flight.ticket fresh
  rw [hlater, h.ordered.cache_eq]
  simp only [RefreshCache.dropped?, Option.some.injEq, Prod.mk.injEq]
  constructor
  · obtain ⟨stored, hstored, hge, -⟩ := hsettles.keepsGreater.isGE
    exact ⟨stored, congrArg Except.ok hstored, hstored, hge⟩
  · refine ⟨cache.discarded, cache.stale, ⟨rfl, rfl⟩, ?_⟩
    rcases hsettles.counted with ⟨hgrown, hcounted⟩ | ⟨-, hsame, hcounted⟩
    · exact .inl ⟨hgrown, hcounted⟩
    · exact .inr ⟨hsame, hcounted⟩

end KeepsGreatest

/-- Where values are known to grow, a greatest of all that refreshes have brought is stored in every
course of reads and refreshes under any clock, so that what is stored never decreases. A refresh
that ends well yields a value that is not smaller than its own. It puts a greater value in the place
of the stored one or is counted, as discarded or as stale and not as both, so that as many values
are stored and counted as are brought. -/
theorem greatest_value_stored (timeout : Span) (moves : List (Move α)) :
    let start : Traffic α := { cache := .timed (.growing timeout) }
    let traffic := start.run moves
    Greatest traffic.values traffic.cache.last ∧
    (∀ more value, traffic.cache.last = some value → ∃ stored,
      (traffic.run more).cache.last = some stored ∧ (compare stored value).isGE = true) ∧
    (∀ index flight fresh, traffic.underWay[index]? = some flight →
      let later := traffic.step (.finish index (.ok fresh))
      (∃ stored, (traffic.cache.finish flight.ticket (.ok fresh)).1.answer = .ok (some stored) ∧
        later.cache.last = some stored ∧ (compare stored fresh).isGE = true) ∧
      ∃ discarded stale, traffic.cache.dropped? = some (discarded, stale) ∧
        (grown traffic.cache.last later.cache.last = true ∧
            later.cache.dropped? = some (discarded, stale) ∨
          later.cache.last = traffic.cache.last ∧
            (later.cache.dropped? = some (discarded + 1, stale) ∨
              later.cache.dropped? = some (discarded, stale + 1)))) ∧
    ∃ discarded stale, traffic.cache.dropped? = some (discarded, stale) ∧
      start.stores moves + discarded + stale = traffic.values.length := by
  intro start traffic
  have hstart : KeepsGreatest timeout start (.growing timeout) := ⟨timed_start timeout _, rfl⟩
  obtain ⟨cache, h, -, hcount⟩ := hstart.run moves
  change KeepsGreatest timeout traffic cache at h
  refine ⟨h.greatest, fun more => ?_, fun index flight fresh hf => h.finished hf fresh, ?_⟩
  · obtain ⟨-, -, hmore, -⟩ := h.run more
    exact hmore
  · refine ⟨cache.discarded, cache.stale, ?_, ?_⟩
    · rw [h.ordered.cache_eq]
      rfl
    · have hnone : start.values.length = 0 := rfl
      have hzero : (TimedFlight.growing timeout : TimedFlight α).discarded +
          (TimedFlight.growing timeout : TimedFlight α).stale = 0 := rfl
      change _ = _ + traffic.values.length at hcount
      omega

/-- A refresh is overtaken by a second one, which brings less, and its own value is stored in the
end. A third one brings less again and is counted. -/
theorem late_greater_value_stored :
    let timeout : Span := ⟨1_000_000_000, by decide⟩
    let later : Instant := ⟨2_000_000_000, by decide, by decide⟩
    let moves : List (Move Nat) :=
      [.read .epoch, .read later, .finish 1 (.ok 10), .finish 0 (.ok 20), .read later,
        .finish 0 (.ok 15)]
    let start : Traffic Nat := { cache := .timed (.growing timeout) }
    (start.run moves).cache.last = some 20 ∧ (start.run moves).values = [10, 20, 15] ∧
      start.stores moves = 2 ∧
      ∃ discarded stale, (start.run moves).cache.dropped? = some (discarded, stale) ∧
        discarded + stale = 1 := by
  intro timeout later moves start
  have hlast : (start.run moves).cache.last = some 20 := by decide +kernel
  have hvalues : (start.run moves).values = [10, 20, 15] := by decide +kernel
  have hstores : start.stores moves = 2 := by decide +kernel
  obtain ⟨-, -, -, discarded, stale, hdropped, hcount⟩ := greatest_value_stored timeout moves
  refine ⟨hlast, hvalues, hstores, discarded, stale, hdropped, ?_⟩
  have hthree : (start.run moves).values.length = 3 := by rw [hvalues]; rfl
  change start.stores moves + discarded + stale = (start.run moves).values.length at hcount
  omega

end Traffic

end ReplicaRouting
