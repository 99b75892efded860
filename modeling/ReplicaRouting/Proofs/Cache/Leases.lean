import Mathlib.Data.List.Nodup
import ReplicaRouting.Proofs.Cache.Endings
import ReplicaRouting.Proofs.Cache.Traffic
import ReplicaRouting.Proofs.Consult

/-!
Leases of refreshes. At any time at most one is held, by the latest refresh; a refresh that takes
too long loses it to the next one and cannot take it back.
-/

namespace ReplicaRouting

namespace RefreshCache

variable {α : Type}

/-- The lease that is held, in a cache that gives leases. -/
def lease? : RefreshCache α → Option Lease
  | timed cache => cache.lease?
  | _ => none

/-- Until the lease expires a reader gets what is stored. -/
theorem acquire_within {cache : RefreshCache α} {lease : Lease} {now : Instant}
    (hl : cache.lease? = some lease) (hw : now ≤ lease.deadline) :
    cache.acquire now = (.contended cache.last, cache) := by
  cases cache with
  | passThrough | single _ => cases hl
  | timed cache =>
    have hheld : cache.lease? = some lease := hl
    have hle : now.nanos ≤ lease.deadline.nanos := hw
    have hwithin : lease.expired now = false := decide_eq_false (Int.not_lt.mpr hle)
    simp [acquire, TimedFlight.acquire, hheld, hwithin, last]

end RefreshCache

namespace SharedCache

variable {σ q r α : Type} {cache : SharedCache σ α} {world : σ}

/-- A reader who does not begin a refresh gets the last value, and nothing is asked of those who
supply it. -/
theorem get_of_contended {last : Option α} {next : RefreshCache α}
    (h : (cache.cell.get world).acquire (cache.now world) = (.contended last, next))
    (supplier : Consult σ q r (Except Fault α)) :
    cache.get supplier world = .answered (.ok last) (cache.cell.set next world) := by
  have hacquire : cache.acquire world = (.contended last, cache.cell.set next world) := by
    simp only [acquire, h]
  have hanswered : (Consult.act cache.acquire : Consult σ q r _) world =
      .answered (.contended last) (cache.cell.set next world) := by
    rw [Consult.act, hacquire]
  exact Consult.bind_of_answered hanswered _

/-- That is so until the lease expires. -/
theorem get_within {lease : Lease} (hl : (cache.cell.get world).lease? = some lease)
    (hw : cache.now world ≤ lease.deadline) (supplier : Consult σ q r (Except Fault α)) :
    cache.get supplier world =
      .answered (.ok (cache.cell.get world).last)
        (cache.cell.set (cache.cell.get world) world) :=
  get_of_contended (RefreshCache.acquire_within hl hw) supplier

end SharedCache

namespace Traffic

variable {α : Type}

theorem holder_begun {traffic : Traffic α} {flight : Flight}
    (h : traffic.holder? = some flight) : flight ∈ traffic.begun := by
  obtain ⟨hlast, -⟩ := Option.filter_eq_some_iff.mp h
  exact List.mem_of_getLast? hlast

/-- A refresh that ends holds the lease no longer, and no other one begins to hold it. -/
theorem holder_finish {traffic : Traffic α} {index : Nat} {flight : Flight}
    (hf : traffic.underWay[index]? = some flight) (outcome : Except Fault α) :
    (traffic.step (.finish index outcome)).holder? = traffic.holder?.filter (· ≠ flight) := by
  rw [step_finish hf]
  unfold holder?
  rw [Option.filter_filter]
  congr 1
  funext latest
  simp [Bool.and_comm, not_or]

/-- Refreshes of a cache with leases are numbered as they begin and end at most once. The latest
holds the lease until it ends, and has begun after the deadline of the one before if that was still
under way. -/
structure Timed (timeout : Span) (newer? : Option (α → α → Bool)) (traffic : Traffic α)
    (cache : TimedFlight α) : Prop where
  cache_eq : traffic.cache = .timed cache
  timeout_eq : cache.timeout = timeout
  newer_eq : cache.newer? = newer?
  numbered : traffic.begun.map (·.ticket) = List.range' 1 cache.lastTicket
  underWay : traffic.underWay.Sublist traffic.begun
  landed : ∀ landing ∈ traffic.landed,
    landing.flight ∈ traffic.begun ∧ landing.flight ∉ traffic.underWay
  landedOnce : (traffic.landed.map (·.flight)).Nodup
  lease : cache.lease? = traffic.holder?.map (·.lease timeout)
  overtaken : ∀ flight ∈ traffic.underWay, ∀ next ∈ traffic.begun,
    next.ticket = flight.ticket + 1 → flight.deadline timeout < next.start

/-- What a move does to what is stored: nothing, unless a refresh ends. -/
inductive Advances (traffic : Traffic α) (cache : TimedFlight α) :
    Move α → TimedFlight α → Prop where
  | idle {move : Move α} {later : TimedFlight α} (contents : later.contents = cache.contents)
      (landed : (traffic.step move).landed = traffic.landed) : Advances traffic cache move later
  | ended {index : Nat} {flight : Flight} {outcome : Except Fault α}
      (underWay : traffic.underWay[index]? = some flight)
      (landed : (traffic.step (.finish index outcome)).landed =
        traffic.landed ++ [⟨flight, outcome⟩]) :
    Advances traffic cache (.finish index outcome) (cache.finish flight.ticket outcome).2

namespace Timed

variable {timeout : Span} {newer? : Option (α → α → Bool)} {traffic : Traffic α}
  {cache : TimedFlight α} (h : Timed timeout newer? traffic cache)
include h

theorem ticket_bounds {flight : Flight} (hf : flight ∈ traffic.begun) :
    1 ≤ flight.ticket ∧ flight.ticket ≤ cache.lastTicket := by
  have hm : flight.ticket ∈ traffic.begun.map (·.ticket) := List.mem_map_of_mem hf
  rw [h.numbered, List.mem_range'_1] at hm
  omega

theorem nodup_tickets : (traffic.begun.map (·.ticket)).Nodup := by
  rw [h.numbered]
  exact List.nodup_range'

theorem nodup_underWay : traffic.underWay.Nodup :=
  h.nodup_tickets.of_map.sublist h.underWay

/-- No two refreshes have the same number. -/
theorem flight_eq {flight other : Flight} (hf : flight ∈ traffic.begun)
    (ho : other ∈ traffic.begun) (ht : flight.ticket = other.ticket) : flight = other :=
  List.inj_on_of_nodup_map h.nodup_tickets hf ho ht

theorem length_begun : traffic.begun.length = cache.lastTicket := by
  have hl := congrArg List.length h.numbered
  simpa using hl

/-- The latest refresh is the one with the highest number. -/
theorem getLast_iff (flight : Flight) :
    traffic.begun.getLast? = some flight ↔
      flight ∈ traffic.begun ∧ flight.ticket = cache.lastTicket := by
  have hlatest {latest : Flight} (hl : traffic.begun.getLast? = some latest) :
      latest.ticket = cache.lastTicket := by
    have hmap : (traffic.begun.map (·.ticket)).getLast? = some latest.ticket := by
      rw [List.getLast?_map, hl]
      rfl
    -- numbers are given without a gap, from one on
    rw [h.numbered, List.getLast?_range'] at hmap
    split at hmap
    · cases hmap
    · have := Option.some.inj hmap
      omega
  refine ⟨fun hl => ⟨List.mem_of_getLast? hl, hlatest hl⟩, fun ⟨hf, ht⟩ => ?_⟩
  cases hl : traffic.begun.getLast? with
  | none =>
    rw [List.getLast?_eq_none_iff] at hl
    simp [hl] at hf
  | some latest =>
    have hsame : latest.ticket = flight.ticket := (hlatest hl).trans ht.symm
    rw [h.flight_eq (List.mem_of_getLast? hl) hf hsame]

theorem unlanded {flight : Flight} (hf : flight ∈ traffic.underWay) :
    flight ∉ traffic.landed.map (·.flight) := by
  intro hm
  obtain ⟨landing, hl, rfl⟩ := List.mem_map.mp hm
  exact (h.landed landing hl).2 hf

/-- A refresh that is under way holds the lease if no other has begun since. -/
theorem holder_of_latest {flight : Flight} (hf : flight ∈ traffic.underWay)
    (ht : flight.ticket = cache.lastTicket) : traffic.holder? = some flight := by
  have hlast := (h.getLast_iff flight).mpr ⟨h.underWay.subset hf, ht⟩
  unfold holder?
  rw [hlast, Option.filter_some, if_pos (by simpa using h.unlanded hf)]

/-- No refresh ends twice. -/
theorem landing_eq {landing other : Landing α} (hl : landing ∈ traffic.landed)
    (ho : other ∈ traffic.landed) (ht : landing.flight.ticket = other.flight.ticket) :
    landing = other :=
  List.inj_on_of_nodup_map h.landedOnce hl ho
    (h.flight_eq (h.landed landing hl).1 (h.landed other ho).1 ht)

theorem not_mem_eraseIdx {index : Nat} {flight : Flight}
    (hf : traffic.underWay[index]? = some flight) :
    flight ∉ traffic.underWay.eraseIdx index := by
  obtain ⟨hi, rfl⟩ := List.getElem?_eq_some_iff.mp hf
  rw [← h.nodup_underWay.erase_getElem index hi]
  exact h.nodup_underWay.not_mem_erase

/-- A read begins a refresh unless the holder of the lease has not had its time. -/
theorem acquire_eq (now : Instant) :
    cache.acquire now =
      match traffic.holder? with
      | none => some (⟨cache.lastTicket + 1, none⟩, { cache with
          lastTicket := cache.lastTicket + 1
          lease? := some (Flight.lease ⟨cache.lastTicket + 1, now⟩ timeout) })
      | some flight =>
        if flight.deadline timeout < now then
          some (⟨cache.lastTicket + 1, some flight.ticket⟩, { cache with
            lastTicket := cache.lastTicket + 1
            lease? := some (Flight.lease ⟨cache.lastTicket + 1, now⟩ timeout) })
        else none := by
  unfold TimedFlight.acquire
  rw [h.lease]
  cases traffic.holder? with
  | none => simp [Flight.lease, Flight.deadline, h.timeout_eq]
  | some flight => simp [Flight.lease, Flight.deadline, h.timeout_eq, Lease.expired]

/-- A read that begins a refresh is not within the time of another one that holds the lease. -/
theorem begins {now : Instant} {start : TimedFlight.Start} {started : TimedFlight α}
    (ha : cache.acquire now = some (start, started)) :
    start.ticket = cache.lastTicket + 1 ∧
      started = { cache with
        lastTicket := cache.lastTicket + 1
        lease? := some (Flight.lease ⟨cache.lastTicket + 1, now⟩ timeout) } ∧
      ∀ flight, traffic.holder? = some flight → flight.deadline timeout < now := by
  rw [h.acquire_eq] at ha
  cases hh : traffic.holder? with
  | none =>
    rw [hh] at ha
    cases ha
    exact ⟨rfl, rfl, by simp⟩
  | some holder =>
    simp only [hh] at ha
    split at ha
    · rename_i hlate
      cases ha
      refine ⟨rfl, rfl, fun flight hf => ?_⟩
      cases hf
      exact hlate
    · cases ha

/-- A read that begins a refresh takes over from the one that holds the lease. -/
theorem robs {now : Instant} {start : TimedFlight.Start} {started : TimedFlight α}
    (ha : cache.acquire now = some (start, started)) :
    start.robbed? = traffic.holder?.map (·.ticket) := by
  rw [h.acquire_eq] at ha
  cases hh : traffic.holder? with
  | none =>
    rw [hh] at ha
    cases ha
    rfl
  | some holder =>
    simp only [hh] at ha
    split at ha <;> cases ha
    rfl

theorem begun {now : Instant} {start : TimedFlight.Start} {started : TimedFlight α}
    (ha : cache.acquire now = some (start, started)) :
    let flight : Flight := ⟨start.ticket, now⟩
    Timed timeout newer?
      { traffic with
        cache := .timed started
        begun := traffic.begun ++ [flight]
        underWay := traffic.underWay ++ [flight] } started := by
  intro flight
  obtain ⟨ht, rfl, hfree⟩ := h.begins ha
  have hticket : flight.ticket = cache.lastTicket + 1 := ht
  have hfresh : flight ∉ traffic.begun := by
    intro hm
    have := (h.ticket_bounds hm).2
    omega
  have hunlanded : flight ∉ traffic.landed.map (·.flight) := by
    intro hm
    obtain ⟨landing, hl, hf⟩ := List.mem_map.mp hm
    exact hfresh (hf ▸ (h.landed landing hl).1)
  refine ⟨rfl, h.timeout_eq, h.newer_eq, ?_, h.underWay.append_right _, ?_, h.landedOnce, ?_, ?_⟩
  · rw [List.map_append, h.numbered, List.range'_1_concat]
    simp [hticket, Nat.add_comm]
  · intro landing hl
    obtain ⟨hbegun, hdown⟩ := h.landed landing hl
    refine ⟨List.mem_append_left _ hbegun, fun hm => ?_⟩
    rcases List.mem_append.mp hm with hm | hm
    · exact hdown hm
    · rw [List.mem_singleton.mp hm] at hbegun
      exact hfresh hbegun
  · unfold holder?
    rw [List.getLast?_concat, Option.filter_some, if_pos (by simpa using hunlanded)]
    simp [flight, ht]
  · -- only the latest refresh can be followed by the new one, and its lease has expired
    intro earlier he next hn hnext
    rcases List.mem_append.mp hn with hn | hn
    · rcases List.mem_append.mp he with he | he
      · exact h.overtaken earlier he next hn hnext
      · have hb := (h.ticket_bounds hn).2
        rw [List.mem_singleton.mp he] at hnext
        omega
    · rw [List.mem_singleton.mp hn] at hnext ⊢
      rcases List.mem_append.mp he with he | he
      · have hlatest : earlier.ticket = cache.lastTicket := by omega
        exact hfree earlier (h.holder_of_latest he hlatest)
      · rw [List.mem_singleton.mp he] at hnext
        omega

/-- A refresh that is broken off keeps the lease, though it is under way no longer. -/
theorem brokenOff {index : Nat} {flight : Flight}
    (hf : traffic.underWay[index]? = some flight) :
    Timed timeout newer? (traffic.step (.breakOff index)) cache := by
  have hsub : (traffic.underWay.eraseIdx index).Sublist traffic.underWay :=
    List.eraseIdx_sublist ..
  rw [step_breakOff hf]
  refine ⟨by rw [h.cache_eq]; rfl, h.timeout_eq, h.newer_eq, h.numbered, hsub.trans h.underWay,
    ?_, h.landedOnce, h.lease, ?_⟩
  · intro landing hl
    obtain ⟨hbegun, hdown⟩ := h.landed landing hl
    exact ⟨hbegun, fun hm => hdown (hsub.subset hm)⟩
  · intro earlier he next hn hnext
    exact h.overtaken earlier (hsub.subset he) next hn hnext

theorem finished {index : Nat} {flight : Flight} (hf : traffic.underWay[index]? = some flight)
    (outcome : Except Fault α) :
    Timed timeout newer? (traffic.step (.finish index outcome))
      (cache.finish flight.ticket outcome).2 := by
  obtain ⟨hlease, hlast, htimeout, hnewer⟩ := cache.finish_leases flight.ticket outcome
  have hunder : flight ∈ traffic.underWay := List.mem_of_getElem? hf
  -- those that are still under way are the same as if it had been broken off
  have hrest := h.brokenOff hf
  rw [step_breakOff hf] at hrest
  rw [step_finish hf]
  refine ⟨by rw [h.cache_eq]; rfl, htimeout.trans h.timeout_eq, hnewer.trans h.newer_eq,
    by rw [hlast]; exact h.numbered, hrest.underWay, ?_, ?_, ?_, hrest.overtaken⟩
  · intro landing hl
    rcases List.mem_append.mp hl with hl | hl
    · exact hrest.landed landing hl
    · rw [List.mem_singleton.mp hl]
      exact ⟨h.underWay.subset hunder, h.not_mem_eraseIdx hf⟩
  · rw [List.map_append, List.map_singleton, ← List.concat_eq_append]
    exact h.landedOnce.concat (h.unlanded hunder)
  · rw [hlease, h.lease, ← step_finish hf, holder_finish hf outcome]
    -- the cache compares numbers, and no two refreshes have the same
    cases hh : traffic.holder? with
    | none => rfl
    | some holder =>
      by_cases hsame : holder = flight
      · simp [Option.filter_some, hsame, Flight.lease]
      · have hticket : holder.ticket ≠ flight.ticket := fun ht =>
          hsame (h.flight_eq (holder_begun hh) (h.underWay.subset hunder) ht)
        simp [Option.filter_some, hsame, Flight.lease, hticket]

theorem step_contended {now : Instant} (ha : cache.acquire now = none) :
    traffic.step (.read now) = traffic := by
  have hcontended : traffic.cache.acquire now = (.contended cache.value?, traffic.cache) := by
    simp only [h.cache_eq, RefreshCache.acquire, ha]
  simp only [Traffic.step, hcontended]

theorem step_begun {now : Instant} {start : TimedFlight.Start} {started : TimedFlight α}
    (ha : cache.acquire now = some (start, started)) :
    traffic.step (.read now) =
      { traffic with
        cache := .timed started
        begun := traffic.begun ++ [⟨start.ticket, now⟩]
        underWay := traffic.underWay ++ [⟨start.ticket, now⟩] } := by
  simp only [Traffic.step, h.cache_eq, RefreshCache.acquire, ha]

/-- Every move keeps the leases in order. -/
theorem stepped (move : Move α) :
    ∃ later, Timed timeout newer? (traffic.step move) later ∧
      Advances traffic cache move later := by
  cases move with
  | read now =>
    cases ha : cache.acquire now with
    | none =>
      have hstep : traffic.step (.read now) = traffic := h.step_contended ha
      exact ⟨cache, by rw [hstep]; exact h, .idle rfl (by rw [hstep])⟩
    | some begins =>
      obtain ⟨start, started⟩ := begins
      obtain ⟨-, hstarted, -⟩ := h.begins ha
      have hcontents : started.contents = cache.contents := by
        rw [hstarted]
        rfl
      have hstep := h.step_begun ha
      exact ⟨started, by rw [hstep]; exact h.begun ha, .idle hcontents (by rw [hstep])⟩
  | finish index outcome =>
    cases hf : traffic.underWay[index]? with
    | none =>
      have hstep := step_finish_missing hf outcome
      exact ⟨cache, by rw [hstep]; exact h, .idle rfl (by rw [hstep])⟩
    | some flight => exact ⟨_, h.finished hf outcome, .ended hf (by rw [step_finish hf])⟩
  | breakOff index =>
    cases hf : traffic.underWay[index]? with
    | none =>
      have hstep := step_breakOff_missing hf
      exact ⟨cache, by rw [hstep]; exact h, .idle rfl (by rw [hstep])⟩
    | some flight => exact ⟨cache, h.brokenOff hf, .idle rfl (by rw [step_breakOff hf])⟩

/-- A refresh that is still within its time is the latest. -/
theorem latest_of_within {flight : Flight} {now : Instant} (hf : flight ∈ traffic.underWay)
    (hn : ∀ flight ∈ traffic.begun, flight.start ≤ now) (hw : now ≤ flight.deadline timeout) :
    flight.ticket = cache.lastTicket := by
  by_contra hearlier
  have hb := h.ticket_bounds (h.underWay.subset hf)
  have hm : flight.ticket + 1 ∈ traffic.begun.map (·.ticket) := by
    rw [h.numbered, List.mem_range'_1]
    omega
  obtain ⟨next, hnext, ht⟩ := List.mem_map.mp hm
  -- the next refresh has begun too late for this one, and not after now
  have hlate : (flight.deadline timeout).nanos < next.start.nanos :=
    h.overtaken flight hf next hnext ht
  have hstart : next.start.nanos ≤ now.nanos := hn next hnext
  have hwithin : now.nanos ≤ (flight.deadline timeout).nanos := hw
  omega

/-- A refresh that begins while the one before is under way begins after the deadline of that
one. -/
theorem begins_late {flight : Flight} {now : Instant} {robbed? : Option Nat}
    {later : RefreshCache α} (hf : flight ∈ traffic.underWay)
    (ha : traffic.cache.acquire now = (.refreshing (flight.ticket + 1) robbed?, later)) :
    flight.deadline timeout < now := by
  rw [h.cache_eq, RefreshCache.acquire] at ha
  cases hs : cache.acquire now with
  | none =>
    rw [hs] at ha
    cases ha
  | some begins =>
    obtain ⟨start, started⟩ := begins
    -- as the next number is given now, that refresh is the latest and holds the lease
    obtain ⟨ht, -, hfree⟩ := h.begins hs
    simp only [hs, Prod.mk.injEq, RefreshCache.Access.refreshing.injEq] at ha
    have hlatest : flight.ticket = cache.lastTicket := by omega
    exact hfree flight (h.holder_of_latest hf hlatest)

/-- A refresh that ends gives back no lease but its own. -/
theorem leaves_lease {index : Nat} {flight : Flight} {lease : Lease}
    (hf : traffic.underWay[index]? = some flight) (hl : traffic.cache.lease? = some lease)
    (ht : lease.ticket ≠ flight.ticket) :
    (∀ outcome, (traffic.step (.finish index outcome)).cache.lease? = some lease) ∧
      (traffic.step (.breakOff index)).cache.lease? = some lease := by
  rw [h.cache_eq] at hl
  have hheld : cache.lease? = some lease := hl
  refine ⟨fun outcome => ?_, ?_⟩
  · rw [(h.finished hf outcome).cache_eq]
    change (cache.finish flight.ticket outcome).2.lease? = some lease
    rw [(cache.finish_leases flight.ticket outcome).1, hheld, Option.filter_some,
      if_pos (by simpa using ht)]
  · rw [(h.brokenOff hf).cache_eq]
    exact hheld

/-- What every move keeps holds after a run. -/
theorem kept {P : Traffic α → TimedFlight α → Prop} (hp : P traffic cache)
    (hstep : ∀ {traffic cache move later}, Timed timeout newer? traffic cache →
      P traffic cache → Advances traffic cache move later → P (traffic.step move) later)
    (moves : List (Move α)) :
    ∃ later, Timed timeout newer? (traffic.run moves) later ∧ P (traffic.run moves) later := by
  induction moves generalizing traffic cache with
  | nil => exact ⟨cache, h, hp⟩
  | cons move moves ih =>
    obtain ⟨later, hlater, hadvances⟩ := h.stepped move
    exact ih hlater (hstep h hp hadvances)

end Timed

theorem timed_start (timeout : Span) (newer? : Option (α → α → Bool)) :
    Timed timeout newer? { cache := .timed { timeout, newer? } } { timeout, newer? } where
  cache_eq := rfl
  timeout_eq := rfl
  newer_eq := rfl
  numbered := rfl
  underWay := .slnil
  landed := by simp
  landedOnce := .nil
  lease := rfl
  overtaken := by simp

/-- Leases exclude each other until they expire, in every course of reads and refreshes under any
clock. A refresh that begins while the one before is under way begins after the deadline of that
one. While the lease is held and its deadline has not passed, whoever reads gets the last value, and
no supplier is asked. At most one refresh under way is within its deadline at a time that no refresh
has begun after, as is so if the clock never goes back. A refresh that ends gives back no lease but
its own. -/
theorem leases_exclude_each_other (timeout : Span) (newer? : Option (α → α → Bool))
    (moves : List (Move α)) :
    let traffic := ({ cache := .timed { timeout, newer? } } : Traffic α).run moves
    (∀ flight ∈ traffic.underWay, ∀ now robbed? later,
      traffic.cache.acquire now = (.refreshing (flight.ticket + 1) robbed?, later) →
        flight.deadline timeout < now) ∧
    traffic.cache.lease? = traffic.holder?.map (·.lease timeout) ∧
    (∀ {σ q r : Type} (shared : SharedCache σ α) (world : σ) (lease : Lease)
        (supplier : Consult σ q r (Except Fault α)), shared.cell.get world = traffic.cache →
      traffic.cache.lease? = some lease → shared.now world ≤ lease.deadline →
        shared.get supplier world =
          .answered (.ok traffic.cache.last) (shared.cell.set traffic.cache world)) ∧
    (∀ now, (∀ flight ∈ traffic.begun, flight.start ≤ now) →
      ∀ flight ∈ traffic.underWay, ∀ other ∈ traffic.underWay,
        now ≤ flight.deadline timeout → now ≤ other.deadline timeout → flight = other) ∧
    ∀ index flight lease, traffic.underWay[index]? = some flight →
      traffic.cache.lease? = some lease → lease.ticket ≠ flight.ticket →
        (∀ outcome, (traffic.step (.finish index outcome)).cache.lease? = some lease) ∧
          (traffic.step (.breakOff index)).cache.lease? = some lease := by
  intro traffic
  obtain ⟨cache, h, -⟩ := (timed_start timeout newer?).kept (P := fun _ _ => True) trivial
    (fun _ _ _ => trivial) moves
  change Timed timeout newer? traffic cache at h
  refine ⟨fun flight hf now robbed? later => h.begins_late hf, ?_, ?_, ?_,
    fun index flight lease => h.leaves_lease⟩
  · rw [h.cache_eq]
    exact h.lease
  · intro σ q r shared world lease supplier hcell hl hw
    rw [← hcell] at hl ⊢
    exact SharedCache.get_within hl hw supplier
  · intro now hn flight hf other ho hfw how
    -- both are the latest
    have hft := h.latest_of_within hf hn hfw
    have hot := h.latest_of_within ho hn how
    exact h.flight_eq (h.underWay.subset hf) (h.underWay.subset ho) (hft.trans hot.symm)

/-- Taken over after two seconds, a refresh with one second of time leaves the lease to the next. -/
theorem overtaken_refresh_leaves_lease :
    let later : Instant := ⟨2_000_000_000, by decide, by decide⟩
    let timeout : Span := ⟨1_000_000_000, by decide⟩
    let traffic := ({ cache := .timed { timeout } } : Traffic Nat).run [.read .epoch, .read later]
    (traffic.step (.finish 0 (.ok 10))).cache.lease? = some (Flight.lease ⟨2, later⟩ timeout) := by
  intro later timeout traffic
  obtain ⟨-, -, -, -, hleaves⟩ :=
    leases_exclude_each_other timeout none ([.read .epoch, .read later] : List (Move Nat))
  exact (hleaves 0 ⟨1, .epoch⟩ (Flight.lease ⟨2, later⟩ timeout) (by decide +kernel)
    (by decide +kernel) (by decide +kernel)).1 (.ok 10)

end Traffic

end ReplicaRouting
