import ReplicaRouting.Proofs.Cache.Leases
import ReplicaRouting.Proofs.Cache.Supplied

/-!
What a cache with leases stores where values are not known to grow. However refreshes overtake each
other, the value kept is that of the latest one that has ended well.
-/

namespace ReplicaRouting

namespace Traffic

variable {α : Type} {landed : List (Landing α)} {cache : TimedFlight α}

/-- Of all refreshes that have ended well, the one with the highest number. -/
def Latest (landed : List (Landing α)) (flight : Flight) (value : α) : Prop :=
  ⟨flight, .ok value⟩ ∈ landed ∧
    ∀ other fresh, ⟨other, .ok fresh⟩ ∈ landed → other.ticket ≤ flight.ticket

/-- The cache stores what the latest refresh to end well has brought. -/
inductive Stores (landed : List (Landing α)) (cache : TimedFlight α) : Prop where
  | nothing (value : cache.value? = none) (ticket : cache.storedTicket = 0)
      (none : ∀ flight fresh, ⟨flight, .ok fresh⟩ ∉ landed)
  | latest {flight : Flight} {fresh : α} (value : cache.value? = some fresh)
      (ticket : cache.storedTicket = flight.ticket) (latest : Latest landed flight fresh)

theorem Stores.ticket_le (h : Stores landed cache) {flight : Flight} {fresh : α}
    (hm : ⟨flight, .ok fresh⟩ ∈ landed) : flight.ticket ≤ cache.storedTicket := by
  cases h with
  | nothing _ _ none => exact absurd hm (none flight fresh)
  | latest _ ticket latest =>
    rw [ticket]
    exact latest.2 flight fresh hm

theorem Stores.overtaken_iff (h : Stores landed cache) (flight : Flight) :
    (∃ other value, ⟨other, .ok value⟩ ∈ landed ∧ flight.ticket < other.ticket) ↔
      flight.ticket < cache.storedTicket := by
  constructor
  · rintro ⟨other, value, hm, hlt⟩
    have hle := h.ticket_le hm
    omega
  · intro hlt
    cases h with
    | nothing _ ticket => omega
    | @latest stored fresh _ ticket latest =>
      exact ⟨stored, fresh, latest.1, by omega⟩

theorem Stores.of_eq {later : TimedFlight α} (h : Stores landed cache)
    (hv : later.value? = cache.value?) (ht : later.storedTicket = cache.storedTicket) :
    Stores landed later := by
  cases h with
  | nothing value ticket none => exact .nothing (hv.trans value) (ht.trans ticket) none
  | latest value ticket latest => exact .latest (hv.trans value) (ht.trans ticket) latest

/-- A refresh that fails is as good as none. -/
theorem Stores.failed (h : Stores landed cache) (flight : Flight) (fault : Fault) :
    Stores (landed ++ [⟨flight, .error fault⟩]) cache := by
  have hmem (other : Flight) (fresh : α) :
      (⟨other, .ok fresh⟩ : Landing α) ∈ landed ++ [⟨flight, .error fault⟩] ↔
        ⟨other, .ok fresh⟩ ∈ landed := by
    simp
  cases h with
  | nothing value ticket none =>
    exact .nothing value ticket fun other fresh hm => none other fresh ((hmem other fresh).mp hm)
  | latest value ticket latest =>
    refine .latest value ticket ⟨(hmem _ _).mpr latest.1, fun other fresh hm => ?_⟩
    exact latest.2 other fresh ((hmem other fresh).mp hm)

/-- A value from a later refresh replaces the one that is stored. -/
theorem Stores.replaced (h : Stores landed cache) {flight : Flight} {fresh : α}
    {later : TimedFlight α} (hl : cache.storedTicket < flight.ticket)
    (hv : later.value? = some fresh) (ht : later.storedTicket = flight.ticket) :
    Stores (landed ++ [⟨flight, .ok fresh⟩]) later := by
  refine .latest hv ht ⟨by simp, fun other value hm => ?_⟩
  rcases List.mem_append.mp hm with hm | hm
  · have := h.ticket_le hm
    omega
  · cases List.mem_singleton.mp hm
    exact Nat.le_refl _

/-- A value from an earlier refresh comes too late. -/
theorem Stores.late (h : Stores landed cache) {flight : Flight} {fresh : α}
    (hl : flight.ticket < cache.storedTicket) :
    Stores (landed ++ [⟨flight, .ok fresh⟩]) cache := by
  cases h with
  | nothing _ ticket => omega
  | latest value ticket latest =>
    refine .latest value ticket ⟨List.mem_append_left _ latest.1, fun other stored hm => ?_⟩
    rcases List.mem_append.mp hm with hm | hm
    · exact latest.2 other stored hm
    · cases List.mem_singleton.mp hm
      omega

theorem Stores.value_iff (h : Stores landed cache) (value : α)
    (hunique : ∀ first ∈ landed, ∀ second ∈ landed,
      first.flight.ticket = second.flight.ticket → first = second) :
    cache.value? = some value ↔ ∃ flight, Latest landed flight value := by
  cases h with
  | nothing empty _ none =>
    rw [empty]
    refine ⟨nofun, ?_⟩
    rintro ⟨flight, hm, -⟩
    exact absurd hm (none flight value)
  | @latest flight fresh hv _ latest =>
    rw [hv]
    constructor
    · rintro ⟨⟩
      exact ⟨flight, latest⟩
    · rintro ⟨other, hm, hmax⟩
      have hle := latest.2 other value hm
      have hge := hmax flight fresh latest.1
      -- both are the highest, and no number is given twice
      cases hunique _ latest.1 _ hm (Nat.le_antisymm hge hle)
      rfl

end Traffic

namespace TimedFlight

variable {α : Type} {cache : TimedFlight α}

/-- Where values are not known to grow, a value is kept if it is from a later refresh. -/
theorem keeps_iff (hn : cache.newer? = none) (ticket : Nat) (fresh : α) :
    cache.keeps ticket fresh = true ↔ cache.storedTicket < ticket := by
  unfold keeps
  rw [hn]
  exact decide_eq_true_iff

/-- What becomes of a fresh value where values are not known to grow: the later refresh counts. -/
theorem finish_contents (hn : cache.newer? = none) (ticket : Nat) (fresh : α) :
    let finished := (cache.finish ticket (.ok fresh)).2
    (cache.storedTicket < ticket →
      finished.value? = some fresh ∧ finished.storedTicket = ticket ∧
        finished.discarded = cache.discarded ∧ finished.stale = cache.stale) ∧
    (ticket < cache.storedTicket →
      finished.value? = cache.value? ∧ finished.storedTicket = cache.storedTicket ∧
        finished.discarded = cache.discarded + 1 ∧ finished.stale = cache.stale) := by
  have hkeeps := keeps_iff hn ticket fresh
  refine ⟨fun hl => ?_, fun hl => ?_⟩
  · cases cache.finish_settlesAs ticket fresh with
    | kept _ _ value stored discarded stale =>
      exact ⟨value, stored.trans (Nat.max_eq_right (Nat.le_of_lt hl)), discarded, stale⟩
    | late _ _ overtaken => omega
    | unmoved _ keeps => exact absurd (keeps.symm.trans (hkeeps.mpr hl)) Bool.false_ne_true
  · cases cache.finish_settlesAs ticket fresh with
    | kept _ keeps =>
      have hlater := hkeeps.mp keeps
      omega
    | late _ _ _ value stored discarded stale => exact ⟨value, stored, discarded, stale⟩
    | unmoved _ _ latest => omega

end TimedFlight

namespace Traffic

variable {α : Type} {timeout : Span} {traffic : Traffic α} {cache : TimedFlight α}

/-- What the moves keep where values are not known to grow. -/
structure KeepsLatest (traffic : Traffic α) (cache : TimedFlight α) : Prop where
  stores : Stores traffic.landed cache
  fresh : cache.stale = 0

/-- A refresh under way is not the one whose value is stored. -/
theorem KeepsLatest.ticket_ne (h : KeepsLatest traffic cache)
    (ht : Timed timeout none traffic cache) {flight : Flight} (hf : flight ∈ traffic.underWay) :
    flight.ticket ≠ cache.storedTicket := by
  have hbegun := ht.underWay.subset hf
  intro hticket
  cases h.stores with
  | nothing _ ticket =>
    have := (ht.ticket_bounds hbegun).1
    omega
  | @latest stored fresh _ ticket latest =>
    obtain ⟨hstored, hdown⟩ := ht.landed _ latest.1
    have hsame : flight = stored := ht.flight_eq hbegun hstored (hticket.trans ticket)
    exact hdown (hsame ▸ hf)

theorem KeepsLatest.advances {move : Move α} {later : TimedFlight α}
    (ht : Timed timeout none traffic cache) (h : KeepsLatest traffic cache)
    (ha : Advances traffic cache move later) : KeepsLatest (traffic.step move) later := by
  cases ha with
  | idle contents landed =>
    obtain ⟨hv, hs, -, hstale⟩ := TimedFlight.contents_eq_iff.mp contents
    refine ⟨?_, hstale.trans h.fresh⟩
    rw [landed]
    exact h.stores.of_eq hv hs
  | @ended index flight outcome underWay landed =>
    -- it is later than the one whose value is stored or earlier, for that one has ended
    have hne := h.ticket_ne ht (List.mem_of_getElem? underWay)
    cases outcome with
    | error fault =>
      obtain ⟨hv, hs, -, hstale⟩ := TimedFlight.contents_eq_iff.mp
        (cache.finish_error_contents flight.ticket fault)
      refine ⟨?_, hstale.trans h.fresh⟩
      rw [landed]
      exact (h.stores.failed flight fault).of_eq hv hs
    | ok fresh =>
      obtain ⟨hlater, hearlier⟩ := TimedFlight.finish_contents ht.newer_eq flight.ticket fresh
      rcases Nat.lt_or_gt_of_ne hne with hlt | hgt
      · obtain ⟨hv, hs, -, hstale⟩ := hearlier hlt
        refine ⟨?_, hstale.trans h.fresh⟩
        rw [landed]
        exact (h.stores.late hlt).of_eq hv hs
      · obtain ⟨hv, hs, -, hstale⟩ := hlater hgt
        refine ⟨?_, hstale.trans h.fresh⟩
        rw [landed]
        exact h.stores.replaced hgt hv hs

/-- What becomes of a refresh that ends well. -/
theorem KeepsLatest.finished (h : KeepsLatest traffic cache) (ht : Timed timeout none traffic cache)
    {index : Nat} {flight : Flight} {fresh : α} (hf : traffic.underWay[index]? = some flight) :
    let later := traffic.step (.finish index (.ok fresh))
    let overtaken := ∃ other value, ⟨other, .ok value⟩ ∈ traffic.landed ∧
      flight.ticket < other.ticket
    (traffic.cache.finish flight.ticket (.ok fresh)).1.answer = .ok later.cache.last ∧
      (overtaken → later.cache.last = traffic.cache.last ∧
        later.cache.dropped? = traffic.cache.dropped?.map fun dropped =>
          (dropped.1 + 1, dropped.2)) ∧
      (¬ overtaken → later.cache.last = some fresh ∧
        later.cache.dropped? = traffic.cache.dropped?) := by
  intro later overtaken
  have hlater : later.cache = .timed (cache.finish flight.ticket (.ok fresh)).2 :=
    (ht.finished hf (.ok fresh)).cache_eq
  have hne := h.ticket_ne ht (List.mem_of_getElem? hf)
  -- whether a later one has ended well can be seen from what is stored
  have hover : overtaken ↔ flight.ticket < cache.storedTicket := h.stores.overtaken_iff flight
  obtain ⟨hkept, hlate⟩ := TimedFlight.finish_contents ht.newer_eq flight.ticket fresh
  rw [ht.cache_eq, hlater]
  refine ⟨rfl, fun ho => ?_, fun ho => ?_⟩
  · obtain ⟨hv, -, hd, hs⟩ := hlate (hover.mp ho)
    exact ⟨hv, by simp only [RefreshCache.dropped?, hd, hs, Option.map_some]⟩
  · have hle : cache.storedTicket ≤ flight.ticket := Nat.not_lt.mp (mt hover.mpr ho)
    have hlt : cache.storedTicket < flight.ticket := Nat.lt_of_le_of_ne hle hne.symm
    obtain ⟨hv, -, hd, hs⟩ := hkept hlt
    exact ⟨hv, by simp only [RefreshCache.dropped?, hd, hs]⟩

/-- Unless a refresh ends well, nothing is stored and nothing is counted. -/
theorem Timed.keeps_contents {newer? : Option (α → α → Bool)}
    (h : Timed timeout newer? traffic cache) {move : Move α}
    (hm : ∀ index fresh, move ≠ .finish index (.ok fresh)) :
    (traffic.step move).cache.last = traffic.cache.last ∧
      (traffic.step move).cache.dropped? = traffic.cache.dropped? := by
  obtain ⟨later, hlater, ha⟩ := h.stepped move
  have hcontents : later.contents = cache.contents := by
    cases ha with
    | idle contents => exact contents
    | @ended index flight outcome =>
      cases outcome with
      | error fault => exact cache.finish_error_contents flight.ticket fault
      | ok fresh => exact absurd rfl (hm index fresh)
  obtain ⟨hv, -, hd, hs⟩ := TimedFlight.contents_eq_iff.mp hcontents
  rw [hlater.cache_eq, h.cache_eq]
  exact ⟨hv, by simp only [RefreshCache.dropped?, hd, hs]⟩

/-- In every course of reads and refreshes under any clock the latest refresh to end well wins: its
value is the one that is stored, where refreshes are numbered as they begin. A refresh that ends
well yields what is stored then; it replaces what was stored, or is counted as discarded if a later
one had ended well before. Nothing is ever dropped for another reason, and nothing else changes what
is stored or counted. -/
theorem latest_refresh_wins (timeout : Span) (moves : List (Move α)) :
    let traffic := ({ cache := .timed { timeout } } : Traffic α).run moves
    traffic.begun.map (·.ticket) = List.range' 1 traffic.begun.length ∧
    (∀ value, traffic.cache.last = some value ↔
      ∃ flight, Latest traffic.landed flight value) ∧
    (∃ discarded, traffic.cache.dropped? = some (discarded, 0)) ∧
    (∀ index flight fresh, traffic.underWay[index]? = some flight →
      let later := traffic.step (.finish index (.ok fresh))
      let overtaken := ∃ other value, ⟨other, .ok value⟩ ∈ traffic.landed ∧
        flight.ticket < other.ticket
      (traffic.cache.finish flight.ticket (.ok fresh)).1.answer = .ok later.cache.last ∧
        (overtaken → later.cache.last = traffic.cache.last ∧
          later.cache.dropped? = traffic.cache.dropped?.map fun dropped =>
            (dropped.1 + 1, dropped.2)) ∧
        (¬ overtaken → later.cache.last = some fresh ∧
          later.cache.dropped? = traffic.cache.dropped?)) ∧
    ∀ move, (∀ index fresh, move ≠ .finish index (.ok fresh)) →
      (traffic.step move).cache.last = traffic.cache.last ∧
        (traffic.step move).cache.dropped? = traffic.cache.dropped? := by
  intro traffic
  -- the order of the leases is carried along, for it gives every refresh a number of its own
  have hstart : KeepsLatest ({ cache := .timed { timeout } } : Traffic α) { timeout } :=
    ⟨.nothing rfl rfl (by simp), rfl⟩
  obtain ⟨cache, ht, hk⟩ := (timed_start timeout none).kept hstart
    (fun ht hk ha => hk.advances ht ha) moves
  change Timed timeout none traffic cache at ht
  change KeepsLatest traffic cache at hk
  refine ⟨?_, fun value => ?_, ⟨cache.discarded, ?_⟩, fun index flight fresh => hk.finished ht,
    fun move => ht.keeps_contents⟩
  · rw [ht.length_begun]
    exact ht.numbered
  · rw [ht.cache_eq]
    exact hk.stores.value_iff value fun _ hf _ hs => ht.landing_eq hf hs
  · rw [ht.cache_eq]
    exact congrArg (fun stale => some (cache.discarded, stale)) hk.fresh

/-- A refresh that was taken over ends after the one that took over from it, and is discarded. -/
theorem overtaken_refresh_discarded :
    let later : Instant := ⟨2_000_000_000, by decide, by decide⟩
    let traffic := ({ cache := .timed { timeout := ⟨1_000_000_000, by decide⟩ } } : Traffic Nat).run
      [.read .epoch, .read later, .finish 1 (.ok 20)]
    (traffic.step (.finish 0 (.ok 10))).cache.last = some 20 := by
  intro later traffic
  obtain ⟨-, -, -, hends, -⟩ := latest_refresh_wins ⟨1_000_000_000, by decide⟩
    ([.read .epoch, .read later, .finish 1 (.ok 20)] : List (Move Nat))
  obtain ⟨-, hdiscards, -⟩ := hends 0 ⟨1, .epoch⟩ 10 (by decide +kernel)
  exact (hdiscards ⟨⟨2, later⟩, 20, .head _, by decide⟩).1

end Traffic

end ReplicaRouting
