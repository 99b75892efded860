import ReplicaRouting.Proofs.Cache.LatestRefresh

/-!
By which counter a dropped refresh is counted. A cache with leases goes by the numbers of refreshes:
one that is dropped after a later one was stored counts as discarded, any other as stale. That is
not the same as whether it still had its lease, for a refresh that has taken the lease over may
bring nothing.
-/

namespace ReplicaRouting

namespace TimedFlight

variable {α : Type} {cache later : TimedFlight α} {ticket : Nat} {fresh : α}
  {settlement : Settlement} (h : cache.SettlesAs ticket fresh settlement later)
include h

theorem SettlesAs.uncounted (hk : settlement = .kept) :
    later.discarded = cache.discarded ∧ later.stale = cache.stale := by
  subst hk
  cases h with
  | kept _ _ _ _ discarded stale => exact ⟨discarded, stale⟩
  | late isLate => cases isLate
  | unmoved isUnmoved => cases isUnmoved

theorem SettlesAs.counted (hk : settlement ≠ .kept) :
    later.value? = cache.value? ∧
      (ticket < cache.storedTicket →
        later.discarded = cache.discarded + 1 ∧ later.stale = cache.stale) ∧
      (¬ ticket < cache.storedTicket →
        later.discarded = cache.discarded ∧ later.stale = cache.stale + 1) := by
  cases h with
  | kept isKept => exact absurd isKept hk
  | late _ _ overtaken value _ discarded stale =>
    exact ⟨value, fun _ => ⟨discarded, stale⟩, fun hnot => absurd overtaken hnot⟩
  | unmoved _ _ latest value _ discarded stale =>
    exact ⟨value, fun hlt => absurd latest (Nat.not_le_of_lt hlt), fun _ => ⟨discarded, stale⟩⟩

/-- Where values are not known to grow, a refresh is dropped only for its number. -/
theorem SettlesAs.overtaken (hn : cache.newer? = none) (hk : settlement ≠ .kept)
    (hne : ticket ≠ cache.storedTicket) : ticket < cache.storedTicket := by
  cases h with
  | kept isKept => exact absurd isKept hk
  | late _ _ overtaken => exact overtaken
  | unmoved _ keeps latest =>
    have hnot := (not_congr (keeps_iff hn ticket fresh)).mp (Bool.eq_false_iff.mp keeps)
    omega

end TimedFlight

namespace Traffic

variable {α : Type}

/-- What befalls a refresh: another one takes its lease over, or what it has brought is stored. -/
inductive Fate where
  | robbed (ticket : Nat)
  | kept (ticket : Nat)
deriving DecidableEq

/-- What befalls refreshes in a move. -/
def fates (traffic : Traffic α) : Move α → List Fate
  | .read now =>
    match (traffic.cache.acquire now).1 with
    | .refreshing _ (some robbed) => [.robbed robbed]
    | _ => []
  | .finish index outcome =>
    match traffic.underWay[index]? with
    | none => []
    | some flight =>
      if (traffic.cache.finish flight.ticket outcome).1.settlement = .kept then
        [.kept flight.ticket]
      else []
  | .breakOff _ => []

/-- What befalls refreshes in the course of moves. -/
def history (traffic : Traffic α) : List (Move α) → List Fate
  | [] => []
  | move :: moves => traffic.fates move ++ (traffic.step move).history moves

/-- What the cache knows of the history. A refresh under way has been robbed if it is not the
latest; the highest number of those that were kept is remembered. -/
structure Recorded (history : List Fate) (traffic : Traffic α) (cache : TimedFlight α) :
    Prop where
  robbed_iff : ∀ flight ∈ traffic.underWay,
    .robbed flight.ticket ∈ history ↔ flight.ticket ≠ cache.lastTicket
  robbed_le : ∀ ticket, .robbed ticket ∈ history → ticket ≤ cache.lastTicket
  kept_le : ∀ ticket, .kept ticket ∈ history → ticket ≤ cache.storedTicket
  kept_landed : ∀ ticket, .kept ticket ∈ history →
    ticket ∈ traffic.landed.map (·.flight.ticket)
  stored_kept : cache.storedTicket = 0 ∨ .kept cache.storedTicket ∈ history

variable {timeout : Span} {newer? : Option (α → α → Bool)} {traffic after : Traffic α}
  {cache later : TimedFlight α} {history : List Fate} {index : Nat} {flight : Flight}

namespace Recorded

theorem start (timeout : Span) (newer? : Option (α → α → Bool)) :
    Recorded [] ({ cache := .timed { timeout, newer? } } : Traffic α) { timeout, newer? } where
  robbed_iff := by simp
  robbed_le := by simp
  kept_le := by simp
  kept_landed := by simp
  stored_kept := .inl rfl

variable (h : Recorded history traffic cache)
include h

theorem overtaken_iff (ticket : Nat) :
    (∃ other, .kept other ∈ history ∧ ticket < other) ↔ ticket < cache.storedTicket := by
  constructor
  · rintro ⟨other, hkept, hlt⟩
    exact Nat.lt_of_lt_of_le hlt (h.kept_le other hkept)
  · intro hlt
    rcases h.stored_kept with hzero | hkept
    · omega
    · exact ⟨cache.storedTicket, hkept, hlt⟩

/-- Refreshes may be over without anything to record. -/
theorem mono (hlast : later.lastTicket = cache.lastTicket)
    (hstored : later.storedTicket = cache.storedTicket) (hunder : after.underWay ⊆ traffic.underWay)
    (hlanded : traffic.landed ⊆ after.landed) : Recorded history after later where
  robbed_iff flight hf := by rw [hlast, h.robbed_iff flight (hunder hf)]
  robbed_le := by rw [hlast]; exact h.robbed_le
  kept_le := by rw [hstored]; exact h.kept_le
  kept_landed ticket hk := List.map_subset _ hlanded (h.kept_landed ticket hk)
  stored_kept := by rw [hstored]; exact h.stored_kept

/-- A refresh that was kept is recorded as such. -/
theorem kept {ticket : Nat} (hlast : later.lastTicket = cache.lastTicket)
    (hstored : later.storedTicket = max cache.storedTicket ticket)
    (hunder : after.underWay ⊆ traffic.underWay) (hlanded : traffic.landed ⊆ after.landed)
    (hticket : ticket ∈ after.landed.map (·.flight.ticket)) :
    Recorded (history ++ [.kept ticket]) after later := by
  have hrobbed (other : Nat) :
      Fate.robbed other ∈ history ++ [.kept ticket] ↔ .robbed other ∈ history := by
    simp
  have hkept (other : Nat) :
      Fate.kept other ∈ history ++ [.kept ticket] ↔ .kept other ∈ history ∨ other = ticket := by
    simp
  refine ⟨fun flight hf => ?_, fun other ho => ?_, fun other ho => ?_, fun other ho => ?_, ?_⟩
  · rw [hrobbed, hlast, h.robbed_iff flight (hunder hf)]
  · rw [hlast]
    exact h.robbed_le other ((hrobbed other).mp ho)
  · rw [hstored]
    rcases (hkept other).mp ho with ho | rfl
    · exact Nat.le_trans (h.kept_le other ho) (Nat.le_max_left _ _)
    · exact Nat.le_max_right _ _
  · rcases (hkept other).mp ho with ho | rfl
    · exact List.map_subset _ hlanded (h.kept_landed other ho)
    · exact hticket
  · rw [hstored, hkept]
    rcases Nat.le_total cache.storedTicket ticket with hle | hle
    · exact .inr (.inr (Nat.max_eq_right hle))
    · rw [Nat.max_eq_left hle]
      exact h.stored_kept.imp_right .inl

variable (ht : Timed timeout newer? traffic cache)
include ht

/-- A refresh that begins robs the one that holds the lease, which is the latest so far. -/
theorem begun {now : Instant} {begins : TimedFlight.Start} {started : TimedFlight α}
    (ha : cache.acquire now = some (begins, started)) :
    Recorded (history ++ (begins.robbed?.map Fate.robbed).toList) (traffic.step (.read now))
      started := by
  obtain ⟨hticket, hstarted, -⟩ := ht.begins ha
  have hrobs := ht.robs ha
  have hlast : started.lastTicket = cache.lastTicket + 1 := by rw [hstarted]
  have hstored : started.storedTicket = cache.storedTicket := by rw [hstarted]
  have hrobbed (ticket : Nat) :
      Fate.robbed ticket ∈ history ++ (begins.robbed?.map Fate.robbed).toList ↔
        .robbed ticket ∈ history ∨ ∃ holder, traffic.holder? = some holder ∧
          holder.ticket = ticket := by
    rw [hrobs]
    cases traffic.holder? <;> simp [eq_comm]
  have hkept (ticket : Nat) :
      Fate.kept ticket ∈ history ++ (begins.robbed?.map Fate.robbed).toList ↔
        .kept ticket ∈ history := by
    cases begins.robbed? <;> simp
  have hle (ticket : Nat) (hm : Fate.robbed ticket ∈
      history ++ (begins.robbed?.map Fate.robbed).toList) : ticket ≤ cache.lastTicket := by
    rcases (hrobbed ticket).mp hm with hm | ⟨holder, hh, rfl⟩
    · exact h.robbed_le ticket hm
    · exact (ht.ticket_bounds (holder_begun hh)).2
  rw [ht.step_begun ha]
  refine ⟨fun flight hf => ?_, fun ticket hm => ?_, fun ticket hm => ?_, fun ticket hm => ?_, ?_⟩
  · -- the one that was the latest so far is robbed, and the new one has the highest number
    rw [hlast]
    rcases List.mem_append.mp hf with hf | hf
    · have hbound := (ht.ticket_bounds (ht.underWay.subset hf)).2
      refine ⟨fun _ => by omega, fun _ => (hrobbed _).mpr ?_⟩
      by_cases hlatest : flight.ticket = cache.lastTicket
      · exact .inr ⟨flight, ht.holder_of_latest hf hlatest, rfl⟩
      · exact .inl ((h.robbed_iff flight hf).mpr hlatest)
    · rw [List.mem_singleton.mp hf, hticket]
      refine ⟨fun hm => ?_, fun hne => absurd rfl hne⟩
      have := hle _ hm
      omega
  · rw [hlast]
    exact Nat.le_succ_of_le (hle ticket hm)
  · rw [hstored]
    exact h.kept_le ticket ((hkept ticket).mp hm)
  · exact h.kept_landed ticket ((hkept ticket).mp hm)
  · rw [hstored, hkept]
    exact h.stored_kept

theorem finished (hf : traffic.underWay[index]? = some flight) (outcome : Except Fault α) :
    Recorded (history ++ traffic.fates (.finish index outcome))
      (traffic.step (.finish index outcome)) (cache.finish flight.ticket outcome).2 := by
  obtain ⟨-, hlast, -, -⟩ := cache.finish_leases flight.ticket outcome
  have hstep : traffic.step (.finish index outcome) = _ := step_finish hf
  have hunder : (traffic.step (.finish index outcome)).underWay ⊆ traffic.underWay := by
    rw [hstep]
    exact List.eraseIdx_subset
  have hlanded : traffic.landed ⊆ (traffic.step (.finish index outcome)).landed := by
    rw [hstep]
    exact List.subset_append_left _ _
  have hfates : traffic.fates (.finish index outcome) =
      if (cache.finish flight.ticket outcome).1 = .kept then [.kept flight.ticket] else [] := by
    simp only [fates, hf, ht.cache_eq]
    rfl
  rw [hfates]
  cases outcome with
  | error fault =>
    obtain ⟨-, hstored, -⟩ := TimedFlight.contents_eq_iff.mp
      (cache.finish_error_contents flight.ticket fault)
    rw [if_neg (by rintro ⟨⟩), List.append_nil]
    exact h.mono hlast hstored hunder hlanded
  | ok fresh =>
    have hticket : flight.ticket ∈
        (traffic.step (.finish index (.ok fresh))).landed.map (·.flight.ticket) := by
      rw [hstep]
      simp
    cases cache.finish_settlesAs flight.ticket fresh with
    | kept isKept _ _ stored =>
      rw [if_pos isKept]
      exact h.kept hlast stored hunder hlanded hticket
    | late isLate _ _ _ stored =>
      rw [isLate, if_neg (by rintro ⟨⟩), List.append_nil]
      exact h.mono hlast stored hunder hlanded
    | unmoved isUnmoved _ _ _ stored =>
      rw [isUnmoved, if_neg (by rintro ⟨⟩), List.append_nil]
      exact h.mono hlast stored hunder hlanded

/-- Every move is recorded. -/
theorem step (move : Move α) :
    ∃ later, Timed timeout newer? (traffic.step move) later ∧
      Recorded (history ++ traffic.fates move) (traffic.step move) later := by
  cases move with
  | read now =>
    cases ha : cache.acquire now with
    | none =>
      have hfates : traffic.fates (.read now) = [] := by
        simp only [fates, ht.cache_eq, RefreshCache.acquire, ha]
      rw [ht.step_contended ha, hfates, List.append_nil]
      exact ⟨cache, ht, h⟩
    | some result =>
      obtain ⟨begins, started⟩ := result
      have hfates : traffic.fates (.read now) = (begins.robbed?.map Fate.robbed).toList := by
        simp only [fates, ht.cache_eq, RefreshCache.acquire, ha]
        cases begins.robbed? <;> rfl
      rw [hfates]
      refine ⟨started, ?_, h.begun ht ha⟩
      rw [ht.step_begun ha]
      exact ht.begun ha
  | finish index outcome =>
    cases hf : traffic.underWay[index]? with
    | none =>
      have hfates : traffic.fates (.finish index outcome) = [] := by
        simp only [fates, hf]
      rw [step_finish_missing hf, hfates, List.append_nil]
      exact ⟨cache, ht, h⟩
    | some flight => exact ⟨_, ht.finished hf outcome, h.finished ht hf outcome⟩
  | breakOff index =>
    rw [fates, List.append_nil]
    cases hf : traffic.underWay[index]? with
    | none =>
      rw [step_breakOff_missing hf]
      exact ⟨cache, ht, h⟩
    | some flight =>
      refine ⟨cache, ht.brokenOff hf, h.mono rfl rfl ?_ ?_⟩
      · rw [step_breakOff hf]
        exact List.eraseIdx_subset
      · rw [step_breakOff hf]
        exact List.Subset.refl _

theorem run (moves : List (Move α)) :
    ∃ later, Timed timeout newer? (traffic.run moves) later ∧
      Recorded (history ++ traffic.history moves) (traffic.run moves) later := by
  induction moves generalizing traffic cache history with
  | nil => exact ⟨cache, ht, by rw [Traffic.history, List.append_nil]; exact h⟩
  | cons move moves ih =>
    obtain ⟨between, hbetween, hrecorded⟩ := h.step ht move
    rw [Traffic.history, ← List.append_assoc]
    exact ih hrecorded hbetween

/-- No number is stored that has not been given. -/
theorem stored_le : cache.storedTicket ≤ cache.lastTicket := by
  rcases h.stored_kept with hzero | hkept
  · omega
  · obtain ⟨landing, hl, hticket⟩ := List.mem_map.mp (h.kept_landed _ hkept)
    rw [← hticket]
    exact (ht.ticket_bounds (ht.landed landing hl).1).2

/-- A refresh under way is not one that was kept. -/
theorem ticket_ne_stored (hf : flight ∈ traffic.underWay) :
    flight.ticket ≠ cache.storedTicket := by
  have hbegun := ht.underWay.subset hf
  intro hsame
  -- what is stored has landed, and numbers are given once
  rcases h.stored_kept with hzero | hkept
  · have := (ht.ticket_bounds hbegun).1
    omega
  · obtain ⟨landing, hl, hticket⟩ := List.mem_map.mp (h.kept_landed _ hkept)
    obtain ⟨hlanded, hdown⟩ := ht.landed landing hl
    have heq : landing.flight = flight := ht.flight_eq hlanded hbegun (hticket.trans hsame.symm)
    exact hdown (heq ▸ hf)

theorem robbed_of_overtaken (hf : flight ∈ traffic.underWay)
    (hover : flight.ticket < cache.storedTicket) : .robbed flight.ticket ∈ history := by
  have hle := h.stored_le ht
  exact (h.robbed_iff flight hf).mpr (by omega)

end Recorded

/-- A refresh under way holds the lease if it is the latest. -/
theorem Timed.holds_iff (ht : Timed timeout newer? traffic cache)
    (hf : flight ∈ traffic.underWay) :
    (∃ lease, traffic.cache.lease? = some lease ∧ lease.ticket = flight.ticket) ↔
      flight.ticket = cache.lastTicket := by
  have hlease : traffic.cache.lease? = traffic.holder?.map (·.lease timeout) := by
    rw [ht.cache_eq]
    exact ht.lease
  rw [hlease]
  constructor
  · rintro ⟨lease, hl, hticket⟩
    obtain ⟨holder, hh, rfl⟩ := Option.map_eq_some_iff.mp hl
    obtain ⟨hlast, -⟩ := Option.filter_eq_some_iff.mp hh
    rw [← hticket]
    exact ((ht.getLast_iff holder).mp hlast).2
  · intro hlatest
    rw [ht.holder_of_latest hf hlatest]
    exact ⟨_, rfl, rfl⟩

/-- A refresh under way has been robbed of its lease or else holds it still. When it ends well and
is dropped, what is stored stays, and one counter is raised: that of the discarded ones if a later
refresh has been kept, and otherwise that of the stale ones. Only a refresh that has been robbed can
be behind a later one in this way, but not every one is, so that it is counted by whether it has
been robbed exactly if this comes to the same. It always does where values are not known to grow. -/
theorem dropped_refresh_counted (timeout : Span) (newer? : Option (α → α → Bool))
    (moves : List (Move α)) :
    let start : Traffic α := { cache := .timed { timeout, newer? } }
    let traffic := start.run moves
    let history := start.history moves
    ∀ index flight fresh, traffic.underWay[index]? = some flight →
      let later := traffic.step (.finish index (.ok fresh))
      let robbed := Fate.robbed flight.ticket ∈ history
      let overtaken := ∃ other, Fate.kept other ∈ history ∧ flight.ticket < other
      let dropped := (traffic.cache.finish flight.ticket (.ok fresh)).1.settlement ≠ .kept
      (robbed ↔ ¬ ∃ lease, traffic.cache.lease? = some lease ∧ lease.ticket = flight.ticket) ∧
      (overtaken → robbed) ∧
      (newer? = none → dropped → overtaken) ∧
      ∃ discarded stale, traffic.cache.dropped? = some (discarded, stale) ∧
        (¬ dropped → later.cache.dropped? = some (discarded, stale)) ∧
        (dropped → later.cache.last = traffic.cache.last ∧
          (overtaken → later.cache.dropped? = some (discarded + 1, stale)) ∧
          (¬ overtaken → later.cache.dropped? = some (discarded, stale + 1)) ∧
          ((robbed → later.cache.dropped? = some (discarded + 1, stale)) ∧
              (¬ robbed → later.cache.dropped? = some (discarded, stale + 1)) ↔
            (robbed → overtaken))) := by
  intro start traffic history index flight fresh hf later robbed overtaken dropped
  obtain ⟨cache, ht, h⟩ := (Recorded.start timeout newer?).run (timed_start timeout newer?) moves
  change Timed timeout newer? traffic cache at ht
  rw [List.nil_append] at h
  change Recorded history traffic cache at h
  have hunder : flight ∈ traffic.underWay := List.mem_of_getElem? hf
  have hover : overtaken ↔ flight.ticket < cache.storedTicket := h.overtaken_iff flight.ticket
  have hrobbed : overtaken → robbed := fun ho => h.robbed_of_overtaken ht hunder (hover.mp ho)
  have hsettles := cache.finish_settlesAs flight.ticket fresh
  have hdropped : dropped ↔ (cache.finish flight.ticket (.ok fresh)).1 ≠ .kept := by
    simp only [dropped, ht.cache_eq]
    rfl
  have hlater : later.cache = .timed (cache.finish flight.ticket (.ok fresh)).2 :=
    (ht.finished hf (.ok fresh)).cache_eq
  have hcounters (discarded stale : Nat)
      (hc : (cache.finish flight.ticket (.ok fresh)).2.discarded = discarded ∧
        (cache.finish flight.ticket (.ok fresh)).2.stale = stale) :
      later.cache.dropped? = some (discarded, stale) := by
    rw [hlater, ← hc.1, ← hc.2]
    rfl
  refine ⟨?_, hrobbed, fun hn hd => ?_, cache.discarded, cache.stale, ?_, fun hkept => ?_,
    fun hd => ?_⟩
  · rw [ht.holds_iff hunder]
    exact h.robbed_iff flight hunder
  · have hnone : cache.newer? = none := ht.newer_eq.trans hn
    exact hover.mpr (hsettles.overtaken hnone (hdropped.mp hd) (h.ticket_ne_stored ht hunder))
  · rw [ht.cache_eq]
    rfl
  · exact hcounters _ _ (hsettles.uncounted (not_not.mp fun hne => hkept (hdropped.mpr hne)))
  · obtain ⟨hvalue, hlate, hstale⟩ := hsettles.counted (hdropped.mp hd)
    have hdiscards : overtaken → later.cache.dropped? = some (cache.discarded + 1, cache.stale) :=
      fun ho => hcounters _ _ (hlate (hover.mp ho))
    have hstales : ¬ overtaken → later.cache.dropped? = some (cache.discarded, cache.stale + 1) :=
      fun ho => hcounters _ _ (hstale fun hlt => ho (hover.mpr hlt))
    refine ⟨?_, hdiscards, hstales, fun hclaimed hr => ?_, fun hsame => ⟨?_, ?_⟩⟩
    · rw [hlater, ht.cache_eq]
      exact hvalue
    · -- one refresh raises one counter
      by_contra hnot
      have hboth := (hclaimed.1 hr).symm.trans (hstales hnot)
      simp only [Option.some.injEq, Prod.mk.injEq] at hboth
      omega
    · exact fun hr => hdiscards (hsame hr)
    · exact fun hr => hstales fun ho => hr (hrobbed ho)

/-- A refresh is taken over, and the one that takes it over fails. When it ends, late and with a
smaller value, it counts as stale, for nothing later has been stored. -/
theorem robbed_refresh_counted_as_stale :
    let timeout : Span := ⟨1_000_000_000, by decide⟩
    let late : Instant := ⟨2_000_000_000, by decide, by decide⟩
    let newer? : Option (Nat → Nat → Bool) := some fun fresh current => compare fresh current == .gt
    let moves : List (Move Nat) :=
      [.read .epoch, .finish 0 (.ok 7), .read .epoch, .read late,
        .finish 1 (.error (.discoveryFailed "replica down"))]
    let start : Traffic Nat := { cache := .timed { timeout, newer? } }
    let traffic := start.run moves
    Fate.robbed 2 ∈ start.history moves ∧ traffic.underWay.map (·.ticket) = [2] ∧
      traffic.cache.dropped? = some (0, 0) ∧
      (traffic.step (.finish 0 (.ok 5))).cache.dropped? = some (0, 1) := by
  intro timeout late newer? moves start traffic
  have hhistory : start.history moves = [.kept 1, .robbed 2] := by decide +kernel
  have hunder : traffic.underWay = [⟨2, .epoch⟩] := by decide +kernel
  have hbefore : traffic.cache.dropped? = some (0, 0) := by decide +kernel
  have hf : traffic.underWay[0]? = some ⟨2, .epoch⟩ := by rw [hunder]; rfl
  obtain ⟨-, -, -, discarded, stale, hcounters, -, hdropped⟩ :=
    dropped_refresh_counted timeout newer? moves 0 ⟨2, .epoch⟩ 5 hf
  -- the third refresh has the highest number, but it was not kept
  obtain ⟨-, -, hstale, -⟩ := hdropped (by decide +kernel)
  have hnot : ¬ ∃ other, Fate.kept other ∈ start.history moves ∧ 2 < other := by
    rw [hhistory]
    simp
  obtain ⟨rfl, rfl⟩ := Prod.mk.inj (Option.some.inj (hbefore.symm.trans hcounters))
  refine ⟨?_, by rw [hunder]; rfl, hbefore, hstale hnot⟩
  rw [hhistory]
  simp

end Traffic

end ReplicaRouting
