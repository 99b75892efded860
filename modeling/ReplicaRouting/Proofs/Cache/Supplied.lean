import ReplicaRouting.Cache.Refresh
import ReplicaRouting.Proofs.Cache.Endings
import ReplicaRouting.Proofs.Pausing

/-!
What a refreshing cache can answer. Of whatever kind it is, it makes no value up: what it yields has
been brought by a refresh, this one or another.
-/

namespace ReplicaRouting

namespace RefreshCache

variable {α : Type} (cache : RefreshCache α)

/-- Nothing is stored by beginning a refresh, and a reader that begins none gets what is stored. -/
theorem acquire_last (now : Instant) :
    (cache.acquire now).2.last = cache.last ∧
      ∀ last, (cache.acquire now).1 = .contended last → last = cache.last := by
  cases cache with
  | passThrough => exact ⟨rfl, nofun⟩
  | single cache =>
    simp only [acquire]
    cases ha : cache.acquire with
    | none =>
      refine ⟨rfl, ?_⟩
      rintro last ⟨⟩
      rfl
    | some started =>
      obtain rfl : { cache with busy := true } = started := by
        unfold SingleFlight.acquire at ha
        split at ha <;> cases ha
        rfl
      exact ⟨rfl, nofun⟩
  | timed cache =>
    simp only [acquire]
    cases ha : cache.acquire now with
    | none =>
      refine ⟨rfl, ?_⟩
      rintro last ⟨⟩
      rfl
    | some begun =>
      have hvalue : begun.2.value? = cache.value? := by
        unfold TimedFlight.acquire at ha
        dsimp only at ha
        split at ha
        · cases ha
          rfl
        · split at ha <;> cases ha
          rfl
      exact ⟨hvalue, nofun⟩

theorem breakOff_last : cache.breakOff.last = cache.last := by
  cases cache <;> rfl

/-- A value that is stored when a refresh ends was stored before or has been brought by it. -/
theorem finish_last (ticket : Nat) (outcome : Except Fault α) :
    (cache.finish ticket outcome).2.last = cache.last ∨
      ∃ fresh, outcome = .ok fresh ∧ (cache.finish ticket outcome).2.last = some fresh := by
  cases cache with
  | passThrough => exact .inl rfl
  | single cache =>
    cases outcome with
    | error fault => exact .inl rfl
    | ok fresh => exact .inr ⟨fresh, rfl, rfl⟩
  | timed cache =>
    cases outcome with
    | error fault =>
      obtain ⟨lease?, hr⟩ := cache.release_eq ticket
      left
      change (cache.release ticket).value? = cache.value?
      rw [hr]
    | ok fresh =>
      rcases cache.finish_value ticket fresh with hsame | hfresh
      · exact .inl hsame
      · exact .inr ⟨fresh, rfl, hfresh⟩

/-- The reader whose refresh ends gets the value that it has brought, or one that is stored then. -/
theorem finish_answer (ticket : Nat) (outcome : Except Fault α) (value : α)
    (h : (cache.finish ticket outcome).1.answer = .ok (some value)) :
    outcome = .ok value ∨ (cache.finish ticket outcome).2.last = some value := by
  cases outcome with
  | error fault => cases cache <;> cases h
  | ok fresh =>
    cases cache with
    | passThrough =>
      cases h
      exact .inl rfl
    | single cache => exact .inr (Except.ok.inj h)
    | timed cache => exact .inr (Except.ok.inj h)

end RefreshCache

namespace SharedCache

variable {σ q r α : Type} {cache : SharedCache σ α} {regime : Regime σ} {P : α → σ → Prop}

/-- A reader that begins a refresh asks for a value and ends the refresh with it. -/
theorem get_of_begun {world begun : σ} {ticket : Nat} {robbed? : Option Nat}
    (h : cache.acquire world = (.refreshing ticket robbed?, begun))
    (supplier : Consult σ q r (Except Fault α)) :
    cache.get supplier world =
      (supplier >>= fun outcome => Consult.act (cache.finish ticket outcome)) begun := by
  have hacquired : (Consult.act cache.acquire : Consult σ q r _) world =
      .answered (.refreshing ticket robbed?) begun := by
    rw [Consult.act, h]
  exact Consult.bind_of_answered hacquired _

/-- It does so before it goes on. -/
theorem get_of_acquired {β : Type} {world begun : σ} {ticket : Nat} {robbed? : Option Nat}
    (h : cache.acquire world = (.refreshing ticket robbed?, begun))
    (supplier : Consult σ q r (Except Fault α))
    (next : Except Fault (Option α) → Consult σ q r β) :
    (cache.get supplier >>= next) world =
      (supplier >>= fun outcome => Consult.act (cache.finish ticket outcome) >>= next) begun := by
  rw [← Consult.bind_assoc]
  exact congrArg (Inquiry.bind · next) (get_of_begun h supplier)

/-- A cache in a world under a rule, all of whose values are true of the world. -/
structure Governed (cache : SharedCache σ α) (regime : Regime σ) (P : α → σ → Prop) : Prop where
  lasting : regime.Lasting P
  stored : ∀ world, regime.holds world → ∀ value, (cache.cell.get world).last = some value →
    P value world
  put : ∀ world next, regime.holds world → (∀ value, next.last = some value → P value world) →
    regime.does world (cache.cell.set next world) ∧ regime.holds (cache.cell.set next world)
  noted : ∀ notice world, regime.holds world →
    regime.does world (cache.log notice world) ∧ regime.holds (cache.log notice world)

namespace Governed

variable (h : Governed cache regime P)
include h

/-- To put something true into the cache, with a notice or without one. -/
theorem put_noted {world : σ} {next : RefreshCache α} (hw : regime.holds world)
    (hn : ∀ value, next.last = some value → P value world) (notice : Notice) :
    let later := cache.log notice (cache.cell.set next world)
    regime.does world later ∧ regime.holds later := by
  obtain ⟨hd, hh⟩ := h.put world next hw hn
  obtain ⟨hd', hh'⟩ := h.noted notice _ hh
  exact ⟨regime.does_trans hd hd', hh'⟩

theorem acquire_upholds :
    Consult.Upholds regime (Consult.act cache.acquire : Consult σ q r (RefreshCache.Access α))
      fun access world => ∀ value, access = .contended (some value) → P value world := by
  apply Consult.upholds_act
  intro world hw
  obtain ⟨hlast, hcontended⟩ := (cache.cell.get world).acquire_last (cache.now world)
  unfold SharedCache.acquire
  generalize (cache.cell.get world).acquire (cache.now world) = acquired at *
  obtain ⟨access, next⟩ := acquired
  have hstored : ∀ value, next.last = some value → P value world := by
    intro value hv
    exact h.stored world hw value (hlast ▸ hv)
  obtain ⟨hd, hh⟩ := h.put world next hw hstored
  cases access with
  | contended last =>
    refine ⟨hd, hh, ?_⟩
    rintro value ⟨⟩
    -- what is answered without a refresh was stored before
    have hvalue : P value world := h.stored world hw value (hcontended _ rfl).symm
    exact h.lasting value _ _ (regime.happens_of_does hd) hvalue
  | refreshing ticket robbed? =>
    cases robbed? with
    | none => exact ⟨hd, hh, nofun⟩
    | some robbed =>
      obtain ⟨hd', hh'⟩ := h.put_noted hw hstored (.leaseTakenOver robbed)
      exact ⟨hd', hh', nofun⟩

theorem finish_upholds (ticket : Nat) (outcome : Except Fault α) {world : σ}
    (hw : regime.holds world) (ho : ∀ value, outcome = .ok value → P value world) :
    regime.does world (cache.finish ticket outcome world).2 ∧
      regime.holds (cache.finish ticket outcome world).2 ∧
      ∀ value, (cache.finish ticket outcome world).1 = .ok (some value) →
        P value (cache.finish ticket outcome world).2 := by
  have hlast := (cache.cell.get world).finish_last ticket outcome
  have hanswer := (cache.cell.get world).finish_answer ticket outcome
  unfold SharedCache.finish
  generalize (cache.cell.get world).finish ticket outcome = finished at *
  obtain ⟨ending, next⟩ := finished
  have hstored : ∀ value, next.last = some value → P value world := by
    intro value hv
    rcases hlast with hsame | ⟨fresh, hfresh, hnext⟩
    · exact h.stored world hw value (hsame ▸ hv)
    · cases hnext.symm.trans hv
      exact ho value hfresh
  -- a notice may still be written before the reader has its answer
  have hgets : ∀ later, regime.does world later → ∀ value, ending.answer = .ok (some value) →
      P value later := by
    intro later hd value hv
    apply h.lasting value world later (regime.happens_of_does hd)
    rcases hanswer value hv with hfresh | hnext
    · exact ho value hfresh
    · exact hstored value hnext
  obtain ⟨hd, hh⟩ := h.put world next hw hstored
  dsimp only
  cases ending.settlement with
  | kept | failed => exact ⟨hd, hh, hgets _ hd⟩
  | late stored =>
    obtain ⟨hd', hh'⟩ := h.put_noted hw hstored (.lateRefresh ticket stored)
    exact ⟨hd', hh', hgets _ hd'⟩
  | unmoved =>
    obtain ⟨hd', hh'⟩ := h.put_noted hw hstored (.unmovedRefresh ticket)
    exact ⟨hd', hh', hgets _ hd'⟩

/-- If what the refresh brings is true of the world, so is what the reader gets. -/
theorem get_upholds {supplier : Consult σ q r (Except Fault α)}
    (hs : supplier.Upholds regime fun outcome world =>
      ∀ value, outcome = .ok value → P value world) :
    (cache.get supplier).Upholds regime fun answer world =>
      ∀ value, answer = .ok (some value) → P value world := by
  apply h.acquire_upholds.bind
  intro access world hw ha
  cases access with
  | contended last =>
    refine .answered (regime.does_refl world) hw ?_
    rintro value ⟨⟩
    exact ha value rfl
  | refreshing ticket robbed? =>
    apply (hs world hw).bind
    intro outcome later hl ho
    obtain ⟨hd, hh, hp⟩ := h.finish_upholds ticket outcome hl ho
    exact .answered hd hh hp

end Governed

end SharedCache

end ReplicaRouting
