import ReplicaRouting.Proofs.Cache.GrowingValues
import ReplicaRouting.Proofs.Cache.Lockstep

/-!
A cache with one refresh at a time. A read begins a refresh exactly when none is under way; all
others get what the latest refresh that ended well has brought. However a refresh ends, the next
read begins another one.
-/

namespace ReplicaRouting

namespace Traffic

variable {α : Type}

/-- At most one refresh is under way, and the cache is busy as long as one is. What it stores is
what the latest refresh that ended well has brought. -/
structure OneAtATime (traffic : Traffic α) : Prop where
  cache_eq : traffic.cache =
    .single { value? := traffic.values.getLast?, busy := !traffic.underWay.isEmpty }
  alone : traffic.underWay.length ≤ 1

variable {traffic : Traffic α} {index : Nat} {flight : Flight}

/-- A move that ends a refresh without a value. -/
inductive Fails (index : Nat) : Move α → Prop where
  | error (fault : Fault) : Fails index (.finish index (.error fault))
  | brokenOff : Fails index (.breakOff index)

namespace OneAtATime

theorem of_free (hcache : traffic.cache = .single { value? := traffic.values.getLast? })
    (hfree : traffic.underWay = []) : OneAtATime traffic := by
  refine ⟨?_, ?_⟩
  · rw [hcache, hfree]
    rfl
  · rw [hfree]
    exact Nat.zero_le _

variable (h : OneAtATime traffic)
include h

theorem last_eq : traffic.cache.last = traffic.values.getLast? := by
  rw [h.cache_eq]
  rfl

/-- The one that is under way is the only one. -/
theorem eraseIdx_eq (hf : traffic.underWay[index]? = some flight) :
    traffic.underWay.eraseIdx index = [] := by
  obtain ⟨hlt, -⟩ := List.getElem?_eq_some_iff.mp hf
  have halone := h.alone
  rw [← List.length_eq_zero_iff, List.length_eraseIdx_of_lt hlt]
  omega

theorem acquire_free (hfree : traffic.underWay = []) (now : Instant) :
    traffic.cache.acquire now =
      (.refreshing 0 none, .single { value? := traffic.values.getLast?, busy := true }) := by
  rw [h.cache_eq, hfree]
  rfl

theorem acquire_busy (hbusy : traffic.underWay ≠ []) (now : Instant) :
    traffic.cache.acquire now = (.contended traffic.values.getLast?, traffic.cache) := by
  have hset : (!traffic.underWay.isEmpty) = true := by simp [hbusy]
  rw [h.cache_eq, hset]
  rfl

theorem response_read_iff (now : Instant) :
    traffic.response (.read now) = some .supplierCalled ↔ traffic.underWay = [] := by
  by_cases hfree : traffic.underWay = []
  · exact ⟨fun _ => hfree, fun _ => (response_refreshing (h.acquire_free hfree now)).1⟩
  · rw [(response_contended (h.acquire_busy hfree now)).1]
    exact ⟨by rintro ⟨⟩, fun he => absurd he hfree⟩

/-- A refresh that ends well stores what it has brought, and yields it. -/
theorem finish_ok (hf : traffic.underWay[index]? = some flight) (fresh : α) :
    let later := traffic.step (.finish index (.ok fresh))
    OneAtATime later ∧ later.underWay = [] ∧ later.cache.last = some fresh ∧
      traffic.response (.finish index (.ok fresh)) = some (.answered (.ok (some fresh))) := by
  intro later
  -- it was alone, so that the cache is free again
  have hcache : later.cache = .single { value? := some fresh } := by
    simp only [later, step_finish hf, h.cache_eq]
    rfl
  have hfree : later.underWay = [] := by
    simp only [later, step_finish hf, h.eraseIdx_eq hf]
  have hlanded : later.landed = traffic.landed ++ [⟨flight, .ok fresh⟩] := by
    simp only [later, step_finish hf]
  have hvalues : later.values = traffic.values ++ [fresh] := values_of_landed hlanded
  refine ⟨.of_free ?_ hfree, hfree, ?_, ?_⟩
  · rw [hcache, hvalues, List.getLast?_concat]
  · rw [hcache]
    rfl
  · rw [response_finish hf, h.cache_eq]
    rfl

/-- A refresh that fails leaves what is stored. -/
theorem finish_error (hf : traffic.underWay[index]? = some flight) (fault : Fault) :
    let later := traffic.step (.finish index (.error fault))
    OneAtATime later ∧ later.underWay = [] ∧ later.cache.last = traffic.cache.last ∧
      traffic.response (.finish index (.error fault)) = some (.answered (.error fault)) := by
  intro later
  have hcache : later.cache = .single { value? := traffic.values.getLast? } := by
    simp only [later, step_finish hf, h.cache_eq]
    rfl
  have hfree : later.underWay = [] := by
    simp only [later, step_finish hf, h.eraseIdx_eq hf]
  have hlanded : later.landed = traffic.landed ++ [⟨flight, .error fault⟩] := by
    simp only [later, step_finish hf]
  have hvalues : later.values = traffic.values :=
    (values_of_landed hlanded).trans (List.append_nil _)
  refine ⟨.of_free ?_ hfree, hfree, ?_, ?_⟩
  · rw [hcache, hvalues]
  · rw [hcache, h.last_eq]
    rfl
  · rw [response_finish hf, h.cache_eq]
    rfl

theorem brokenOff (hf : traffic.underWay[index]? = some flight) :
    let later := traffic.step (.breakOff index)
    OneAtATime later ∧ later.underWay = [] ∧ later.cache.last = traffic.cache.last := by
  intro later
  have hcache : later.cache = .single { value? := traffic.values.getLast? } := by
    simp only [later, step_breakOff hf, h.cache_eq]
    rfl
  have hfree : later.underWay = [] := by
    simp only [later, step_breakOff hf, h.eraseIdx_eq hf]
  have hvalues : later.values = traffic.values := by
    simp only [later, step_breakOff hf, values]
  refine ⟨.of_free ?_ hfree, hfree, ?_⟩
  · rw [hcache, hvalues]
  · rw [hcache, h.last_eq]
    rfl

/-- After a refresh without a value the next read begins another one. -/
theorem fails {move : Move α} (hf : traffic.underWay[index]? = some flight)
    (hm : Fails index move) :
    (traffic.step move).cache.last = traffic.cache.last ∧
      ∀ now, (traffic.step move).response (.read now) = some .supplierCalled := by
  cases hm with
  | error fault =>
    obtain ⟨hlater, hfree, hlast, -⟩ := h.finish_error hf fault
    exact ⟨hlast, fun now => (hlater.response_read_iff now).mpr hfree⟩
  | brokenOff =>
    obtain ⟨hlater, hfree, hlast⟩ := h.brokenOff hf
    exact ⟨hlast, fun now => (hlater.response_read_iff now).mpr hfree⟩

theorem read (now : Instant) : OneAtATime (traffic.step (.read now)) := by
  by_cases hfree : traffic.underWay = []
  · rw [(response_refreshing (h.acquire_free hfree now)).2]
    refine ⟨?_, ?_⟩
    · simp only [hfree]
      rfl
    · simp [hfree]
  · rw [(response_contended (h.acquire_busy hfree now)).2]
    exact h

theorem step (move : Move α) : OneAtATime (traffic.step move) := by
  -- a move about a refresh that is not under way changes nothing
  cases move with
  | read now => exact h.read now
  | finish index outcome =>
    cases hf : traffic.underWay[index]? with
    | none =>
      rw [step_finish_missing hf]
      exact h
    | some flight =>
      cases outcome with
      | ok fresh => exact (h.finish_ok hf fresh).1
      | error fault => exact (h.finish_error hf fault).1
  | breakOff index =>
    cases hf : traffic.underWay[index]? with
    | none =>
      rw [step_breakOff_missing hf]
      exact h
    | some flight => exact (h.brokenOff hf).1

theorem run (moves : List (Move α)) : OneAtATime (traffic.run moves) := by
  induction moves generalizing traffic with
  | nil => exact h
  | cons move moves ih => exact ih (h.step move)

/-- A reader runs its supplier if no refresh is under way, and is answered at once otherwise. -/
theorem get_eq {σ q r : Type} {shared : SharedCache σ α} {world : σ}
    (hworld : shared.cell.get world = traffic.cache) (supplier : Consult σ q r (Except Fault α)) :
    let begun := shared.cell.set (traffic.step (.read (shared.now world))).cache world
    (traffic.underWay = [] → shared.get supplier world =
      (supplier >>= fun outcome => Consult.act (shared.finish 0 outcome)) begun) ∧
    (traffic.underWay ≠ [] → shared.get supplier world =
      .answered (.ok traffic.values.getLast?) begun) := by
  intro begun
  constructor
  · -- the supplier runs between the two visits to the cell
    intro hfree
    have hacquire := h.acquire_free hfree (shared.now world)
    have hbegun : shared.acquire world = (.refreshing 0 none, begun) := by
      simp only [SharedCache.acquire, begun, hworld, hacquire, (response_refreshing hacquire).2]
    exact SharedCache.get_of_begun hbegun supplier
  · intro hbusy
    have hacquire := h.acquire_busy hbusy (shared.now world)
    have hstep := (response_contended hacquire).2
    rw [← hworld] at hacquire
    simp only [begun, hstep]
    rw [SharedCache.get_of_contended hacquire supplier, hworld]

end OneAtATime

/-- In every course of reads and refreshes at most one refresh is under way. A read has its supplier
called exactly when there is none; otherwise it gets at once what the latest refresh that ended well
has brought, or nothing if there is none, and nothing else changes. A refresh that ends well stores
what it has brought and yields it. One that fails or is broken off leaves what is stored, and the
next read begins another one. -/
theorem one_refresh_at_a_time {σ q r : Type} (shared : SharedCache σ α)
    (supplier : Consult σ q r (Except Fault α)) (moves : List (Move α)) :
    let traffic := ({ cache := .single {} } : Traffic α).run moves
    traffic.underWay.length ≤ 1 ∧
    (∀ now, traffic.response (.read now) = some .supplierCalled ↔ traffic.underWay = []) ∧
    (traffic.underWay ≠ [] → ∀ now,
      traffic.response (.read now) = some (.answered (.ok traffic.values.getLast?)) ∧
        traffic.step (.read now) = traffic) ∧
    (∀ world, shared.cell.get world = traffic.cache →
      let begun := shared.cell.set (traffic.step (.read (shared.now world))).cache world
      (traffic.underWay = [] → shared.get supplier world =
        (supplier >>= fun outcome => Consult.act (shared.finish 0 outcome)) begun) ∧
      (traffic.underWay ≠ [] → shared.get supplier world =
        .answered (.ok traffic.values.getLast?) begun)) ∧
    ∀ index flight, traffic.underWay[index]? = some flight →
      (∀ fresh, traffic.response (.finish index (.ok fresh)) =
          some (.answered (.ok (some fresh))) ∧
        (traffic.step (.finish index (.ok fresh))).cache.last = some fresh) ∧
      (∀ fault, traffic.response (.finish index (.error fault)) =
        some (.answered (.error fault))) ∧
      ∀ move, Fails index move →
        (traffic.step move).cache.last = traffic.cache.last ∧
          ∀ now, (traffic.step move).response (.read now) = some .supplierCalled := by
  intro traffic
  have hstart : OneAtATime ({ cache := .single {} } : Traffic α) := .of_free rfl rfl
  have h : OneAtATime traffic := hstart.run moves
  refine ⟨h.alone, h.response_read_iff, fun hbusy now => ?_, fun world hworld => ?_,
    fun index flight hf => ⟨?_, ?_, fun move => h.fails hf⟩⟩
  · exact response_contended (h.acquire_busy hbusy now)
  · exact h.get_eq hworld supplier
  · intro fresh
    obtain ⟨-, -, hlast, hresponse⟩ := h.finish_ok hf fresh
    exact ⟨hresponse, hlast⟩
  · intro fault
    obtain ⟨-, -, -, hresponse⟩ := h.finish_error hf fault
    exact hresponse

/-- While a second refresh is under way a reader gets what the first one has brought, without a
question to the one who supplies the values. Once the second one is broken off, that is still stored
and the next read begins a refresh. -/
theorem contended_reader_gets_last_value :
    let traffic := ({ cache := .single {} } : Traffic Nat).run
      [.read .epoch, .finish 0 (.ok 7), .read .epoch]
    let shared : SharedCache (RefreshCache Nat) Nat :=
      { cell := ⟨id, fun cache _ => cache⟩, now := fun _ => .epoch, log := fun _ => id }
    let supplier : Consult (RefreshCache Nat) Unit (Except Fault Nat) (Except Fault Nat) := .ask ()
    shared.get supplier traffic.cache = .answered (.ok (some 7)) traffic.cache ∧
      (traffic.step (.breakOff 0)).cache.last = some 7 ∧
      (traffic.step (.breakOff 0)).response (.read .epoch) = some .supplierCalled := by
  intro traffic shared supplier
  obtain ⟨-, -, -, hget, hends⟩ := one_refresh_at_a_time shared supplier
    [.read .epoch, .finish 0 (.ok 7), .read .epoch]
  have hunderWay : traffic.underWay = [⟨0, .epoch⟩] := rfl
  have hbusy : traffic.underWay ≠ [] := by
    rw [hunderWay]
    exact List.cons_ne_nil _ _
  have hanswered := (hget traffic.cache rfl).2 hbusy
  obtain ⟨-, -, hfails⟩ := hends 0 ⟨0, .epoch⟩ rfl
  obtain ⟨hlast, hnext⟩ := hfails (.breakOff 0) .brokenOff
  exact ⟨hanswered, hlast, hnext .epoch⟩

end Traffic

end ReplicaRouting
