import ReplicaRouting.Proofs.Cache.LatestRefresh

/-!
A cache with leases beside one without. As long as nobody reads after the deadline of a lease that
is still held, leases make no difference: what is seen of the one cache is seen of the other.
-/

namespace ReplicaRouting

namespace Traffic

variable {α : Type}

/-- What the caller of a cache gets to see: its supplier is called, or it is answered. -/
inductive Response (α : Type) where
  | supplierCalled
  | answered (answer : Except Fault (Option α))

/-- What is seen of a move. Of a refresh that is broken off, or that is not there, nothing is. -/
def response (traffic : Traffic α) : Move α → Option (Response α)
  | .read now =>
    match (traffic.cache.acquire now).1 with
    | .contended last => some (.answered (.ok last))
    | .refreshing _ _ => some .supplierCalled
  | .finish index outcome =>
    traffic.underWay[index]?.map fun flight =>
      .answered (traffic.cache.finish flight.ticket outcome).1.answer
  | .breakOff _ => none

/-- What is seen of each of the moves, and what is stored after it. -/
def transcript (traffic : Traffic α) : List (Move α) → List (Option (Response α) × Option α)
  | [] => []
  | move :: moves =>
    (traffic.response move, (traffic.step move).cache.last) :: (traffic.step move).transcript moves

/-- A read is not after the deadline of a lease that is held, and no refresh is broken off. -/
def OnTime (traffic : Traffic α) : Move α → Prop
  | .read now => ∀ lease ∈ traffic.cache.lease?, now ≤ lease.deadline
  | .finish _ _ => True
  | .breakOff _ => False

/-- Every move is on time when it is made. -/
def Punctual (traffic : Traffic α) : List (Move α) → Prop
  | [] => True
  | move :: moves => traffic.OnTime move ∧ (traffic.step move).Punctual moves

instance (traffic : Traffic α) : (move : Move α) → Decidable (traffic.OnTime move)
  | .read now => inferInstanceAs (Decidable (∀ lease ∈ traffic.cache.lease?, now ≤ lease.deadline))
  | .finish _ _ => inferInstanceAs (Decidable True)
  | .breakOff _ => inferInstanceAs (Decidable False)

instance decidablePunctual (traffic : Traffic α) :
    (moves : List (Move α)) → Decidable (traffic.Punctual moves)
  | [] => inferInstanceAs (Decidable True)
  | move :: moves =>
    have := decidablePunctual (traffic.step move) moves
    inferInstanceAs (Decidable (traffic.OnTime move ∧ (traffic.step move).Punctual moves))

variable {traffic : Traffic α} {now : Instant} {index : Nat} {outcome : Except Fault α}

theorem response_refreshing {ticket : Nat} {robbed? : Option Nat} {cache : RefreshCache α}
    (h : traffic.cache.acquire now = (.refreshing ticket robbed?, cache)) :
    traffic.response (.read now) = some .supplierCalled ∧
      traffic.step (.read now) =
        { traffic with
          cache
          begun := traffic.begun ++ [⟨ticket, now⟩]
          underWay := traffic.underWay ++ [⟨ticket, now⟩] } := by
  simp only [response, step, h, and_self]

theorem response_contended {last : Option α}
    (h : traffic.cache.acquire now = (.contended last, traffic.cache)) :
    traffic.response (.read now) = some (.answered (.ok last)) ∧
      traffic.step (.read now) = traffic := by
  simp only [response, step, h, and_self]

theorem response_missing (h : traffic.underWay[index]? = none) (outcome : Except Fault α) :
    traffic.response (.finish index outcome) = none ∧
      traffic.step (.finish index outcome) = traffic := by
  exact ⟨by simp only [response, h, Option.map_none], step_finish_missing h outcome⟩

theorem response_finish {flight : Flight} (h : traffic.underWay[index]? = some flight) :
    traffic.response (.finish index outcome) =
      some (.answered (traffic.cache.finish flight.ticket outcome).1.answer) := by
  simp only [response, h, Option.map_some]

/-- A cache with leases and one without, in step: they store the same, nothing has been dropped, and
the refresh under way, if there is one, is the same and holds the lease. -/
structure Abreast (timeout : Span) (leased plain : Traffic α) (timed : TimedFlight α) : Prop where
  ordered : Timed timeout none leased timed
  latest : KeepsLatest leased timed
  undropped : leased.cache.dropped? = some (0, 0)
  plain_eq : plain.cache =
    .single { value? := leased.cache.last, busy := leased.holder?.isSome }
  underWay : leased.underWay = leased.holder?.toList
  alongside : plain.underWay.map (·.start) = leased.underWay.map (·.start)

namespace Abreast

variable {timeout : Span} {leased plain : Traffic α} {timed : TimedFlight α}
  (h : Abreast timeout leased plain timed)
include h

/-- Where no lease is held, a read begins a refresh in either cache. -/
theorem read_free (hfree : leased.holder? = none) (now : Instant) :
    leased.response (.read now) = plain.response (.read now) ∧
      ∃ later, Abreast timeout (leased.step (.read now)) (plain.step (.read now)) later := by
  have hleased : ∃ started, leased.cache.acquire now =
      (.refreshing (timed.lastTicket + 1) none, .timed started) := by
    have hacquire := h.ordered.acquire_eq now
    rw [hfree] at hacquire
    exact ⟨_, by rw [h.ordered.cache_eq, RefreshCache.acquire, hacquire]⟩
  have hplain : plain.cache.acquire now =
      (.refreshing 0 none, .single { value? := leased.cache.last, busy := true }) := by
    rw [h.plain_eq, hfree]
    rfl
  obtain ⟨started, hleased⟩ := hleased
  obtain ⟨hresponse, hstep⟩ := response_refreshing hleased
  obtain ⟨hresponse', hstep'⟩ := response_refreshing hplain
  refine ⟨hresponse.trans hresponse'.symm, ?_⟩
  obtain ⟨later, hordered, hadvances⟩ := h.ordered.stepped (.read now)
  obtain ⟨hlast, hdropped⟩ : (leased.step (.read now)).cache.last = leased.cache.last ∧
      (leased.step (.read now)).cache.dropped? = leased.cache.dropped? :=
    h.ordered.keeps_contents (by simp)
  have hunderWay : (leased.step (.read now)).underWay = [⟨timed.lastTicket + 1, now⟩] := by
    rw [hstep, h.underWay, hfree]
    rfl
  -- the refresh that has just begun is the latest, so that the lease is its own
  have hholder : (leased.step (.read now)).holder? = some ⟨timed.lastTicket + 1, now⟩ := by
    apply hordered.holder_of_latest
    · rw [hunderWay]
      exact List.mem_singleton.mpr rfl
    · rw [← hordered.length_begun, hstep, List.length_append, h.ordered.length_begun]
      rfl
  refine ⟨later, hordered, h.latest.advances h.ordered hadvances, hdropped.trans h.undropped,
    ?_, ?_, ?_⟩
  · rw [hstep', hlast, hholder]
    rfl
  · rw [hunderWay, hholder]
    rfl
  · have hempty : plain.underWay.map (·.start) = [] := by
      rw [h.alongside, h.underWay, hfree]
      rfl
    rw [hunderWay, hstep', List.map_append, hempty]
    rfl

/-- Where a lease is held, a read that is on time gets the stored value from either cache. -/
theorem read_held {flight : Flight} (hheld : leased.holder? = some flight) {now : Instant}
    (hnow : leased.OnTime (.read now)) :
    leased.response (.read now) = plain.response (.read now) ∧
      leased.step (.read now) = leased ∧ plain.step (.read now) = plain := by
  have hlease : leased.cache.lease? = some (flight.lease timeout) := by
    calc leased.cache.lease? = timed.lease? := by rw [h.ordered.cache_eq]; rfl
      _ = some (flight.lease timeout) := by rw [h.ordered.lease, hheld]; rfl
  have hleased : leased.cache.acquire now = (.contended leased.cache.last, leased.cache) :=
    RefreshCache.acquire_within hlease (hnow _ hlease)
  have hplain : plain.cache.acquire now = (.contended leased.cache.last, plain.cache) := by
    rw [h.plain_eq, hheld]
    rfl
  obtain ⟨hresponse, hstep⟩ := response_contended hleased
  obtain ⟨hresponse', hstep'⟩ := response_contended hplain
  exact ⟨hresponse.trans hresponse'.symm, hstep, hstep'⟩

/-- No other refresh has ended well that is later than the holder of the lease. -/
theorem not_overtaken {flight : Flight} (hheld : leased.holder? = some flight) :
    ¬ ∃ other value, ⟨other, .ok value⟩ ∈ leased.landed ∧ flight.ticket < other.ticket := by
  rintro ⟨other, value, hlanded, hlater⟩
  obtain ⟨hlast, -⟩ := Option.filter_eq_some_iff.mp hheld
  have hlatest := ((h.ordered.getLast_iff flight).mp hlast).2
  have hbound : other.ticket ≤ timed.lastTicket :=
    (h.ordered.ticket_bounds (h.ordered.landed _ hlanded).1).2
  omega

/-- What the holder of the lease brings is stored by either cache, and a fault is passed on. -/
theorem finish_held {flight other : Flight} (hheld : leased.holder? = some flight)
    (hleased : leased.underWay[index]? = some flight)
    (hplain : plain.underWay[index]? = some other) (outcome : Except Fault α) :
    leased.response (.finish index outcome) = plain.response (.finish index outcome) ∧
      (leased.step (.finish index outcome)).cache.dropped? = leased.cache.dropped? ∧
      (plain.step (.finish index outcome)).cache = .single
        { value? := (leased.step (.finish index outcome)).cache.last, busy := false } := by
  rw [response_finish hleased, response_finish hplain, step_finish hplain, h.plain_eq]
  cases outcome with
  | error fault =>
    obtain ⟨hlast, hdropped⟩ :
        (leased.step (.finish index (.error fault))).cache.last = leased.cache.last ∧
          (leased.step (.finish index (.error fault))).cache.dropped? = leased.cache.dropped? :=
      h.ordered.keeps_contents (by simp)
    rw [hlast, h.ordered.cache_eq]
    rw [h.ordered.cache_eq] at hdropped
    exact ⟨rfl, hdropped, rfl⟩
  | ok fresh =>
    obtain ⟨hanswer, -, hkept⟩ :=
      @KeepsLatest.finished α timeout leased timed h.latest h.ordered index flight fresh hleased
    obtain ⟨hlast, hdropped⟩ := hkept (h.not_overtaken hheld)
    rw [hanswer, hlast]
    exact ⟨rfl, hdropped, rfl⟩

theorem finish (index : Nat) (outcome : Except Fault α) :
    leased.response (.finish index outcome) = plain.response (.finish index outcome) ∧
      ∃ later, Abreast timeout (leased.step (.finish index outcome))
        (plain.step (.finish index outcome)) later := by
  have hlength : plain.underWay.length = leased.underWay.length := by
    simpa using congrArg List.length h.alongside
  cases hleased : leased.underWay[index]? with
  | none =>
    have hplain : plain.underWay[index]? = none := by
      rw [List.getElem?_eq_none_iff] at hleased ⊢
      omega
    obtain ⟨hresponse, hstep⟩ := response_missing hleased outcome
    obtain ⟨hresponse', hstep'⟩ := response_missing hplain outcome
    rw [hresponse, hresponse', hstep, hstep']
    exact ⟨rfl, timed, h⟩
  | some flight =>
    -- only the holder is under way, so that it is the one that ends
    have hmem : flight ∈ leased.holder?.toList := h.underWay ▸ List.mem_of_getElem? hleased
    have hheld : leased.holder? = some flight := Option.mem_toList.mp hmem
    have hone : leased.underWay = [flight] := by rw [h.underWay, hheld]; rfl
    have hindex : index = 0 := by
      have := (List.getElem?_eq_some_iff.mp hleased).1
      rw [hone, List.length_singleton] at this
      omega
    obtain ⟨other, hother⟩ := List.length_eq_one_iff.mp (hlength.trans (by rw [hone]; rfl))
    have hplain : plain.underWay[index]? = some other := by rw [hother, hindex]; rfl
    obtain ⟨hresponse, hdropped, hcache⟩ := h.finish_held hheld hleased hplain outcome
    obtain ⟨later, hordered, hadvances⟩ := h.ordered.stepped (.finish index outcome)
    have hfree : (leased.step (.finish index outcome)).holder? = none := by
      rw [holder_finish hleased, hheld]
      simp
    have hempty : (leased.step (.finish index outcome)).underWay = [] := by
      rw [step_finish hleased, hone, hindex]
      rfl
    refine ⟨hresponse, later, hordered, h.latest.advances h.ordered hadvances,
      hdropped.trans h.undropped, ?_, ?_, ?_⟩
    · rw [hcache, hfree]
      rfl
    · rw [hempty, hfree]
      rfl
    · rw [hempty, step_finish hplain, hother, hindex]
      rfl

/-- A move that is on time is answered alike and keeps the caches in step. -/
theorem step {move : Move α} (hm : leased.OnTime move) :
    leased.response move = plain.response move ∧
      ∃ later, Abreast timeout (leased.step move) (plain.step move) later := by
  cases move with
  | read now =>
    cases hholder : leased.holder? with
    | none => exact h.read_free hholder now
    | some flight =>
      obtain ⟨hresponse, hstep, hstep'⟩ := h.read_held hholder hm
      rw [hstep, hstep']
      exact ⟨hresponse, timed, h⟩
  | finish index outcome => exact h.finish index outcome
  | breakOff index => exact hm.elim

theorem run {moves : List (Move α)} (hm : leased.Punctual moves) :
    leased.transcript moves = plain.transcript moves ∧
      ∃ later, Abreast timeout (leased.run moves) (plain.run moves) later := by
  induction moves generalizing leased plain timed with
  | nil => exact ⟨rfl, timed, h⟩
  | cons move moves ih =>
    obtain ⟨htime, hrest⟩ := hm
    obtain ⟨hresponse, between, hbetween⟩ := h.step htime
    obtain ⟨htranscript, hlater⟩ := ih hbetween hrest
    have hlast : (leased.step move).cache.last = (plain.step move).cache.last := by
      rw [hbetween.plain_eq]
      rfl
    refine ⟨?_, hlater⟩
    rw [transcript, transcript, hresponse, hlast, htranscript]

end Abreast

theorem abreast_start (timeout : Span) :
    Abreast timeout ({ cache := .timed { timeout } } : Traffic α) { cache := .single {} }
      { timeout } where
  ordered := timed_start timeout none
  latest := ⟨.nothing rfl rfl (by simp), rfl⟩
  undropped := rfl
  plain_eq := rfl
  underWay := rfl
  alongside := rfl

/-- As long as no read comes after the deadline of a lease that is held, a cache with leases and one
without call the same suppliers, answer every caller alike and store the same after every move. No
refresh of the cache with leases is dropped. -/
theorem timely_leases_make_no_difference (timeout : Span) (moves : List (Move α))
    (hm : ({ cache := .timed { timeout } } : Traffic α).Punctual moves) :
    let leased : Traffic α := { cache := .timed { timeout } }
    let plain : Traffic α := { cache := .single {} }
    leased.transcript moves = plain.transcript moves ∧
      (leased.run moves).cache.dropped? = some (0, 0) := by
  intro leased plain
  obtain ⟨htranscript, later, hlater⟩ := (abreast_start timeout).run hm
  exact ⟨htranscript, hlater.undropped⟩

/-- A second reader comes at the very deadline of the first, and both caches answer it at once. -/
theorem reader_at_deadline_answered_alike :
    let deadline : Instant := ⟨1_000_000_000, by decide, by decide⟩
    let timeout : Span := ⟨1_000_000_000, by decide⟩
    let moves : List (Move Nat) :=
      [.read .epoch, .read deadline, .finish 0 (.ok 7), .read deadline,
        .finish 0 (.error (.discoveryFailed "down"))]
    let leased : Traffic Nat := { cache := .timed { timeout } }
    leased.Punctual moves ∧
      leased.transcript moves = ({ cache := .single {} } : Traffic Nat).transcript moves ∧
      (leased.run moves).cache.dropped? = some (0, 0) := by
  intro deadline timeout moves leased
  have hm : leased.Punctual moves := by decide +kernel
  exact ⟨hm, timely_leases_make_no_difference timeout moves hm⟩

end Traffic

end ReplicaRouting
