import Mathlib.Data.List.Nodup
import ReplicaRouting.Proofs.Session.Custody
import ReplicaRouting.Proofs.Session.MainPin

/-!
What becomes of connections. As long as none is handed out twice, a session holds every connection
from when it is handed out until it is closed or aborted, and ends none of them twice.
-/

namespace ReplicaRouting

/-- The handle that was handed out. -/
def Event.handle? : Event → Option Handle
  | .opened kind (.ok connection) => some ⟨kind, connection⟩
  | _ => none

/-- Whether the connection was asked to end. -/
def Event.isEndOf (connection : ConnectionId) : Event → Bool
  | .called other call _ => other = connection && call.ends
  | _ => false

def handedOut (events : List Event) : List Handle := events.filterMap Event.handle?

/-- How often the connection was closed or aborted. -/
def endings (connection : ConnectionId) (events : List Event) : Nat :=
  events.countP (·.isEndOf connection)

/-- The handles that were handed out and not ended since. -/
def openHandles (events : List Event) : List Handle :=
  (handedOut events).filter fun handle => endings handle.connection events = 0

namespace Session

section Balance

variable {hands next later : Hands} {events : List Event} (connection : ConnectionId)

/-- How many slots hold the connection, of one. -/
def share : Option Handle → Nat
  | some handle => if handle.connection = connection then 1 else 0
  | none => 0

/-- In how many slots the connection is held. -/
def holders (hands : Hands) : Nat := share connection (hands .main) + share connection (hands .replica)

theorem holders_update (hands : Hands) (kind : HandleKind) (held : Option Handle) :
    holders connection (Function.update hands kind held) + share connection (hands kind) =
      holders connection hands + share connection held := by
  cases kind <;> simp [holders, Function.update] <;> omega

/-- How often the connection was handed out. -/
def timesOut (events : List Event) : Nat :=
  ((handedOut events).map (·.connection)).count connection

theorem timesOut_cons (event : Event) :
    timesOut connection (event :: events) =
      share connection event.handle? + timesOut connection events := by
  unfold timesOut handedOut
  cases h : event.handle? with
  | none => simp [h, share]
  | some handle =>
    simp only [List.filterMap_cons, h, List.map_cons, List.count_cons, share, beq_iff_eq]
    omega

theorem endings_cons (event : Event) :
    endings connection (event :: events) =
      (if event.isEndOf connection then 1 else 0) + endings connection events := by
  unfold endings
  rw [List.countP_cons]
  omega

theorem mild_balance {event : Event} (h : event.isMild = true) :
    event.handle? = none ∧ event.isEndOf connection = false := by
  cases event with
  | opened kind result =>
    cases result with
    | ok _ => cases h
    | error _ => exact ⟨rfl, rfl⟩
  | called other call result =>
    simp only [Event.isMild, Bool.not_eq_eq_eq_not, Bool.not_true] at h
    simp [Event.handle?, Event.isEndOf, h]
  | _ => exact ⟨rfl, rfl⟩

/-- A request that hands out a connection adds to its holders, and one that ends it takes away. -/
theorem Handover.balance {event : Event} (h : Handover hands event next) :
    holders connection next + (if event.isEndOf connection then 1 else 0) =
      holders connection hands + share connection event.handle? := by
  cases h with
  | @obtained kind fresh vacant =>
    have hu := holders_update connection hands kind (some ⟨kind, fresh⟩)
    rw [vacant] at hu
    simpa [Event.isEndOf, Event.handle?, share] using hu
  | @ended kind handle call held ends result =>
    have hu := holders_update connection hands kind none
    rw [held] at hu
    simpa [Event.isEndOf, Event.handle?, share, ends] using hu
  | passed mild =>
    obtain ⟨hh, he⟩ := mild_balance connection mild
    rw [hh, he]
    rfl

/-- As long as no connection is handed out twice, every one that was handed out is held or has been
ended, and not both. -/
theorem Custody.balance (h : Custody hands events later)
    (hf : ∀ connection, holders connection hands + timesOut connection events ≤ 1) :
    holders connection later + endings connection events =
      holders connection hands + timesOut connection events := by
  induction h with
  | done => rfl
  | @requested hands next later event events handover rest ih =>
    have hb (other : ConnectionId) := handover.balance other
    have hnext (other : ConnectionId) : holders other next + timesOut other events ≤ 1 := by
      have h1 := hf other
      have h2 := hb other
      rw [timesOut_cons] at h1
      omega
    have h1 := ih hnext
    have h2 := hb connection
    rw [timesOut_cons, endings_cons]
    omega
  | @dropped hands later main replica events mainHeld replicaHeld shared rest ih =>
    -- a connection in both slots would have been handed out twice
    have h1 := hf main.connection
    have h2 : holders main.connection hands = 2 := by
      simp [holders, mainHeld, replicaHeld, share, shared]
    omega

/-- Whatever is held was handed out, for the kind of its slot. -/
theorem Custody.mem_handedOut (h : Custody hands events later) {kind : HandleKind} {handle : Handle}
    (hl : later kind = some handle) :
    hands kind = some handle ∨ handle.kind = kind ∧ handle ∈ handedOut events := by
  induction h with
  | done => exact .inl hl
  | @requested hands next later event events handover rest ih =>
    have hmem (hm : handle ∈ handedOut events) :
        handle ∈ handedOut (event :: events) := by
      unfold handedOut
      rw [List.filterMap_cons]
      split
      · exact hm
      · exact List.mem_cons_of_mem _ hm
    rcases ih hl with hn | ⟨hk, hm⟩
    · cases handover with
      | obtained connection vacant =>
        rcases held_of_filled hn with ⟨rfl, rfl⟩ | ⟨-, hh⟩
        · exact .inr ⟨rfl, List.mem_cons_self⟩
        · exact .inl hh
      | ended => exact .inl (held_of_emptied hn).2
      | passed => exact .inl hn
    · exact .inr ⟨hk, hmem hm⟩
  | dropped mainHeld replicaHeld shared rest ih =>
    exact (ih hl).imp_left fun hn => (held_of_emptied hn).2

end Balance

section Fresh

variable {later : Hands} {events : List Event}

/-- Hands that hold nothing. -/
def noHands : Hands := fun _ => none

theorem holders_noHands (connection : ConnectionId) : holders connection noHands = 0 := rfl

variable (h : Custody noHands events later)
  (hf : ((handedOut events).map (·.connection)).Nodup)
include hf

theorem timesOut_le_one (connection : ConnectionId) : timesOut connection events ≤ 1 :=
  List.nodup_iff_count_le_one.mp hf connection

theorem timesOut_of_mem {handle : Handle} (hm : handle ∈ handedOut events) :
    timesOut handle.connection events = 1 := by
  have h1 := timesOut_le_one hf handle.connection
  have h2 : 0 < timesOut handle.connection events :=
    List.count_pos_iff.mpr (List.mem_map_of_mem hm)
  omega

include h

theorem Custody.held_or_ended {handle : Handle} (hm : handle ∈ handedOut events) :
    holders handle.connection later + endings handle.connection events = 1 := by
  have hb := h.balance handle.connection fun connection => by
    have h1 := timesOut_le_one hf connection
    rw [holders_noHands]
    omega
  rw [holders_noHands, timesOut_of_mem hf hm] at hb
  omega

/-- The open handles are the ones that are held. -/
theorem Custody.held_of_open {handle : Handle} (hm : handle ∈ openHandles events) :
    later handle.kind = some handle := by
  obtain ⟨hout, he⟩ := List.mem_filter.mp hm
  have hb := h.held_or_ended hf hout
  rw [of_decide_eq_true he] at hb
  -- some slot holds the connection, and nothing else was handed out with it
  have hsome : ∃ kind held, later kind = some held ∧ held.connection = handle.connection := by
    by_contra hnone
    push Not at hnone
    have hshare (kind : HandleKind) : share handle.connection (later kind) = 0 := by
      cases hk : later kind with
      | none => rfl
      | some held => simp [share, hnone kind held hk]
    simp only [holders, hshare] at hb
    omega
  obtain ⟨kind, held, hk, hc⟩ := hsome
  rcases h.mem_handedOut hk with hn | ⟨rfl, hh⟩
  · cases hn
  · have heq : held = handle := List.inj_on_of_nodup_map hf hh hout hc
    rw [← heq]
    exact hk

end Fresh

section Ends

variable {session later : Session} {operation : Operation} {answer : Except Fault Answer}
  {events : List Event}

/-- A closed session holds nothing. -/
def Tidy (session : Session) : Prop := session.closed = true → session.hand = noHands

theorem Tidy.open_of_held {kind : HandleKind} {handle : Handle} (ht : Tidy session)
    (hh : session.hand kind = some handle) : session.closed = false := by
  cases hc : session.closed with
  | false => rfl
  | true =>
    rw [ht hc] at hh
    cases hh

theorem hand_emptied (kinds : session.hand .main = none ∧ session.hand .replica = none) :
    session.hand = noHands := by
  funext kind
  cases kind with
  | main => exact kinds.1
  | replica => exact kinds.2

theorem Ending.emptied
    {slot : HandleKind → Session → Except Fault Unit → Session → List Event → Prop}
    (hstanding : ∀ {kind session result later events}, slot kind session result later events →
      later.standing = session.standing)
    (hhand : ∀ {kind session result later events}, slot kind session result later events →
      later.hand = Function.update session.hand kind none)
    {ended : Except Fault Unit} (ht : Tidy session) (h : Ending slot session ended later events) :
    later.closed = true ∧ later.hand = noHands := by
  refine ⟨h.closed hstanding, ?_⟩
  cases h with
  | again closed => exact ht closed
  | ended _ mainEnds replicaEnds =>
    have hm := hhand mainEnds
    have hr := hhand replicaEnds
    apply hand_emptied
    rw [hr, hm]
    exact ⟨rfl, rfl⟩

theorem Tidy.of_standing (hs : later.standing = session.standing) (ho : session.closed = false) :
    Tidy later := by
  intro hc
  have hclosed : later.closed = session.closed := congrArg Prod.fst hs
  rw [hclosed, ho] at hc
  cases hc

/-- A session that is closed stays closed and empty, and an end makes it so. -/
theorem Performing.tidy (h : Performing session operation answer later events)
    (ht : Tidy session) :
    Tidy later ∧ (session.closed = true ∨ operation.isEnd = true → later.closed = true) := by
  cases h with
  | read _ reads =>
    have hs := reads.standing
    have hclosed : later.closed = session.closed := congrArg Prod.fst hs
    refine ⟨?_, fun hc => hclosed.trans (hc.resolve_right (by simp [Operation.isEnd]))⟩
    cases reads with
    | refused => exact ht
    | followed opened => exact .of_standing hs opened
  | write _ writes =>
    have hs := writes.standing
    have hclosed : later.closed = session.closed := congrArg Prod.fst hs
    refine ⟨?_, fun hc => hclosed.trans (hc.resolve_right (by simp [Operation.isEnd]))⟩
    cases writes with
    | refused => exact ht
    | pinned opened => exact .of_standing hs opened
  | close ends =>
    obtain ⟨hc, hh⟩ := ends.emptied (fun h => h.standing) (fun h => h.hand_eq) ht
    exact ⟨fun _ => hh, fun _ => hc⟩
  | abort _ ends =>
    obtain ⟨hc, hh⟩ := ends.emptied (fun h => h.standing) (fun h => h.hand_eq) ht
    exact ⟨fun _ => hh, fun _ => hc⟩
  | aside isAside _ haside =>
    obtain ⟨-, -, -, hclosed, -⟩ := eq_of_core haside.core
    have hhand := hand_of_core haside.core
    refine ⟨fun hc => ?_, fun hc => hclosed.trans (hc.resolve_right ?_)⟩
    · rw [hhand]
      exact ht (hclosed.symm.trans hc)
    · cases operation <;> simp_all [Operation.isEnd, Operation.isAside]

end Ends

section Runs

variable {σ : Type} (among : Collaborators σ)

theorem run_tidy (turns : List (Turn σ)) {session : Session} (ht : Tidy session) :
    Tidy (run among turns session) ∧
      (session.closed = true ∨ (∃ turn ∈ turns, turn.operation.isEnd = true) →
        (run among turns session).closed = true) := by
  induction turns generalizing session with
  | nil => exact ⟨ht, by simp [run]⟩
  | cons turn turns ih =>
    obtain ⟨htidy, hclosed⟩ := (turn_performing among session turn).tidy ht
    obtain ⟨hrun, hend⟩ := ih htidy
    refine ⟨hrun, fun hc => hend ?_⟩
    rcases hc with hc | ⟨other, ho, he⟩
    · exact .inl (hclosed (.inl hc))
    · rcases List.mem_cons.mp ho with rfl | ho
      · exact .inl (hclosed (.inr he))
      · exact .inr ⟨other, ho, he⟩

/-- No connection is leaked and none is ended twice, whatever fails in the course of a run: if no
connection is handed out twice, each is held in one slot and has not been ended, or is held in none
and has been ended once. At any time at most one connection of each kind is open, and once the
session has been closed or aborted none is. -/
theorem connections_held_or_ended_once (turns : List (Turn σ)) (id : String)
    (fresh : ((handedOut (account among.watched turns { id })).map (·.connection)).Nodup) :
    let later := run among turns { id }
    let history := account among.watched turns { id }
    (∀ handle ∈ handedOut history,
      holders handle.connection later.hand = 1 ∧ endings handle.connection history = 0 ∨
        holders handle.connection later.hand = 0 ∧ endings handle.connection history = 1) ∧
    (∀ soFar, soFar <+: history → ∀ first ∈ openHandles soFar, ∀ second ∈ openHandles soFar,
      first.kind = second.kind → first = second) ∧
    ((∃ turn ∈ turns, turn.operation.isEnd = true) → openHandles history = []) := by
  intro later history
  have hcustody : Custody noHands history later.hand := by
    have hstart : ({ id } : Session).hand = noHands := hand_emptied ⟨rfl, rfl⟩
    rw [← hstart]
    exact run_custody among turns { id }
  refine ⟨fun handle hm => ?_, ?_, ?_⟩
  · have hb := hcustody.held_or_ended fresh hm
    omega
  · rintro soFar ⟨rest, hrest⟩ first hfirst second hsecond hkind
    rw [← hrest] at hcustody
    obtain ⟨between, hsofar, -⟩ := hcustody.split
    have hfresh : ((handedOut soFar).map (·.connection)).Nodup := by
      have hout : handedOut history = handedOut soFar ++ handedOut rest := by
        rw [← hrest]
        exact List.filterMap_append
      have hf := fresh
      rw [hout, List.map_append] at hf
      exact hf.of_append_left
    have h1 := hsofar.held_of_open hfresh hfirst
    have h2 := hsofar.held_of_open hfresh hsecond
    rw [hkind, h2] at h1
    exact (Option.some.inj h1).symm
  · intro hend
    have hstart : Tidy ({ id } : Session) := by rintro ⟨⟩
    obtain ⟨htidy, hclosed⟩ := run_tidy among turns hstart
    have hnone := htidy (hclosed (.inr hend))
    apply List.eq_nil_iff_forall_not_mem.mpr
    intro handle hm
    have hheld := hcustody.held_of_open fresh hm
    rw [show later.hand = noHands from hnone] at hheld
    cases hheld

/-- A replica that gives way to main is ended once, and so is main when the session is closed. -/
theorem replica_and_main_ended_once :
    let among := Deployment.obliging.collaborators
    let turns : List (Turn Bool) :=
      [⟨.readHandle (.read "SELECT 1"), true⟩, ⟨.writeHandle (.write "DELETE FROM t"), true⟩,
        ⟨.close, true⟩]
    let history := account among.watched turns { id := "a" }
    handedOut history = [.replica ⟨1⟩, .main ⟨0⟩] ∧ endings ⟨1⟩ history = 1 ∧
      endings ⟨0⟩ history = 1 ∧ openHandles history = [] := by
  intro among turns history
  have hout : handedOut history = [.replica ⟨1⟩, .main ⟨0⟩] := by decide +kernel
  have fresh : ((handedOut history).map (·.connection)).Nodup := by
    rw [hout]
    decide
  obtain ⟨hall, -, hnone⟩ := connections_held_or_ended_once among turns "a" fresh
  have hlater (kind : HandleKind) : (run among turns { id := "a" }).hand kind = none := by
    cases kind <;> decide +kernel
  have hended (handle : Handle) (hm : handle ∈ handedOut history) :
      endings handle.connection history = 1 := by
    rcases hall handle hm with ⟨hheld, -⟩ | ⟨-, hend⟩
    · simp only [holders, hlater, share] at hheld
      omega
    · exact hend
  rw [hout] at hended
  refine ⟨hout, hended (.replica ⟨1⟩) (by simp), hended (.main ⟨0⟩) (by simp), hnone ?_⟩
  exact ⟨⟨.close, true⟩, by simp [turns], rfl⟩

end Runs

end Session

end ReplicaRouting
