import Mathlib.Data.List.Induction
import ReplicaRouting.Proofs.Session.Connections
import ReplicaRouting.Proofs.Session.Phases

/-!
Handles on connections that the session itself has closed. On the way back from main that was lent
main is closed even if the replica shares its connection, and that connection is then handed over.
-/

namespace ReplicaRouting

/-- Whether the connection was asked to close. -/
def Event.isCloseOf (connection : ConnectionId) : Event → Bool
  | .called other .close _ => other = connection
  | _ => false

def wasClosed (connection : ConnectionId) (events : List Event) : Bool :=
  events.any (·.isCloseOf connection)

/-- The connection was handed out again after it had been closed. -/
def Reissued (connection : ConnectionId) (events : List Event) : Prop :=
  ∃ before kind after, events = before ++ .opened kind (.ok connection) :: after ∧
    wasClosed connection before = true

theorem wasClosed_append (connection : ConnectionId) (events more : List Event) :
    wasClosed connection (events ++ more) =
      (wasClosed connection events || wasClosed connection more) :=
  List.any_append

theorem wasClosed_of_mild (connection : ConnectionId) {events : List Event}
    (h : ∀ event ∈ events, event.isMild = true) : wasClosed connection events = false := by
  rw [wasClosed, List.any_eq_false]
  intro event he
  have hm := h event he
  unfold Event.isCloseOf
  split
  · cases hm
  · simp

theorem wasClosed_of_reissued {connection : ConnectionId} {events : List Event}
    (h : Reissued connection events) : wasClosed connection events = true := by
  obtain ⟨before, kind, after, rfl, hc⟩ := h
  rw [wasClosed_append, hc, Bool.true_or]

theorem Reissued.append {connection : ConnectionId} {events : List Event}
    (h : Reissued connection events) (more : List Event) : Reissued connection (events ++ more) := by
  obtain ⟨before, kind, after, rfl, hc⟩ := h
  exact ⟨before, kind, after ++ more, by rw [List.append_assoc, List.cons_append], hc⟩

namespace Session

/-- Whatever is held was held before and has not been closed, or was handed out and has not been
closed since. -/
def Unclosed (hands : Hands) (events : List Event) (later : Hands) : Prop :=
  ∀ kind handle, later kind = some handle →
    hands kind = some handle ∧ wasClosed handle.connection events = false ∨
      ∃ before after, events = before ++ .opened kind (.ok handle.connection) :: after ∧
        wasClosed handle.connection after = false

namespace Unclosed

variable {hands between later : Hands} {events more : List Event}

theorem trans (h : Unclosed hands events between) (hm : Unclosed between more later) :
    Unclosed hands (events ++ more) later := by
  intro kind handle hl
  rcases hm kind handle hl with ⟨hb, hopen⟩ | ⟨before, after, rfl, hopen⟩
  · rcases h kind handle hb with ⟨hh, hopen'⟩ | ⟨before, after, rfl, hopen'⟩
    · refine .inl ⟨hh, ?_⟩
      rw [wasClosed_append, hopen, hopen']
      rfl
    · refine .inr ⟨before, after ++ more, by rw [List.append_assoc, List.cons_append], ?_⟩
      rw [wasClosed_append, hopen, hopen']
      rfl
  · exact .inr ⟨events ++ before, after, by rw [List.append_assoc], hopen⟩

theorem of_mild (hands : Hands) (h : ∀ event ∈ events, event.isMild = true) :
    Unclosed hands events hands :=
  fun _ handle hl => .inl ⟨hl, wasClosed_of_mild handle.connection h⟩

theorem refl (hands : Hands) : Unclosed hands [] hands := of_mild hands (by simp)

/-- What is held by nobody afterwards does not matter. -/
theorem of_noHands (hands : Hands) (events : List Event) : Unclosed hands events noHands := by
  rintro _ _ ⟨⟩

end Unclosed

/-- Closing a handle does no harm to another on a connection of its own. -/
theorem unclosed_upheld : Upheld Unclosed where
  mild hands _ h := .of_mild hands h
  trans := .trans
  obtained {hands kind} connection _ := by
    intro other handle hl
    rcases held_of_filled hl with ⟨rfl, rfl⟩ | ⟨-, hh⟩
    · exact .inr ⟨[], [], rfl, rfl⟩
    · exact .inl ⟨hh, rfl⟩
  closed {hands kind closed} _ apart result := by
    intro other handle hl
    obtain ⟨ho, hh⟩ := held_of_emptied hl
    have hne := apart other handle ho hh
    exact .inl ⟨hh, by simp [wasClosed, Event.isCloseOf, hne]⟩
  dropped _ _ _ := fun _ _ hl => .inl ⟨(held_of_emptied hl).2, rfl⟩

section Courses

variable {session later : Session} {decision : Decision} {events : List Event}
  {result : Except Fault Handle} {ended : Except Fault Unit}

/-- From main that was lent the session has gone back to a replica on one and the same
connection. -/
structure WentBack (connection : ConnectionId) (session later : Session) : Prop where
  lent : session.phase = .committedMain
  returned : later.phase = .replica
  left : session.currentHandle.map (·.connection) = some connection
  taken : later.currentHandle.map (·.connection) = some connection

theorem wentBack_of_shared {main replica : Handle} (lent : session.phase = .committedMain)
    (hm : session.hand .main = some main) (ho : later.closed = false)
    (habsent : later.main = .absent) (hr : later.hand .replica = some replica)
    (shared : main.connection = replica.connection) :
    WentBack replica.connection session later := by
  have hp : later.phase = .replica := (phase_eq_replica_iff later).mpr ⟨ho, habsent, hand_ready hr⟩
  refine ⟨lent, hp, ?_, ?_⟩
  · rw [currentHandle_of_main (by rw [lent]; rfl), hm, ← shared]
    rfl
  · rw [currentHandle_of_replica hp, hr]
    rfl

/-- All that is held after the way back is the replica. -/
theorem WentBack.connection_eq {connection : ConnectionId} (h : WentBack connection session later)
    {kind : HandleKind} {handle : Handle} (hl : later.hand kind = some handle) :
    handle.connection = connection := by
  obtain ⟨-, habsent, -⟩ := (phase_eq_replica_iff later).mp h.returned
  cases kind with
  | main =>
    have hn : later.hand .main = none := hand_of_absent habsent
    rw [hn] at hl
    cases hl
  | replica =>
    have ht := h.taken
    rw [currentHandle_of_replica h.returned, hl] at ht
    exact Option.some.inj ht

/-- A replica that is held is taken as it is. -/
theorem TakingReplica.eq_of_held {replica : Handle}
    (h : TakingReplica session decision result later events)
    (hr : session.hand .replica = some replica) : later = session := by
  cases h with
  | kept => rfl
  | refused _ habsent | opened habsent =>
    have hn : session.hand .replica = none := hand_of_absent habsent
    cases hn.symm.trans hr

/-- Main may share its connection with the replica when it is closed. -/
theorem Closing.unclosed_or (h : Closing .main session ended later events) :
    Unclosed session.hand events later.hand ∨ ∃ main replica,
      session.hand .main = some main ∧ session.hand .replica = some replica ∧
        main.connection = replica.connection := by
  by_cases shared : ∃ main replica, session.hand .main = some main ∧
      session.hand .replica = some replica ∧ main.connection = replica.connection
  · exact .inr shared
  · refine .inl (h.upholds unclosed_upheld fun main kind other hm hk ho heq => shared ?_)
    cases kind with
    | main => exact absurd rfl hk
    | replica => exact ⟨main, other, hm, ho, heq⟩

theorem Following.unclosed_or (h : Following session decision result later events)
    (ho : session.closed = false) :
    Unclosed session.hand events later.hand ∨ ∃ connection, WentBack connection session later := by
  have hR := unclosed_upheld
  cases h with
  | main takes => exact .inl (takes.upholds hR)
  | withoutReplica _ diverts => exact .inl (diverts.upholds hR)
  | unadopted _ consults => exact .inl (consults.upholds hR)
  | diverted _ consults diverts => exact .inl ((consults.upholds hR).trans (diverts.upholds hR))
  | stayed _ _ consults takes => exact .inl ((consults.upholds hR).trans (takes.upholds hR))
  | unclosed consults lent closes =>
    obtain ⟨-, -, hclosed, -⟩ := consults.frame
    rcases closes.unclosed_or with hu | ⟨main, replica, hm, hr, shared⟩
    · exact .inl ((consults.upholds hR).trans hu)
    · obtain ⟨warnings, rfl⟩ := closes.later_eq
      rw [consults.hand_main] at hm
      exact .inr ⟨_, wentBack_of_shared lent hm (hclosed.trans ho) rfl hr shared⟩
  | returned consults lent closes takes =>
    obtain ⟨-, -, hclosed, -⟩ := consults.frame
    rcases closes.unclosed_or with hu | ⟨main, replica, hm, hr, shared⟩
    · exact .inl ((consults.upholds hR).trans (hu.trans (takes.upholds hR)))
    · -- the replica that shares the connection is held all along, so that it is the one taken
      obtain ⟨warnings, rfl⟩ := closes.later_eq
      rw [consults.hand_main] at hm
      obtain rfl := takes.eq_of_held hr
      exact .inr ⟨_, wentBack_of_shared lent hm (hclosed.trans ho) rfl hr shared⟩

theorem wentBack_concluded_iff (connection : ConnectionId) (session later : Session)
    (decision : Decision) (result : Except Fault Handle) :
    WentBack connection session (later.concluded decision result) ↔
      WentBack connection session later := by
  cases result <;> exact
    ⟨fun h => ⟨h.lent, h.returned, h.left, h.taken⟩, fun h => ⟨h.lent, h.returned, h.left, h.taken⟩⟩

theorem Reading.unclosed_or (h : Reading session result later events) :
    Unclosed session.hand events later.hand ∨ ∃ connection, WentBack connection session later := by
  cases h with
  | refused => exact .inl (.refl _)
  | followed opened settled follows =>
    rw [hand_concluded]
    rcases follows.unclosed_or opened with hu | ⟨connection, hb⟩
    · exact .inl hu
    · exact .inr ⟨connection, (wentBack_concluded_iff _ _ _ settled result).mpr hb⟩

/-- What is held after an operation has not been closed by it, unless the operation was the way
back. -/
theorem Performing.unclosed_or {operation : Operation} {answer : Except Fault Answer}
    (ht : Tidy session) (h : Performing session operation answer later events) :
    Unclosed session.hand events later.hand ∨ ∃ connection, WentBack connection session later := by
  obtain ⟨htidy, hend⟩ := h.tidy ht
  cases h with
  | read _ reads => exact reads.unclosed_or
  | write seed writes =>
    cases writes with
    | refused => exact .inl (.refl _)
    | pinned _ pins =>
      rw [hand_concluded]
      exact .inl (pins.upholds unclosed_upheld)
  | close | abort =>
    rw [htidy (hend (.inr rfl))]
    exact .inl (.of_noHands _ _)
  | aside _ _ haside =>
    rw [hand_of_core haside.core]
    exact .inl (.of_mild _ haside.mild)

end Courses

section Back

variable {session later : Session} {decision : Decision} {events : List Event}
  {result : Except Fault Handle} {connection : ConnectionId}

theorem Closing.wasClosed {kind : HandleKind} {ended : Except Fault Unit} {handle : Handle}
    (h : Closing kind session ended later events) (held : session.hand kind = some handle) :
    wasClosed handle.connection events = true := by
  cases h with
  | vacant vacant => cases vacant.symm.trans held
  | closed closing =>
    cases closing.symm.trans held
    simp [ReplicaRouting.wasClosed, Event.isCloseOf]

/-- A session that comes to main does not go back to a replica. -/
theorem ComesToMain.phase_ne (h : ComesToMain session later) (lent : session.phase = .committedMain) :
    later.phase ≠ .replica := by
  rcases h with hp | ⟨-, hp | hp⟩
  · rw [hp, lent]
    simp
  · rw [hp]
    simp
  · rw [hp]
    simp

/-- The way back has closed main, on the connection that the replica is on as well. -/
theorem Following.wasClosed (h : Following session decision result later events)
    (hb : WentBack connection session later) : wasClosed connection events = true := by
  obtain ⟨ho, -, -⟩ := (phase_eq_committedMain_iff session).mp hb.lent
  have unpinned : session.phase ≠ .main := by
    rw [hb.lent]
    simp
  have hclosed {adopted closed : Session} {ended : Except Fault Unit} {first second : List Event}
      (consults : Consulting session decision (.ok ()) adopted first)
      (closes : Closing .main adopted ended closed second) :
      ReplicaRouting.wasClosed connection second = true := by
    -- asking the chain has left main in its slot, so that it is the one closed
    obtain ⟨main, hm, rfl⟩ := Option.map_eq_some_iff.mp hb.left
    rw [currentHandle_of_main (by rw [hb.lent]; rfl)] at hm
    exact closes.wasClosed (consults.hand_main.trans hm)
  cases h with
  | main takes => exact absurd hb.returned ((takes.comesToMain ho).phase_ne hb.lent)
  | withoutReplica _ diverts =>
    exact absurd hb.returned ((diverts.comesToMain ho unpinned).phase_ne hb.lent)
  | unadopted _ consults =>
    have hl := (consults.committedMain_iff session).mpr hb.lent
    cases hl.symm.trans hb.returned
  | diverted _ consults diverts =>
    have hl := (consults.committedMain_iff session).mpr hb.lent
    have hc := diverts.comesToMain (consults.frame.2.2.1.trans ho) (by rw [hl]; simp)
    exact absurd hb.returned (hc.phase_ne hl)
  | unclosed consults _ closes => rw [wasClosed_append, hclosed consults closes, Bool.or_true]
  | returned consults _ closes =>
    rw [wasClosed_append, wasClosed_append, hclosed consults closes, Bool.true_or, Bool.or_true]
  | stayed _ unlent => exact absurd hb.lent unlent

theorem Performing.wasClosed {operation : Operation} {answer : Except Fault Answer}
    (ht : Tidy session) (h : Performing session operation answer later events)
    (hb : WentBack connection session later) : wasClosed connection events = true := by
  obtain ⟨-, hend⟩ := h.tidy ht
  have hopen : later.closed = false := ((phase_eq_replica_iff later).mp hb.returned).1
  have hsame (hp : later.phase = session.phase) : False := by
    rw [hb.returned, hb.lent] at hp
    cases hp
  cases h with
  | read _ reads =>
    cases reads with
    | refused => exact (hsame rfl).elim
    | followed _ settled follows =>
      exact follows.wasClosed ((wentBack_concluded_iff _ _ _ settled _).mp hb)
  | write seed writes =>
    cases writes with
    | refused => exact (hsame rfl).elim
    | pinned opened pins =>
      have hl := (wentBack_concluded_iff _ _ _ seed _).mp hb
      exact absurd hl.returned ((pins.comesToMain opened).phase_ne hb.lent)
  | close | abort => cases hopen.symm.trans (hend (.inr rfl))
  | aside _ _ haside => exact (hsame (core_phase haside.core)).elim

end Back

section Runs

variable {σ : Type} {among : Collaborators σ}

/-- In some turn the session went back from main that was lent, on one and the same connection. -/
def WentBackAmong (among : Collaborators σ) (connection : ConnectionId) (turns : List (Turn σ))
    (session : Session) : Prop :=
  ∃ earlier turn later, turns = earlier ++ turn :: later ∧
    WentBack connection (run among earlier session) ((run among earlier session).after among turn)

theorem WentBackAmong.append {connection : ConnectionId} {turns : List (Turn σ)} {session : Session}
    (h : WentBackAmong among connection turns session) (more : List (Turn σ)) :
    WentBackAmong among connection (turns ++ more) session := by
  obtain ⟨earlier, turn, later, rfl, hb⟩ := h
  exact ⟨earlier, turn, later ++ more, by rw [List.append_assoc, List.cons_append], hb⟩

theorem WentBackAmong.wasClosed {connection : ConnectionId} {turns : List (Turn σ)}
    {session : Session} (ht : Tidy session) (h : WentBackAmong among connection turns session) :
    wasClosed connection (account among.watched turns session) = true := by
  obtain ⟨earlier, turn, later, rfl, hb⟩ := h
  have htidy := (run_tidy among earlier ht).1
  have hc := (turn_performing among (run among earlier session) turn).wasClosed htidy hb
  rw [account_append among.watched_agrees, account, wasClosed_append, wasClosed_append, hc,
    Bool.true_or, Bool.or_true]

/-- What is held after a run and was closed in it was handed out again after that, or the session
went back on the same connection. -/
theorem run_closed_held (turns : List (Turn σ)) {session : Session}
    (hnone : session.hand = noHands) {kind : HandleKind} {handle : Handle}
    (hh : (run among turns session).hand kind = some handle)
    (hc : wasClosed handle.connection (account among.watched turns session) = true) :
    Reissued handle.connection (account among.watched turns session) ∨
      WentBackAmong among handle.connection turns session := by
  have ht : Tidy session := fun _ => hnone
  -- from the end, since what counts is whether the connection was closed after it was taken
  induction turns using List.reverseRecOn generalizing kind handle with
  | nil => cases hc
  | append_singleton turns turn ih =>
    have htidy := (run_tidy among turns ht).1
    rw [run_concat] at hh
    rw [account_concat among.watched_agrees] at hc ⊢
    have hp := turn_performing among (run among turns session) turn
    rcases hp.unclosed_or htidy with hu | ⟨connection, hb⟩
    · rcases hu kind handle hh with ⟨hheld, hopen⟩ | ⟨before, after, hentries, hopen⟩
      · rw [wasClosed_append, hopen, Bool.or_false] at hc
        rcases ih hheld hc with hr | hw
        · exact .inl (hr.append _)
        · exact .inr (hw.append _)
      · refine .inl ⟨account among.watched turns session ++ before, kind, after, ?_, ?_⟩
        · rw [hentries, List.append_assoc]
        · rw [hentries, ← List.append_assoc, wasClosed_append] at hc
          have hafter : wasClosed handle.connection
              (.opened kind (.ok handle.connection) :: after) = false := hopen
          rw [hafter, Bool.or_false] at hc
          exact hc
    · obtain rfl := hb.connection_eq hh
      exact .inr ⟨turns, turn, [], rfl, hb⟩

/-- A handle that is answered is on a connection that the session has closed if and only if that
connection was handed out again after it had been closed, or the session once went back to a
replica on the very connection on which main had been lent to it. -/
theorem answered_closed_iff (turns : List (Turn σ)) (turn : Turn σ) (id : String) {handle : Handle}
    (hok : (run among turns { id }).answer among turn = .ok (.handle handle)) :
    let history := account among.watched (turns ++ [turn]) { id }
    wasClosed handle.connection history = true ↔
      Reissued handle.connection history ∨
        WentBackAmong among handle.connection (turns ++ [turn]) { id } := by
  intro history
  have hnone : ({ id } : Session).hand = noHands := hand_emptied ⟨rfl, rfl⟩
  constructor
  · intro hc
    obtain ⟨kind, hheld⟩ := (turn_performing among (run among turns { id }) turn).held hok
    rw [← run_concat] at hheld
    exact run_closed_held _ hnone hheld hc
  · rintro (hr | hw)
    · exact wasClosed_of_reissued hr
    · exact hw.wasClosed fun _ => hnone

/-- A deployment in which main and the replica are one and the same connection. -/
def sharedDeployment : Deployment Bool :=
  { Deployment.obliging with
    database := { Database.obliging Bool with openReplica := fun world => (.ok ⟨0⟩, world) } }

/-- Once the replica has caught up, it is answered on the connection that was closed with main. -/
theorem shared_replica_answered_closed :
    let among := sharedDeployment.collaborators
    let turns : List (Turn Bool) := [⟨.readHandle (.read "SELECT 1"), false⟩]
    let turn : Turn Bool := ⟨.readHandle (.read "SELECT 1"), true⟩
    (run among turns { id := "a" }).answer among turn = .ok (.handle (.replica ⟨0⟩)) ∧
      wasClosed ⟨0⟩ (account among.watched (turns ++ [turn]) { id := "a" }) = true := by
  intro among turns turn
  have hok : (run among turns { id := "a" }).answer among turn = .ok (.handle (.replica ⟨0⟩)) := by
    decide +kernel
  have hback : WentBack ⟨0⟩ (run among turns { id := "a" })
      ((run among turns { id := "a" }).after among turn) := by
    constructor <;> decide +kernel
  exact ⟨hok, (answered_closed_iff turns turn "a" hok).mpr (.inr ⟨turns, turn, [], rfl, hback⟩)⟩

end Runs

end Session

end ReplicaRouting
