import ReplicaRouting.Proofs.Routing.Reads
import ReplicaRouting.Proofs.Session.Requests
import ReplicaRouting.Proofs.Tracker.Frugality

/-!
When a session on the standard chain asks for a replica: in a read that nothing but the tracker
could send to main, at most once, and behind a frugal tracker not before its verdict unless it
awaits something.
-/

namespace ReplicaRouting

/-- The account has no request for a replica, or a single one, before which it warrants that. -/
inductive OpensLazily (warrant : List Event → Prop) : List Event → Prop where
  | never {events : List Event} (unasked : Unasked .replica events) : OpensLazily warrant events
  | once (before : List Event) {later : List Event} {event : Event}
      (asks : event.asks .replica = true) (first : Unasked .replica before)
      (last : Unasked .replica later) (warranted : warrant before) :
      OpensLazily warrant (before ++ event :: later)

section Accounts

variable {warrant warrant' : List Event → Prop} {events more : List Event}

theorem OpensLazily.mono (h : OpensLazily warrant events)
    (hw : ∀ before, warrant before → warrant' before) : OpensLazily warrant' events := by
  cases h with
  | never unasked => exact .never unasked
  | once _ asks first last warranted => exact .once _ asks first last (hw _ warranted)

theorem OpensLazily.follow (h : OpensLazily warrant events) (hmore : Unasked .replica more) :
    OpensLazily warrant (events ++ more) := by
  cases h with
  | never unasked => exact .never (unasked.append hmore)
  | once _ asks first last warranted =>
    rw [List.append_assoc, List.cons_append]
    exact .once _ asks first (last.append hmore) warranted

theorem OpensLazily.precede {first : List Event} (hfirst : Unasked .replica first)
    (h : OpensLazily (fun before => warrant (first ++ before)) events) :
    OpensLazily warrant (first ++ events) := by
  cases h with
  | never unasked => exact .never (hfirst.append unasked)
  | once _ asks before last warranted =>
    rw [← List.append_assoc]
    exact .once _ asks (hfirst.append before) last warranted

/-- Whatever request for a replica there is in the account was warranted. -/
theorem OpensLazily.warranted {before later : List Event} {event : Event}
    (h : OpensLazily warrant (before ++ event :: later)) (asks : event.asks .replica = true) :
    warrant before := by
  have hasks {events : List Event} (hu : Unasked .replica events) : event ∉ events := fun hmem =>
    Bool.false_ne_true ((hu event hmem).symm.trans asks)
  generalize haccount : before ++ event :: later = account at h
  cases h with
  | never unasked =>
    rw [← haccount] at unasked
    exact absurd (List.mem_append_right before List.mem_cons_self) (hasks unasked)
  | once earlier _ first last warranted =>
    -- the two splits are the same, for the event is neither before nor behind the request
    rcases List.append_eq_append_iff.mp haccount with ⟨between, rfl, hrest⟩ | ⟨between, rfl, hrest⟩
    · cases between with
      | nil => rwa [List.append_nil] at warranted
      | cons head between =>
        obtain ⟨rfl, -⟩ := List.cons.inj hrest
        exact absurd (List.mem_append_right before List.mem_cons_self) (hasks first)
    · cases between with
      | nil => rwa [List.append_nil]
      | cons head between =>
        obtain ⟨rfl, rfl⟩ := List.cons.inj hrest
        exact absurd (List.mem_append_right between List.mem_cons_self) (hasks last)

end Accounts

/-! ### Asking the tracker -/

section Hearing

open Consult

/-- The courses of asking a frugal tracker: what is held, its verdict, what is held in the end, and
what is entered. -/
inductive Hearing (awaits : Prop) :
    Option Handle → Bool → Option Handle → List Event → Prop where
  | atOnce (held : Option Handle) (consistent : Bool) :
    Hearing awaits held consistent held [.judged consistent]
  | shown (handle : Handle) (consistent : Bool) :
    Hearing awaits (some handle) consistent (some handle)
      [.supplied (.ok handle), .judged consistent]
  | opened (waiting : awaits) (connection : ConnectionId) (consistent : Bool) :
    Hearing awaits none consistent (some (.replica connection))
      [.opened .replica (.ok connection), .supplied (.ok (.replica connection)), .judged consistent]
  | refused (waiting : awaits) (fault : Fault) :
    Hearing awaits none false none
      [.opened .replica (.error fault), .supplied (.error fault), .judged false]

variable {σ q : Type} {awaits : Prop}

theorem Inquiry.Frugal.hearing (among : Collaborators σ) {inquiry : Inquiry σ q Supply Bool}
    (h : inquiry.Frugal awaits) (held : Option Handle) :
    let ended := (inquiry.watched []).run
      (replyWithHandle among.watched.database.replicaHandle) held
    Hearing awaits held ended.1 ended.2.1 ended.2.2.events := by
  cases h with
  | answered consistent world => exact .atOnce held consistent
  | asking question world waiting refused given =>
    cases held with
    | some handle =>
      obtain ⟨consistent, after, hr⟩ := given handle world
      simp only [watched, run, replyWithHandle, hr]
      exact .shown handle consistent
    | none =>
      obtain ⟨opened, world', hreply⟩ := Session.reply_opening among question world []
      cases opened with
      | error fault =>
        obtain ⟨after, hr⟩ := refused fault world'
        simp only [watched, run, hreply, hr, Except.map]
        exact .refused waiting fault
      | ok connection =>
        obtain ⟨consistent, after, hr⟩ := given (.replica connection) world'
        simp only [watched, run, hreply, hr, Except.map]
        exact .opened waiting connection consistent

theorem Hearing.opensLazily {held kept : Option Handle} {consistent : Bool} {events : List Event}
    (h : Hearing awaits held consistent kept events) :
    OpensLazily (fun before => awaits ∧ held = none ∧ before = []) events := by
  cases h with
  | atOnce => exact .never (.cons rfl .nil)
  | shown => exact .never (.cons rfl (.cons rfl .nil))
  | opened waiting => exact .once [] rfl .nil (.cons rfl (.cons rfl .nil)) ⟨waiting, rfl, rfl⟩
  | refused waiting => exact .once [] rfl .nil (.cons rfl (.cons rfl .nil)) ⟨waiting, rfl, rfl⟩

/-- A favourable verdict after which no replica is there was reached without one. -/
theorem Hearing.eq_of_unheld {held : Option Handle} {events : List Event}
    (h : Hearing awaits held true none events) : events = [.judged true] := by
  cases h with
  | atOnce => rfl

/-- A frugal tracker takes one of its courses. -/
theorem Deployment.hearing (deployment : Deployment σ) {world : σ} {held kept : Option Handle}
    {consistent : Bool} {after : Chronicle σ Event}
    (h : (deployment.tracker.isConsistent world).Frugal awaits)
    (hv : deployment.watched.tracker.isConsistent.runWithHandle
      deployment.watched.database.replicaHandle held ⟨world, []⟩ = ((consistent, kept), after)) :
    Hearing awaits held consistent kept after.events := by
  rw [runWithHandle_eq] at hv
  have hhearing := h.hearing deployment.collaborators held
  generalize hended : Inquiry.run _ _ _ = ended at hhearing
  have hparts : ((ended.1, ended.2.1), ended.2.2) = ((consistent, kept), after) :=
    hended ▸ hv
  obtain ⟨hanswer, rfl⟩ := Prod.mk.inj hparts
  obtain ⟨rfl, rfl⟩ := Prod.mk.inj hanswer
  exact hhearing

end Hearing

namespace Session

open Act

/-! ### Following the decision -/

section Following

variable {σ : Type} (among : Collaborators σ) (session : Session) (settled : Decision)

theorem vacant_of_adopting {opened : Option Handle}
    (h : (session.adopting settled opened).replica = .absent) :
    session.replica = .absent ∧ opened = none := by
  cases opened with
  | none => exact ⟨h, rfl⟩
  | some handle =>
    rw [adopting] at h
    cases hr : session.replica <;> rw [hr] at h <;> cases h

theorem Closing.untracked {kind : HandleKind} {result : Except Fault Unit} {later : Session}
    {events : List Event} (h : Closing kind session result later events) :
    ∀ event ∈ events, event.ofTracker = false := by
  cases h with
  | vacant => exact List.forall_mem_nil _
  | closed => simp [Event.ofTracker]

theorem takeReplica_opensLazily :
    Proceeds (takeReplica among.watched settled) session fun _ _ events =>
      OpensLazily (fun before => session.replica = .absent ∧ before = []) events := by
  apply (takeReplica_takingReplica among session settled).mono
  intro result later events h
  cases h with
  | kept => exact .never .nil
  | refused fault held => exact .once [] rfl .nil .nil ⟨held, rfl⟩
  | opened held brings => exact .once [] rfl .nil brings.unasked ⟨held, rfl⟩

/-- Behind the chain a replica is opened only if none is held and none was opened on the way. -/
theorem followRoute_opensLazily (opened : Option Handle) (hm : settled.runsOnMain = false) :
    Proceeds (followRoute among.watched settled (.byChain opened)) session fun _ _ events =>
      OpensLazily (fun before => session.replica = .absent ∧ opened = none ∧
        ∀ event ∈ before, event.ofTracker = false) events := by
  unfold followRoute
  apply (adoptReplica_adopting among session settled opened).bind
  · exact fun _ _ _ ⟨_, hadopts, _⟩ => .never hadopts
  rintro _ adopted first ⟨rfl, hadopts, hnone⟩
  rw [if_neg (by simp [hm])]
  apply proceeds_session
  split
  · apply (closeSlot_closing among _ .main).bind
    · exact fun _ _ _ hcloses => .never (hadopts.append hcloses.unasked)
    intro _ closed second hcloses
    apply proceeds_update
    apply (takeReplica_opensLazily among _ settled).mono
    intro _ _ third htakes
    refine .precede hadopts (.precede hcloses.unasked (htakes.mono ?_))
    rintro _ ⟨hr, rfl⟩
    obtain ⟨warnings, rfl⟩ := hcloses.later_eq
    obtain ⟨hreplica, hopened⟩ := vacant_of_adopting session settled hr
    rw [hnone hopened, List.nil_append, List.append_nil]
    exact ⟨hreplica, hopened, hcloses.untracked⟩
  · apply proceeds_update
    apply (takeReplica_opensLazily among _ settled).mono
    intro _ _ second htakes
    refine .precede hadopts (htakes.mono ?_)
    rintro _ ⟨hr, rfl⟩
    obtain ⟨hreplica, hopened⟩ := vacant_of_adopting session settled hr
    rw [hnone hopened]
    exact ⟨hreplica, hopened, List.forall_mem_nil _⟩

end Following

/-! ### Turns -/

section Reading

variable {σ : Type} (deployment : Deployment σ) (session : Session) (seed : Decision) (world : σ)
  (awaits : Prop)

/-- What has to be the case before a read asks for a replica: the session is open and holds none,
nothing but the tracker could send the read to main, and the tracker awaits something or has found
the replica consistent without having asked for it. -/
structure Warrants (before : List Event) : Prop where
  isOpen : session.closed = false
  vacant : session.replica = .absent
  admits : Admits deployment session seed world
  cleared : awaits ∨ .judged true ∈ before ∧ ∀ reply, .supplied reply ∉ before

variable {deployment session seed world awaits} {settled : Decision} {route : Route}
  {after : Chronicle σ Event}

/-- What a frugal tracker asks for is warranted. -/
theorem Warrants.of_hearing {kept : Option Handle} {consistent : Bool} {events : List Event}
    (ho : session.closed = false) (ha : Admits deployment session seed world)
    (h : Hearing awaits session.replica.handle? consistent kept events) :
    OpensLazily (Warrants deployment session seed world awaits) events := by
  refine h.opensLazily.mono fun before ⟨hwaiting, hheld, _⟩ => ⟨ho, ?_, ha, .inl hwaiting⟩
  cases hr : session.replica with
  | absent => rfl
  | ready handle since => rw [hr] at hheld; cases hheld

theorem Settles.followRoute_opensLazily
    (h : Settles deployment.watched session seed ⟨world, []⟩ settled route after)
    (ho : session.closed = false)
    (hf : (deployment.tracker.isConsistent (deployment.asked world)).Frugal awaits) :
    Proceeds (followRoute deployment.collaborators.watched settled route) session
      fun _ _ events =>
        OpensLazily (Warrants deployment session seed world awaits) (after.events ++ events) := by
  have hmain {first : List Event} (hm : settled.runsOnMain = true)
      (hfirst : OpensLazily (Warrants deployment session seed world awaits) first) :
      Proceeds (followRoute deployment.collaborators.watched settled route) session
        fun _ _ events =>
          OpensLazily (Warrants deployment session seed world awaits) (first ++ events) :=
    (followRoute_onMain_unasked deployment.collaborators session settled route hm).mono
      fun _ _ _ hu => hfirst.follow hu
  cases h with
  | strict => exact hmain rfl (.never .nil)
  | reused => exact hmain rfl (.never .nil)
  | forced _ _ _ early | forcedWithoutReplica _ _ _ early =>
    exact hmain (Deployment.runsOnMain_of_earlyReason early) (.never .nil)
  | unavailable => exact hmain rfl (.never .nil)
  | inconsistent lenient unpinned available undecided verdict =>
    have hadmits : Admits deployment session seed world :=
      .of_undecided lenient unpinned available undecided
    have hhearing := deployment.hearing hf verdict
    exact hmain rfl (Warrants.of_hearing ho hadmits hhearing)
  | @consistent opened after lenient unpinned available undecided verdict =>
    have hadmits : Admits deployment session seed world :=
      .of_undecided lenient unpinned available undecided
    have hhearing := deployment.hearing hf verdict
    apply (followRoute_opensLazily deployment.collaborators session seed opened
      hadmits.onReplica).mono
    intro _ _ events hfollow
    cases hfollow with
    | never hu => exact (Warrants.of_hearing ho hadmits hhearing).follow hu
    | once before asks first last warranted =>
      -- the tracker left no replica behind, so it has reached its verdict without one
      obtain ⟨hvacant, rfl, huntracked⟩ := warranted
      rw [hhearing.eq_of_unheld]
      have hcleared : .judged true ∈ .judged true :: before ∧
          ∀ reply, .supplied reply ∉ .judged true :: before := by
        refine ⟨List.mem_cons_self, fun reply hreply => ?_⟩
        have hmem := (List.mem_cons.mp hreply).resolve_left (by rintro ⟨⟩)
        cases huntracked _ hmem
      exact .precede (.cons rfl .nil)
        (.once before asks first last ⟨ho, hvacant, hadmits, .inr hcleared⟩)

/-- Behind a frugal tracker no read asks for a replica without a warrant, or twice. -/
theorem readEvents_opensLazily
    (hf : (deployment.tracker.isConsistent (deployment.asked world)).Frugal awaits) :
    OpensLazily (Warrants deployment session seed world awaits)
      (readEvents deployment session seed world) := by
  let scene : Scene (Chronicle σ Event) := ⟨session, ⟨world, []⟩⟩
  unfold readEvents
  cases ho : scene.session.closed with
  | true =>
    rw [readHandle_of_closed _ seed ho]
    exact .never .nil
  | false =>
    obtain ⟨settled, route, after, h⟩ := settles deployment.watched session seed ⟨world, []⟩
    have hread := concluded_proceeds deployment.collaborators session settled scene.session.phase
      (h.followRoute_opensLazily ho hf)
    obtain ⟨result, later, after', events, hr, hl⟩ := hread after.world after.events
    have hended : readHandle deployment.watched.collaborators seed scene =
        (result, ⟨later, ⟨after', after.events ++ events⟩⟩) :=
      (readHandle_of_open _ ho h.chooseRoute_eq).trans hr
    rw [hended]
    exact hl

/-- Of all operations only a read asks for a replica. -/
theorem entries_opensLazily (turn : Turn σ)
    (hf : (deployment.tracker.isConsistent (deployment.asked turn.world)).Frugal awaits) :
    OpensLazily
      (fun before => ∃ seed, turn.operation = .readHandle seed ∧
        Warrants deployment session seed turn.world awaits before)
      (entries deployment.watched.collaborators session turn) := by
  obtain ⟨operation, world⟩ := turn
  by_cases hr : ∃ seed, operation = .readHandle seed
  · obtain ⟨seed, rfl⟩ := hr
    have hentries : entries deployment.watched.collaborators session ⟨.readHandle seed, world⟩ =
        readEvents deployment session seed world := by
      rw [entries, perform, Fallible.map_apply]
      rfl
    rw [hentries]
    exact (readEvents_opensLazily hf).mono fun before hw => ⟨seed, rfl, hw⟩
  · -- apart from reads nothing is asked of the chain, and the tracker is only told
    have hperform : perform deployment.watched.collaborators operation =
        perform deployment.collaborators.watched operation := by
      cases operation with
      | readHandle seed => exact absurd ⟨seed, rfl⟩ hr
      | _ => rfl
    rw [entries, hperform]
    exact .never ((turn_performing deployment.collaborators session ⟨operation, world⟩).unasked
      (not_exists.mp hr))

end Reading

end Session

end ReplicaRouting
