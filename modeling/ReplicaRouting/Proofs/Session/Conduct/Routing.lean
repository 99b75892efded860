import ReplicaRouting.Proofs.Session.Conduct.Handles

/-!
Routing among collaborators that keep an account: the chain is passed over but for the replicas that
are opened on its behalf.
-/

namespace ReplicaRouting.Session

open Act

variable {σ : Type} (among : Collaborators σ) (session : Session)

section Routing

variable (decision : Decision)

theorem Supplying.refused {final : Option Handle} {events : List Event} (fault : Fault)
    (h : Supplying none final events) :
    Supplying none final (.opened .replica (.error fault) :: events) := by
  cases h with
  | idle faults => exact .idle (fault :: faults)
  | opened faults connection => exact .opened (fault :: faults) connection rfl

/-- Asking with nothing at hand opens a replica, which may fail. -/
theorem reply_opening {q : Type} (question : q) (world : σ) (events : List Event) :
    ∃ (opened : Except Fault ConnectionId) (world' : σ),
      Consult.replyWithHandle among.watched.database.replicaHandle question none
          { world, events } =
        (opened.map .replica, opened.toOption.map .replica,
          { world := world', events := events ++ [.opened .replica opened] }) := by
  have hp : among.database.replicaHandle world =
      ((among.database.openReplica world).1.map .replica, (among.database.openReplica world).2) :=
    Fallible.map_apply Handle.replica among.database.openReplica world
  have hw := among.database.replicaHandle_watched world events
  refine ⟨(among.database.openReplica world).1, (among.database.openReplica world).2, ?_⟩
  unfold Consult.replyWithHandle
  dsimp only [Collaborators.watched]
  rw [hw, hp]
  rcases (among.database.openReplica world).1 with _ | _ <;> rfl

section Supply

variable {q α : Type} (inquiry : Inquiry σ q Supply α) (events : List Event)

/-- Nothing that is asked is entered but the openings of a replica, of which only the last one can
have succeeded. -/
theorem run_silently_supplying (held : Option Handle) :
    ∃ answer final world more,
      (inquiry.silently events).run (Consult.replyWithHandle among.watched.database.replicaHandle)
          held = (answer, final, { world, events := events ++ more }) ∧
        Supplying held final more := by
  cases held with
  | some handle =>
    obtain ⟨answer, world, hr⟩ :=
      inquiry.run_silently_of_held among.watched.database.replicaHandle events handle
    exact ⟨answer, _, world, [], by rw [hr, List.append_nil], .idle []⟩
  | none =>
    induction inquiry generalizing events with
    | answered answer world =>
      exact ⟨answer, none, world, [], by rw [List.append_nil]; rfl, .idle []⟩
    | asking question world resume ih =>
      obtain ⟨opened, world', hr⟩ := reply_opening among question world events
      simp only [Inquiry.silently, Inquiry.run, hr]
      cases opened with
      | error fault =>
        obtain ⟨answer, final, world'', more, hi, hs⟩ :=
          ih (.error fault) world' (events ++ [.opened .replica (.error fault)])
        rw [List.append_assoc] at hi
        exact ⟨answer, final, world'', _, hi, hs.refused fault⟩
      | ok connection =>
        obtain ⟨answer, world'', hi⟩ :=
          (resume (.ok (.replica connection)) world').run_silently_of_held
            among.watched.database.replicaHandle (events ++ [.opened .replica (.ok connection)])
            (.replica connection)
        exact ⟨answer, _, world'', _, hi, .opened [] connection rfl⟩

end Supply

theorem decideWithReplica_supplying (held : Option Handle) (world : σ) (events : List Event) :
    ∃ settled final world' more,
      decideWithReplica among.watched decision held { world, events } =
          ((settled, final), { world := world', events := events ++ more }) ∧
        Supplying held final more := by
  have hd : among.watched.chain.decide decision 1 =
      (among.chain.decide decision 1).silently := among.chain.decide_silently decision 1
  unfold decideWithReplica
  rw [hd, Consult.runWithHandle_eq]
  obtain ⟨settled, final, world', more, hr, hs⟩ :=
    run_silently_supplying among (among.chain.decide decision 1 world) events held
  refine ⟨settled, final, world', more, ?_, hs⟩
  exact congrArg (fun told => ((told.1, told.2.1), told.2.2)) hr

theorem decideWithoutReplica_silent (world : σ) (events : List Event) :
    ∃ settled world', decideWithoutReplica among.watched decision { world, events } =
      (settled, { world := world', events }) := by
  have hd : among.watched.chain.decide decision 0 =
      (among.chain.decide decision 0).silently := among.chain.decide_silently decision 0
  -- nobody can ask for a replica where there is none
  have hr (inquiry : Inquiry σ (Fin 0) Supply Decision) : ∃ settled world',
      (inquiry.silently events).run (fun replica _ _ => replica.elim0) () =
        (settled, (), { world := world', events }) := by
    cases inquiry with
    | answered answer world => exact ⟨answer, world, rfl⟩
    | asking question => exact question.elim0
  obtain ⟨settled, world', hs⟩ := hr (among.chain.decide decision 0 world)
  simp only [decideWithoutReplica]
  rw [hd]
  refine ⟨_, world', congrArg (fun told => (_, told.2.2)) hs⟩

/-- Settling the route of a read. -/
theorem chooseRoute_choosing :
    Asks (chooseRoute among.watched decision) session fun result events =>
      ∃ settled route, result = .ok (settled, route) ∧ Choosing session route events := by
  apply proceeds_session
  split
  · exact proceeds_pure _ ⟨rfl, _, _, rfl, .main⟩
  split
  · exact proceeds_pure _ ⟨rfl, _, _, rfl, .main⟩
  rename_i unpinned
  have ha : Asks (consult among.watched.database.replicaAvailable) session
      fun result events => events = [] ∧ ∃ available, result = .ok available :=
    asks_consult fun world _ => ⟨_, (among.database.replicaAvailable world).2, [],
      by rw [List.append_nil]; rfl, rfl, _, rfl⟩
  apply ha.bind
  · rintro _ _ ⟨-, _, hr⟩
    cases hr
  rintro available _ ⟨rfl, -⟩
  split
  · have hd : Asks (consult (decideWithReplica among.watched decision session.replica.handle?))
        session fun result events => ∃ settled final,
          result = .ok (settled, final) ∧ Supplying session.replica.handle? final events := by
      apply asks_consult
      intro world events
      obtain ⟨settled, final, world', more, hr, hs⟩ :=
        decideWithReplica_supplying among decision session.replica.handle? world events
      exact ⟨(settled, final), world', more, hr, settled, final, rfl, hs⟩
    apply hd.bind
    · rintro _ _ ⟨_, _, hr, -⟩
      cases hr
    rintro ⟨settled, opened⟩ events ⟨_, _, hr, hs⟩
    cases hr
    refine proceeds_pure _ ⟨rfl, settled, .byChain opened, rfl, ?_⟩
    rw [List.append_nil]
    exact .byChain unpinned hs
  · have hd : Asks (consult (decideWithoutReplica among.watched decision)) session
        fun result events => events = [] ∧ ∃ settled, result = .ok settled := by
      apply asks_consult
      intro world events
      obtain ⟨settled, world', hr⟩ := decideWithoutReplica_silent among decision world events
      exact ⟨settled, world', [], by rw [hr, List.append_nil], rfl, settled, rfl⟩
    apply hd.bind
    · rintro _ _ ⟨-, _, hr⟩
      cases hr
    rintro settled _ ⟨rfl, -⟩
    exact proceeds_pure _ ⟨rfl, settled, .withoutReplica, rfl, .withoutReplica unpinned⟩

variable {session} in
theorem adoptReplica_consulting {opened : Option Handle} {first : List Event}
    (h : Supplying (session.hand .replica) opened first) :
    Proceeds (adoptReplica among.watched decision opened) session fun result later events =>
      Consulting session decision result later (first ++ events) := by
  apply proceeds_session
  cases hr : session.replica with
  | ready handle since =>
    have hheld : session.hand .replica = some handle := congrArg Slot.handle? hr
    rw [hheld] at h
    refine proceeds_pure () ?_
    rw [List.append_nil]
    cases h with
    | idle faults => exact .idle faults
    | opened _ _ vacant => cases vacant
  | absent =>
    have hheld : session.hand .replica = none := congrArg Slot.handle? hr
    rw [hheld] at h
    cases h with
    | idle faults =>
      refine proceeds_pure () ?_
      rw [List.append_nil]
      exact .idle faults
    | opened faults connection =>
      apply proceeds_update
      simp only [hr, Slot.install]
      apply (bringInLine_calling among _ (.replica connection)).mono
      intro result brought hc
      rw [List.append_assoc]
      exact .adopted faults hr hc

theorem Consulting.committedMain_iff {decision : Decision} {result : Except Fault Unit}
    {later : Session} {events : List Event}
    (h : Consulting session decision result later events) :
    later.phase = .committedMain ↔ session.phase = .committedMain := by
  cases h with
  | idle => exact Iff.rfl
  | adopted =>
    rw [phase_eq_committedMain_iff, phase_eq_committedMain_iff]

theorem followRoute_following {route : Route} {first : List Event}
    (h : Choosing session route first) :
    Proceeds (followRoute among.watched decision route) session fun result later events =>
      Following session decision result later (first ++ events) := by
  cases h with
  | main => exact (takeMain_takingMain among session decision).mono fun _ _ _ ht => .main ht
  | withoutReplica unpinned =>
    exact (divertToMain_diverting among session decision).mono fun _ _ _ hd =>
      .withoutReplica unpinned hd
  | byChain unpinned supplies =>
    unfold followRoute
    apply (adoptReplica_consulting among decision supplies).bind
    · exact fun fault later events hc => .unadopted unpinned hc
    intro _ adopted events hc
    simp only [← List.append_assoc]
    split
    · exact (divertToMain_diverting among adopted decision).mono fun _ _ _ hd =>
        .diverted unpinned hc hd
    apply proceeds_session
    split
    · rename_i lent
      have hlent := (hc.committedMain_iff session).mp lent
      apply (closeSlot_closing among adopted .main).bind
      · exact fun fault later second hcl => .unclosed hc hlent hcl
      intro _ closed second hcl
      apply proceeds_update
      exact (takeReplica_takingReplica among _ decision).mono fun _ _ _ ht =>
        .returned hc hlent hcl ht
    · rename_i unlent
      apply proceeds_update
      exact (takeReplica_takingReplica among _ decision).mono fun _ _ _ ht =>
        .stayed unpinned (fun lent => unlent ((hc.committedMain_iff session).mpr lent)) hc ht

theorem announce_silent (before : Phase) :
    Asks (announce among.watched before) session fun result events =>
      result = .ok () ∧ events = [] := by
  apply proceeds_session
  split
  · apply proceeds_affect
    exact proceeds_affect_last _ ⟨rfl, rfl, rfl⟩
  · exact proceeds_pure () ⟨rfl, rfl, rfl⟩

theorem conclude_concluded {ε : Type} (result : Except Fault Handle) :
    Proceeds (conclude among.silently decision result : Act (Chronicle σ ε) Unit) session
      fun ended later events =>
        ended = .ok () ∧ later = session.concluded decision result ∧ events = [] := by
  apply proceeds_session
  cases result with
  | ok handle =>
    apply proceeds_affect
    exact proceeds_update_last _ ⟨rfl, rfl, rfl⟩
  | error fault => exact proceeds_affect_last _ ⟨rfl, rfl, rfl⟩

/-- The end of an operation that was routed asks nothing of the database. -/
theorem conclude_announce_concluded (before : Phase) (result : Except Fault Handle) :
    Proceeds
      (do
        conclude among.watched decision result
        announce among.watched before
        ofOutcome result : Act (Chronicle σ Event) Handle) session
      fun ended later events =>
        ended = result ∧ later = session.concluded decision result ∧ events = [] := by
  apply (conclude_concluded among session decision result).bind
  · rintro _ _ _ ⟨hr, -⟩
    cases hr
  rintro _ _ _ ⟨-, rfl, rfl⟩
  apply (announce_silent among _ before).bind
  · rintro _ _ ⟨hr, -⟩
    cases hr
  rintro _ _ ⟨-, rfl⟩
  exact proceeds_ofOutcome result ⟨rfl, rfl, rfl⟩

/-- What an operation that is routed enters is what is entered on the way to its handle. -/
theorem concluded_proceeds {act : Act (Chronicle σ Event) Handle} {entered : List Event → Prop}
    (before : Phase) (h : Proceeds act session fun _ _ events => entered events) :
    Proceeds
      (do
        let result ← outcomeOf act
        conclude among.watched decision result
        announce among.watched before
        ofOutcome result : Act (Chronicle σ Event) Handle) session
      fun _ _ events => entered events := by
  apply h.outcomeOf
  intro result later events hentered
  apply (conclude_announce_concluded among later decision before result).mono
  rintro _ _ _ ⟨-, -, rfl⟩
  rw [List.append_nil]
  exact hentered

theorem ensureOpen_asks {ε : Type} : Asks (ensureOpen : Act (Chronicle σ ε) Unit) session
    fun result events => events = [] ∧
      (session.closed = true ∧ result = .error (.sessionClosed session.id) ∨
        session.closed = false ∧ result = .ok ()) := by
  apply proceeds_session
  split
  · rename_i closed
    apply proceeds_session
    exact proceeds_throw _ ⟨rfl, rfl, .inl ⟨closed, rfl⟩⟩
  · rename_i opened
    exact proceeds_pure () ⟨rfl, rfl, .inr ⟨Bool.eq_false_iff.mpr opened, rfl⟩⟩

/-- An operation of an open session. -/
theorem opened_proceeds {ε α : Type} {next : Session → Act (Chronicle σ ε) α}
    {course : Except Fault α → Session → List ε → Prop}
    (refused : session.closed = true → course (.error (.sessionClosed session.id)) session [])
    (h : session.closed = false → Proceeds (next session) session course) :
    Proceeds (do ensureOpen; next (← Act.session)) session course := by
  apply (ensureOpen_asks session).bind
  · rintro _ _ ⟨rfl, ⟨closed, hr⟩ | ⟨-, hr⟩⟩ <;> cases hr
    exact refused closed
  · rintro _ _ ⟨rfl, ⟨-, hr⟩ | ⟨opened, -⟩⟩
    · cases hr
    · exact proceeds_session (h opened)

theorem readHandle_reading (seed : Decision) :
    Proceeds (readHandle among.watched seed) session (Reading session) := by
  apply opened_proceeds
  · exact .refused
  intro opened
  apply (chooseRoute_choosing among session seed).bind
  · rintro _ _ ⟨_, _, hr, -⟩
    cases hr
  rintro ⟨settled, route⟩ first ⟨_, _, hr, hc⟩
  cases hr
  apply (followRoute_following among session settled hc).outcomeOf
  intro result later events hf
  apply (conclude_announce_concluded among later settled session.phase result).mono
  rintro _ _ _ ⟨rfl, rfl, rfl⟩
  rw [List.append_nil]
  exact .followed opened settled hf

theorem writeHandle_writing (seed : Decision) :
    Proceeds (writeHandle among.watched seed) session (Writing session seed) := by
  apply opened_proceeds
  · exact .refused
  intro opened
  apply (takeMainForGood_pinning among session seed).outcomeOf
  intro result later events ht
  apply (conclude_announce_concluded among later seed session.phase result).mono
  rintro _ _ _ ⟨rfl, rfl, rfl⟩
  rw [List.append_nil]
  exact .pinned opened ht

end Routing

end ReplicaRouting.Session
