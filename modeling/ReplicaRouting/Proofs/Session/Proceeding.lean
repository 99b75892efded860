import ReplicaRouting.Proofs.Session.Account

/-!
Rules for actions among collaborators that keep an account: what an action does to the session, how
it ends, and what is entered meanwhile. There is one rule for each way of making an action.
-/

namespace ReplicaRouting

open Chronicle

namespace Act

variable {σ ε α β : Type} {session : Session}

/-- From `session` the action takes the course: it ends so, with such a session, and after such
entries in the account. -/
def Proceeds (act : Act (Chronicle σ ε) α) (session : Session)
    (course : Except Fault α → Session → List ε → Prop) : Prop :=
  ∀ world events, ∃ result later world' more,
    act ⟨session, { world, events }⟩ =
        (result, ⟨later, { world := world', events := events ++ more }⟩) ∧
      course result later more

/-- The action takes the course and leaves the session alone. -/
abbrev Asks (act : Act (Chronicle σ ε) α) (session : Session)
    (course : Except Fault α → List ε → Prop) : Prop :=
  Proceeds act session fun result later events => later = session ∧ course result events

variable {act : Act (Chronicle σ ε) α} {next : α → Act (Chronicle σ ε) β}
  {course : Except Fault β → Session → List ε → Prop}
  {first other : Except Fault α → Session → List ε → Prop} {asked : Except Fault α → List ε → Prop}

theorem Proceeds.mono (h : Proceeds act session first)
    (hc : ∀ result later events, first result later events → other result later events) :
    Proceeds act session other := by
  intro world events
  obtain ⟨result, later, world', more, ha, hf⟩ := h world events
  exact ⟨result, later, world', more, ha, hc _ _ _ hf⟩

theorem Asks.mono (h : Asks act session asked)
    (hc : ∀ result events, asked result events → other result session events) :
    Proceeds act session other :=
  Proceeds.mono h fun _ _ _ ⟨hl, hr⟩ => hl ▸ hc _ _ hr

theorem Proceeds.bind (h : Proceeds act session first)
    (failed : ∀ fault later events, first (.error fault) later events →
      course (.error fault) later events)
    (goesOn : ∀ value later events, first (.ok value) later events →
      Proceeds (next value) later fun result final more => course result final (events ++ more)) :
    Proceeds (act >>= next) session course := by
  intro world events
  obtain ⟨result, later, world', more, ha, hf⟩ := h world events
  cases result with
  | error fault => exact ⟨_, _, _, _, Fallible.bind_of_error ha next, failed _ _ _ hf⟩
  | ok value =>
    obtain ⟨result, final, world'', rest, hn, hc⟩ := goesOn value later more hf world' _
    refine ⟨result, final, world'', more ++ rest, ?_, hc⟩
    rw [Fallible.bind_of_ok ha, hn, List.append_assoc]

theorem Asks.bind (h : Asks act session asked)
    (failed : ∀ fault events, asked (.error fault) events → course (.error fault) session events)
    (goesOn : ∀ value events, asked (.ok value) events →
      Proceeds (next value) session fun result final more =>
        course result final (events ++ more)) :
    Proceeds (act >>= next) session course := by
  apply Proceeds.bind h
  · rintro fault later events ⟨hl, hr⟩
    exact hl ▸ failed fault events hr
  · rintro value later events ⟨hl, hr⟩
    exact hl ▸ goesOn value events hr

theorem Proceeds.map (h : Proceeds act session first) (f : α → β)
    (hc : ∀ result later events, first result later events → course (result.map f) later events) :
    Proceeds (f <$> act) session course := by
  intro world events
  obtain ⟨result, later, world', more, ha, hf⟩ := h world events
  refine ⟨result.map f, later, world', more, ?_, hc _ _ _ hf⟩
  rw [Fallible.map_apply, ha]

theorem Proceeds.outcomeOf (h : Proceeds act session first)
    {next : Except Fault α → Act (Chronicle σ ε) β}
    (goesOn : ∀ result later events, first result later events →
      Proceeds (next result) later fun result final more => course result final (events ++ more)) :
    Proceeds (Act.outcomeOf act >>= next) session course := by
  intro world events
  obtain ⟨result, later, world', more, ha, hf⟩ := h world events
  obtain ⟨result, final, world'', rest, hn, hc⟩ := goesOn result later more hf world' _
  refine ⟨result, final, world'', more ++ rest, ?_, hc⟩
  rw [outcomeOf_bind, ha, hn, List.append_assoc]

/-- What is made of collaborators that enter nothing enters nothing. -/
theorem proceeds_silently
    (h : ∀ events, Fallible.Agrees (keepingEvents events).onScenes act act) :
    Proceeds act session fun _ _ events => events = [] := by
  intro world events
  obtain ⟨-, ⟨-, -, he⟩, -, -⟩ := h events ⟨session, { world, events }⟩ _ ⟨rfl, rfl, rfl⟩
  rcases hr : act ⟨session, { world, events }⟩ with ⟨result, later, world', entered⟩
  have hentered : entered = events := by
    rw [hr] at he
    exact he
  refine ⟨result, later, world', [], ?_, rfl⟩
  rw [List.append_nil, hentered]

section Ends

theorem proceeds_pure (value : α) (h : first (.ok value) session []) :
    Proceeds (pure value : Act (Chronicle σ ε) α) session first :=
  fun world events => ⟨_, _, world, [], by rw [List.append_nil]; rfl, h⟩

theorem proceeds_throw (fault : Fault) (h : first (.error fault) session []) :
    Proceeds (throw fault : Act (Chronicle σ ε) α) session first :=
  fun world events => ⟨_, _, world, [], by rw [List.append_nil]; rfl, h⟩

theorem proceeds_ofOutcome (result : Except Fault α) (h : first result session []) :
    Proceeds (ofOutcome result : Act (Chronicle σ ε) α) session first :=
  fun world events => ⟨_, _, world, [], by rw [List.append_nil]; rfl, h⟩

variable {first : Except Fault Unit → Session → List ε → Prop}

theorem proceeds_update_last (f : Session → Session) (h : first (.ok ()) (f session) []) :
    Proceeds (update f : Act (Chronicle σ ε) Unit) session first :=
  fun world events => ⟨_, _, world, [], by rw [List.append_nil]; rfl, h⟩

theorem proceeds_affect_last (f : σ → σ) (h : first (.ok ()) session []) :
    Proceeds (affect (onWorld f) : Act (Chronicle σ ε) Unit) session first :=
  fun world events => ⟨_, _, f world, [], by rw [List.append_nil]; rfl, h⟩

end Ends

theorem proceeds_session {next : Session → Act (Chronicle σ ε) β}
    (h : Proceeds (next session) session course) :
    Proceeds (Act.session >>= next) session course := h

theorem proceeds_update (f : Session → Session) {next : Unit → Act (Chronicle σ ε) β}
    (h : Proceeds (next ()) (f session) course) : Proceeds (update f >>= next) session course := h

theorem proceeds_affect (f : σ → σ) {next : Unit → Act (Chronicle σ ε) β}
    (h : Proceeds (next ()) session course) :
    Proceeds (affect (onWorld f) >>= next) session course :=
  fun world events => h (f world) events

theorem proceeds_request_pure (value : α) (h : Proceeds (next value) session course) :
    Proceeds (request (pure value) >>= next) session course := h

variable (entry : Except Fault α → ε) (action : Fallible σ α)

theorem asks_entering :
    Asks (request (entering entry action)) session fun result events => events = [entry result] :=
  fun world _ => ⟨_, _, (action world).2, _, rfl, rfl, rfl⟩

theorem asks_silently :
    Asks (request (Chronicle.silently action) : Act (Chronicle σ ε) α) session
      fun _ events => events = [] :=
  fun world _ => ⟨_, _, (action world).2, [], by rw [List.append_nil]; rfl, rfl, rfl⟩

theorem asks_consult {action : StateM (Chronicle σ ε) α}
    (h : ∀ world events, ∃ answer world' more,
      action { world, events } = (answer, { world := world', events := events ++ more }) ∧
        asked (.ok answer) more) :
    Asks (consult action) session asked := by
  intro world events
  obtain ⟨answer, world', more, ha, hd⟩ := h world events
  refine ⟨.ok answer, session, world', more, ?_, rfl, hd⟩
  simp only [consult, ha]

theorem proceeds_attempt {next : Except Fault α → Act (Chronicle σ ε) β}
    (h : ∀ result, Proceeds (next result) session
      fun final later more => course final later (entry result :: more)) :
    Proceeds (attempt (entering entry action) >>= next) session course := by
  intro world events
  obtain ⟨result, later, world', more, ha, hc⟩ :=
    h (action world).1 (action world).2 (events ++ [entry (action world).1])
  refine ⟨result, later, world', _, ?_, hc⟩
  rw [List.append_assoc, List.singleton_append] at ha
  exact ha

/-- To request one thing after the other is one request after the other. -/
theorem request_bind_eq (first : Fallible σ α) (next : α → Fallible σ β) :
    request (first >>= next) = request first >>= fun value => request (next value) := by
  funext scene
  rw [request_bind, request_apply, Fallible.bind_apply]
  rcases first scene.world with ⟨_ | _, _⟩ <;> rfl

end Act

/-- What holds of a course of the operation holds of the turn. -/
theorem Session.entries_of_proceeds {σ ε : Type} {among : Collaborators σ}
    {keeper : Collaborators (Chronicle σ ε)} (h : Collaborators.Agrees erasing among keeper)
    {session : Session} {turn : Turn σ}
    {course : Except Fault Answer → Session → List ε → Prop}
    (hp : Act.Proceeds (perform keeper turn.operation) session course) :
    course (session.answer among turn) (session.after among turn) (entries keeper session turn) := by
  obtain ⟨result, later, world, events, ha, hc⟩ := hp turn.world []
  obtain ⟨hr, hs⟩ := perform_kept h session turn
  have he : entries keeper session turn = events := by
    unfold entries
    rw [ha, List.nil_append]
  rw [← hr, ← hs, he, ha]
  exact hc

end ReplicaRouting
