import ReplicaRouting.Proofs.Session.Conduct
import ReplicaRouting.Proofs.Session.Phases

/-!
What the listener of a session is told. It hears of every step from one phase to another, so that
what it hears is a path through the phases.
-/

namespace ReplicaRouting

namespace Phase

/-- The notes lead from the first phase to the last, each beginning where the one before ended. -/
def Path : Phase → List (Phase × Phase) → Phase → Prop
  | start, [], finish => start = finish
  | start, note :: notes, finish => note.1 = start ∧ Path note.2 notes finish

/-- What there is to tell of two phases, one after the other. -/
def passage (before after : Phase) : List (Phase × Phase) :=
  if after ≠ before then [(before, after)] else []

theorem passage_self (phase : Phase) : passage phase phase = [] := by simp [passage]

theorem mem_passage {before after : Phase} {note : Phase × Phase} :
    note ∈ passage before after ↔ after ≠ before ∧ note = (before, after) := by
  unfold passage
  split
  · rename_i moved
    simp [moved]
  · rename_i same
    simp [same]

theorem path_passage (before after : Phase) : Path before (passage before after) after := by
  unfold passage
  split
  · exact ⟨rfl, rfl⟩
  · rename_i same
    exact (Decidable.of_not_not same).symm

theorem Path.append {start middle finish : Phase} {notes more : List (Phase × Phase)}
    (h : Path start notes middle) (hm : Path middle more finish) :
    Path start (notes ++ more) finish := by
  induction notes generalizing start with
  | nil =>
    have hs : start = middle := h
    rw [hs]
    exact hm
  | cons note notes ih => exact ⟨h.1, ih h.2⟩

end Phase

namespace Session

open Act

section Telling

variable {σ : Type} (among : Collaborators σ) (session : Session)

theorem announce_passage (before : Phase) :
    Asks (announce among.heard before) session fun result notes =>
      result = .ok () ∧ notes = Phase.passage before session.phase := by
  apply proceeds_session
  unfold Phase.passage
  split
  · apply proceeds_affect
    exact fun world events => ⟨_, session, among.listener before session.phase world, _, rfl,
      rfl, rfl, rfl⟩
  · exact proceeds_pure () ⟨rfl, rfl, rfl⟩

theorem announce_ofOutcome_passage {α : Type} (before : Phase) (result : Except Fault α) :
    Proceeds
      (do
        announce among.heard before
        ofOutcome result : Act (Chronicle σ (Phase × Phase)) α) session
      fun _ later notes => notes = Phase.passage before later.phase := by
  apply (announce_passage among session before).bind
  · rintro _ _ ⟨hr, -⟩
    cases hr
  rintro _ _ ⟨-, rfl⟩
  refine proceeds_ofOutcome result ?_
  rw [List.append_nil]

theorem conclude_announce_passage (decision : Decision) (before : Phase)
    (result : Except Fault Handle) :
    Proceeds
      (do
        conclude among.heard decision result
        announce among.heard before
        ofOutcome result : Act (Chronicle σ (Phase × Phase)) Handle) session
      fun _ later notes => notes = Phase.passage before later.phase := by
  apply (conclude_concluded among session decision result).bind
  · rintro _ _ _ ⟨hr, -⟩
    cases hr
  rintro _ _ _ ⟨-, rfl, rfl⟩
  exact announce_ofOutcome_passage among _ before result

/-- Nothing is told while a route is settled, which cannot fail. -/
theorem chooseRoute_untold (seed : Decision) :
    Asks (chooseRoute among.heard seed) session fun result notes =>
      notes = [] ∧ ∃ chosen, result = .ok chosen := by
  have hk (notes : List (Phase × Phase)) : Fallible.Agrees (keepingEvents notes).onScenes
      (chooseRoute among.silently seed) (chooseRoute among.silently seed) :=
    chooseRoute_agrees (fun _ => trivial) among.silently_keeps seed
  intro world notes
  obtain ⟨result, later, world', more, hr, rfl⟩ := proceeds_silently hk world notes
  obtain ⟨settled, route, asked, hc⟩ :=
    chooseRoute_settles among.silently ⟨session, { world, events := notes }⟩ seed
  have he := hr.symm.trans hc
  cases he
  exact ⟨_, session, world', [], hr, rfl, rfl, _, rfl⟩

theorem readHandle_tells (seed : Decision) :
    Proceeds (readHandle among.heard seed) session fun _ later notes =>
      notes = Phase.passage session.phase later.phase := by
  apply opened_proceeds
  · exact fun _ => (Phase.passage_self _).symm
  intro _
  apply (chooseRoute_untold among session seed).bind
  · rintro _ _ ⟨-, _, hr⟩
    cases hr
  rintro ⟨settled, route⟩ _ ⟨rfl, -⟩
  have hk (notes : List (Phase × Phase)) : Fallible.Agrees (keepingEvents notes).onScenes
      (followRoute among.silently settled route) (followRoute among.silently settled route) :=
    followRoute_agrees among.silently_keeps.toSurround settled route
  apply (proceeds_silently hk).outcomeOf
  rintro result later _ rfl
  exact conclude_announce_passage among later settled session.phase result

theorem writeHandle_tells (seed : Decision) :
    Proceeds (writeHandle among.heard seed) session fun _ later notes =>
      notes = Phase.passage session.phase later.phase := by
  apply opened_proceeds
  · exact fun _ => (Phase.passage_self _).symm
  intro _
  have hk (notes : List (Phase × Phase)) : Fallible.Agrees (keepingEvents notes).onScenes
      (takeMainForGood among.silently seed) (takeMainForGood among.silently seed) :=
    takeMainForGood_agrees among.silently_keeps.toSurround seed
  apply (proceeds_silently hk).outcomeOf
  rintro result later _ rfl
  exact conclude_announce_passage among later seed session.phase result

theorem ending_tells {slot : HandleKind → Act (Chronicle σ (Phase × Phase)) Unit}
    (hk : ∀ kind notes, Fallible.Agrees (keepingEvents notes).onScenes (slot kind) (slot kind)) :
    Proceeds (ending among.heard slot) session fun _ later notes =>
      notes = Phase.passage session.phase later.phase := by
  apply proceeds_session
  split
  · exact proceeds_pure () (Phase.passage_self _).symm
  apply proceeds_update
  apply (proceeds_silently (hk .main)).outcomeOf
  rintro main between _ rfl
  apply (proceeds_silently (hk .replica)).outcomeOf
  rintro replica later _ rfl
  exact announce_ofOutcome_passage among later session.phase _

/-- What is neither routed nor an end has nothing to announce. -/
theorem aside_tells {operation : Operation} (ha : operation.isAside = true) :
    Proceeds (perform among.heard operation) session fun _ later notes =>
      notes = Phase.passage session.phase later.phase := by
  have hsame : perform among.heard operation = perform among.silently operation := by
    cases operation with
    | readHandle _ | writeHandle _ | close | abort _ => cases ha
    | _ => rfl
  have hk (notes : List (Phase × Phase)) : Fallible.Agrees (keepingEvents notes).onScenes
      (perform among.heard operation) (perform among.heard operation) := by
    rw [hsame]
    exact perform_agrees (fun _ => trivial) among.silently_keeps operation
  intro world notes
  obtain ⟨result, later, world', more, hr, rfl⟩ := proceeds_silently hk world notes
  have hc := perform_aside among.heard ha ⟨session, { world, events := notes }⟩
  rw [hr] at hc
  have hphase : later.phase = session.phase := core_phase hc
  refine ⟨result, later, world', [], hr, ?_⟩
  change [] = Phase.passage session.phase later.phase
  rw [hphase, Phase.passage_self]

/-- The listener is told of the phases before and after every operation, if they differ. -/
theorem perform_tells (operation : Operation) :
    Proceeds (perform among.heard operation) session fun _ later notes =>
      notes = Phase.passage session.phase later.phase := by
  by_cases ha : operation.isAside = true
  · exact aside_tells among session ha
  cases operation with
  | readHandle seed => exact (readHandle_tells among session seed).map _ fun _ _ _ h => h
  | writeHandle seed => exact (writeHandle_tells among session seed).map _ fun _ _ _ h => h
  | close =>
    have h := ending_tells among session fun kind _ =>
      closeSlot_agrees among.silently_keeps.toSurround kind
    exact done_proceeds session h fun _ _ _ hn => hn
  | abort deadline =>
    have h := ending_tells among session fun kind _ =>
      abortSlot_agrees among.silently_keeps kind deadline
    exact done_proceeds session h fun _ _ _ hn => hn
  | _ => exact absurd rfl ha

theorem entries_heard (turn : Turn σ) :
    entries among.heard session turn =
      Phase.passage session.phase (session.after among turn).phase :=
  entries_of_proceeds among.heard_agrees (perform_tells among session turn.operation)

end Telling

section Listener

variable {σ : Type} (among : Collaborators σ)

/-- The listener hears of one path through the phases, from the first to the present one. -/
theorem path_heard (turns : List (Turn σ)) (session : Session) :
    Phase.Path session.phase (account among.heard turns session)
      (run among turns session).phase := by
  induction turns generalizing session with
  | nil => exact rfl
  | cons turn turns ih =>
    obtain ⟨-, hs⟩ := perform_kept among.heard_agrees session turn
    simp only [account]
    rw [hs, entries_heard]
    exact (Phase.path_passage _ _).append (ih _)

/-- Whatever is heard in the course of a run is heard in one of its turns. -/
theorem mem_account {ε : Type} {keeper : Collaborators (Chronicle σ ε)} (turns : List (Turn σ))
    (h : Collaborators.Agrees Chronicle.erasing among keeper) (session : Session) (entry : ε)
    (hm : entry ∈ account keeper turns session) :
    ∃ earlier turn later, turns = earlier ++ turn :: later ∧
      entry ∈ entries keeper (run among earlier session) turn := by
  induction turns generalizing session with
  | nil => cases hm
  | cons turn turns ih =>
    simp only [account] at hm
    rcases List.mem_append.mp hm with hm | hm
    · exact ⟨[], turn, turns, rfl, hm⟩
    · rw [(perform_kept h session turn).2] at hm
      obtain ⟨earlier, next, later, rfl, he⟩ := ih _ hm
      exact ⟨turn :: earlier, next, later, rfl, he⟩

/-- In every run the listener hears of one contiguous path from a fresh session to the present
phase. Each step of it is a proper one to a phase that may come next, and main is left for nothing
at all only in a read that fails. -/
theorem listener_hears_path (turns : List (Turn σ)) (id : String) :
    let notes := account among.heard turns { id }
    Phase.Path .notInitialised notes (run among turns { id }).phase ∧
      (∀ note ∈ notes, note.2 ≠ note.1 ∧ note.2 ∈ note.1.successors) ∧
      ∀ earlier turn later, turns = earlier ++ turn :: later →
        let session := run among earlier { id }
        (.committedMain, .notInitialised) ∈ entries among.heard session turn →
          (∃ seed, turn.operation = .readHandle seed) ∧
            ∃ fault, session.answer among turn = .error fault := by
  intro notes
  refine ⟨path_heard among turns { id }, fun note hn => ?_, ?_⟩
  · obtain ⟨earlier, turn, later, -, he⟩ := mem_account among turns among.heard_agrees _ note hn
    rw [entries_heard, Phase.mem_passage] at he
    obtain ⟨hne, rfl⟩ := he
    -- a step that was told of is a proper one, so that it leads on
    have hp := (turn_performing among (run among earlier { id }) turn).passes
    exact ⟨hne, hp.onward.resolve_left hne⟩
  · intro earlier turn later _ session hm
    rw [entries_heard, Phase.mem_passage] at hm
    obtain ⟨-, he⟩ := hm
    obtain ⟨hb, ha⟩ := Prod.mk.inj he
    exact (turn_performing among session turn).passes.emptied hb.symm ha.symm

end Listener

end Session

end ReplicaRouting
