import ReplicaRouting.Proofs.Session.Conduct.Asides

/-!
Every operation takes one of its courses, whatever the collaborators do.
-/

namespace ReplicaRouting.Session

open Act

variable {σ : Type} (among : Collaborators σ) (session : Session)

section Ends

variable {slot : HandleKind → Act (Chronicle σ Event) Unit}
  {course : HandleKind → Session → Except Fault Unit → Session → List Event → Prop}

theorem ending_ending (h : ∀ kind session, Proceeds (slot kind) session (course kind session)) :
    Proceeds (ending among.watched slot) session (Ending course session) := by
  apply proceeds_session
  split
  · rename_i closed
    exact proceeds_pure () (.again closed)
  rename_i opened
  apply proceeds_update
  apply (h .main _).outcomeOf
  intro main between first hm
  apply (h .replica between).outcomeOf
  intro replica later second hr
  apply (announce_silent among later session.phase).bind
  · rintro _ _ ⟨ht, -⟩
    cases ht
  rintro _ _ ⟨-, rfl⟩
  refine proceeds_ofOutcome _ ?_
  rw [List.append_nil, List.append_nil]
  exact .ended (Bool.eq_false_iff.mpr opened) hm hr

end Ends

/-- An operation that has nothing to answer. -/
theorem done_proceeds {ε : Type} {act : Act (Chronicle σ ε) Unit}
    {course : Except Fault Unit → Session → List ε → Prop}
    {told : Except Fault Answer → Session → List ε → Prop} (h : Proceeds act session course)
    (hc : ∀ result later events, course result later events →
      told (result.map fun _ => .done) later events) :
    Proceeds
      (do
        act
        return Answer.done : Act (Chronicle σ ε) Answer) session told := by
  apply h.bind
  · exact fun fault later events hr => hc (.error fault) later events hr
  · intro _ later events hr
    refine proceeds_pure Answer.done ?_
    rw [List.append_nil]
    exact hc (.ok ()) later events hr

theorem done_aside {act : Act (Chronicle σ Event) Unit} {operation : Operation}
    (ha : operation.isAside = true)
    (h : Proceeds act session fun _ later events => Aside session later events) :
    Proceeds
      (do
        act
        return Answer.done : Act (Chronicle σ Event) Answer) session
      (Performing session operation) :=
  done_proceeds session h fun result _ _ haside =>
    .aside ha _ haside fun _ => by cases result <;> rintro ⟨⟩

/-- Every operation takes one of its courses. -/
theorem perform_performing (operation : Operation) :
    Proceeds (perform among.watched operation) session (Performing session operation) := by
  cases operation with
  | readHandle seed =>
    exact (readHandle_reading among session seed).map _ fun _ _ _ h => .read seed h
  | writeHandle seed =>
    exact (writeHandle_writing among session seed).map _ fun _ _ _ h => .write seed h
  | recordWrite => exact done_aside session rfl (recordWrite_aside among session)
  | commit => exact done_aside session rfl (commit_aside among session)
  | rollback => exact done_aside session rfl (rollback_aside among session)
  | setAutoCommit value => exact done_aside session rfl (setAutoCommit_aside among session value)
  | setReadOnly value => exact done_aside session rfl (setReadOnly_aside among session value)
  | setIsolation level => exact done_aside session rfl (setIsolation_aside among session level)
  | applySetStatement sql =>
    exact done_aside session rfl (applySetStatement_aside among session sql)
  | listWarnings =>
    exact (listWarnings_aside among session).map _ fun result _ _ h =>
      .aside rfl _ h fun _ => by cases result <;> rintro ⟨⟩
  | clearWarnings => exact done_aside session rfl (clearWarnings_aside among session)
  | close =>
    have h : Proceeds (close among.watched) session (Ending Closing session) := by
      rw [close_eq]
      exact ending_ending among session fun kind session => closeSlot_closing among session kind
    exact done_proceeds session h fun _ _ _ he => .close he
  | abort deadline =>
    have h : Proceeds (abort among.watched deadline) session
        (Ending (Aborting deadline) session) := by
      rw [abort_eq]
      exact ending_ending among session fun kind session =>
        abortSlot_aborting among session deadline kind
    exact done_proceeds session h fun _ _ _ he => .abort deadline he

/-- Every turn takes one of the courses of its operation. -/
theorem turn_performing (turn : Turn σ) :
    Performing session turn.operation (session.answer among turn) (session.after among turn)
      (entries among.watched session turn) :=
  entries_of_proceeds among.watched_agrees (perform_performing among session turn.operation)

end ReplicaRouting.Session
