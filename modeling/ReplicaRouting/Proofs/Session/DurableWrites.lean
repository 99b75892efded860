import Mathlib.Data.List.Induction
import ReplicaRouting.Proofs.Routing.Writes
import ReplicaRouting.Proofs.Session.Connections
import ReplicaRouting.Proofs.Session.Reports
import ReplicaRouting.Proofs.Session.Unfinished

/-!
Durable writes and the tracker. A write that commits by itself is reported at once; in a
transaction it waits, and no commit goes by without a report.
-/

namespace ReplicaRouting.Session

open Act

variable {σ : Type} (among : Collaborators σ)

section Handles

variable {among} {session : Session} {turn : Turn σ} {seed : Decision} {handle : Handle}

/-- Whoever takes a handle for writing finds the session on main for good. -/
theorem after_write_pinned (hw : turn.operation = .writeHandle seed)
    (ha : session.answer among turn = .ok (.handle handle)) :
    PinnedTo handle (session.after among turn) := by
  unfold answer after at *
  rw [hw, perform, Fallible.map_apply] at *
  have hok : (writeHandle among seed ⟨session, turn.world⟩).1 = .ok handle := by
    rcases hr : (writeHandle among seed ⟨session, turn.world⟩).1 with fault | taken
    · rw [hr] at ha
      cases ha
    · rw [hr] at ha
      cases ha
      rfl
  cases ho : session.closed with
  | true =>
    rw [writeHandle_of_closed among seed ho] at hok
    cases hok
  | false =>
    let scene : Scene σ := ⟨session, turn.world⟩
    have hopen : scene.session.closed = false := ho
    obtain ⟨later, ht, hs⟩ := writeHandle_takes among seed hopen
    rw [hok] at ht hs
    have hon : PinnedTo handle later := ht.onMain ho
    rw [hs]
    exact (hon.repinned seed (.ok handle)).concluded seed (.ok handle)

/-- A session that is closed commits nothing. -/
theorem uncommitted_of_closed (hc : turn.operation = .commit) (ho : session.closed = true) :
    session.answer among turn ≠ .ok .done := by
  have hrefused : commit among ⟨session, turn.world⟩ =
      (.error (.sessionClosed session.id), ⟨session, turn.world⟩) := by
    unfold commit
    exact Fallible.bind_of_error (ensureOpen_of_closed ho) _
  unfold answer
  rw [hc, perform, Fallible.bind_of_error hrefused]
  rintro ⟨⟩

end Handles

section Runs

/-- The turn comes right after a write statement on a handle that had been taken for writing. -/
def FollowsStatement (earlier : List (Turn σ)) (turn : Turn σ) (session : Session) : Prop :=
  turn.operation = .recordWrite ∧
    ∃ first taking between seed handle, earlier = first ++ taking :: between ∧
      taking.operation = .writeHandle seed ∧
      (run among first session).answer among taking = .ok (.handle handle)

/-- The last turn is a commit that succeeds. -/
def CommittedLast (turns : List (Turn σ)) (session : Session) : Prop :=
  ∃ before turn, turns = before ++ [turn] ∧ turn.operation = .commit ∧
    (run among before session).answer among turn = .ok .done

/-- Nothing is left that a commit would make durable. -/
def Settled (turns : List (Turn σ)) (session : Session) : Prop :=
  (run among turns session).closed = false ∧
      (run among turns session).parameters.autoCommits = true ∨
    CommittedLast among turns session

/-- What has been written waits for a commit that is still to come. -/
structure Waiting (turns : List (Turn σ)) (session : Session) : Prop where
  manual : (run among turns session).parameters.autoCommits = false
  uncommitted : ¬ CommittedLast among turns session

variable {among} {turns later : List (Turn σ)} {statement turn : Turn σ} {session : Session}
  {main : Handle}

theorem not_settled_of_waiting (h : Waiting among turns session) :
    ¬ Settled among turns session := by
  rintro (⟨-, hauto⟩ | hcommitted)
  · rw [h.manual] at hauto
    cases hauto
  · exact h.uncommitted hcommitted

theorem Settled.rest (h : Settled among (turns ++ turn :: later) session) :
    Settled among (turn :: later) (run among turns session) := by
  unfold Settled at *
  rw [run_append] at h
  refine h.imp (fun hopen => hopen) ?_
  rintro ⟨before, last, hsplit, hcommit, hdone⟩
  rcases List.append_eq_append_iff.mp hsplit with ⟨start, rfl, hrest⟩ | ⟨middle, rfl, hlast⟩
  · rw [run_append] at hdone
    exact ⟨start, last, hrest, hcommit, hdone⟩
  · -- the rest is the commit alone
    obtain ⟨rfl, hone⟩ : middle = [] ∧ [last] = turn :: later := by
      cases middle <;> simp_all
    rw [List.append_nil]
    exact ⟨[], last, hone.symm, hcommit, hdone⟩

/-- Nothing is settled by a session that has been ended. -/
theorem unended_of_settled (ht : Tidy session) (h : Settled among turns session) :
    ∀ turn ∈ turns, turn.operation.isEnd = false := by
  intro turn hturn
  by_contra hend
  rw [Bool.not_eq_false] at hend
  -- an ended session is closed, and a closed one has no commit that succeeds
  rcases h with ⟨hopen, -⟩ | ⟨before, last, rfl, hlast, hanswer⟩
  · have hclosed := (run_tidy among turns ht).2 (.inr ⟨turn, hturn, hend⟩)
    rw [hopen] at hclosed
    cases hclosed
  · -- the end was before the commit, which was refused then
    rcases List.mem_append.mp hturn with hturn | hturn
    · have hclosed := (run_tidy among before ht).2 (.inr ⟨turn, hturn, hend⟩)
      exact uncommitted_of_closed hlast hclosed hanswer
    · rw [List.mem_singleton.mp hturn, hlast] at hend
      cases hend

/-- A write that commits by itself is reported at once. -/
theorem entries_of_recordWrite (among : Collaborators σ) (hp : PinnedTo main session)
    (hs : statement.operation = .recordWrite) (hauto : session.parameters.autoCommits = true) :
    entries among.reporting session statement = [.write main] := by
  unfold entries
  rw [hs, perform, Fallible.bind_pure_world, hp.recordWrite_eq, hauto]
  rfl

/-- On main, a turn that starts with something waiting reports it or leaves it waiting. -/
theorem Waiting.after_turn (h : Waiting among turns session) (turn : Turn σ)
    (hp : PinnedTo main (run among turns session)) :
    .write main ∈ entries among.reporting (run among turns session) turn ∨
      Waiting among (turns ++ [turn]) session := by
  have hmain := hp.main
  have hphase := hp.phase
  -- from here on only the account of the one turn counts
  generalize hs : run among turns session = start at *
  have hmanual : start.parameters.autoCommits = false := hs ▸ h.manual
  have htelling := turn_telling among start turn
  generalize ho : turn.operation = operation at htelling
  generalize ha : start.answer among turn = answer at htelling
  generalize hl : start.after among turn = later at htelling
  generalize entries among.reporting start turn = reports at htelling ⊢
  cases htelling with
  | recorded _ _ auto =>
    rw [hmanual] at auto
    cases auto
  | committed _ held =>
    cases hmain.symm.trans held
    exact .inl (by simp)
  | switched _ held =>
    cases hmain.symm.trans held
    exact .inl (by simp)
  | unwritten _ _ uncommitted unswitched =>
    refine .inr ⟨?_, ?_⟩
    · rw [run_concat, hs, hl]
      exact unswitched hphase hmanual
    · -- on main, a commit that succeeds without a report is one of a session that commits by itself
      rintro ⟨before, last, hsplit, hcommit, hdone⟩
      obtain ⟨rfl, rfl⟩ := List.concat_inj.mp (by simpa using hsplit)
      rw [hs, ha] at hdone
      have hauto := uncommitted hphase (ho.symm.trans hcommit) hdone
      rw [hmanual] at hauto
      cases hauto

/-- What a statement has written is reported from then on, or waits. -/
theorem reported_or_waiting (hp : PinnedTo main session)
    (hs : statement.operation = .recordWrite)
    (hl : ∀ turn ∈ later, turn.operation.isEnd = false) :
    .write main ∈ account among.reporting (statement :: later) session ∨
      Waiting among (statement :: later) session := by
  -- from the end, since what waits is a matter of the session after the latest turn
  induction later using List.reverseRecOn with
  | nil =>
    cases hmode : session.parameters.autoCommits with
    | true =>
      have htold := entries_of_recordWrite among hp hs hmode
      exact .inl (by simp [account, htold])
    | false =>
      have hstart : Waiting among [] session := by
        refine ⟨hmode, ?_⟩
        rintro ⟨before, last, hnil, -⟩
        simp at hnil
      simpa [account, run] using hstart.after_turn statement hp
  | append_singleton later turn ih =>
    have hlater : ∀ turn ∈ later, turn.operation.isEnd = false := by
      intro other ho
      exact hl other (List.mem_append_left _ ho)
    rw [← List.cons_append, account_concat among.reporting_agrees]
    rcases ih hlater with hreported | hwaiting
    · exact .inl (List.mem_append_left _ hreported)
    · have hrun : PinnedTo main (run among (statement :: later) session) := by
        apply run_pinned among hp
        intro other ho
        rcases List.mem_cons.mp ho with rfl | ho
        · rw [hs]
          rfl
        · exact hlater other ho
      rcases hwaiting.after_turn turn hrun with htold | hstill
      · exact .inl (List.mem_append_right _ htold)
      · exact .inr hstill

/-- Where a report of a write comes from. -/
theorem Telling.reported {operation : Operation} {answer : Except Fault Answer} {after : Session}
    {reports : List Dispatch} (h : Telling session operation answer after reports)
    (hw : .write main ∈ reports) :
    session.phase = .main ∧ session.main.handle? = some main ∧
      (operation = .recordWrite ∧ session.parameters.autoCommits = true ∧
          reports = [.write main] ∨
        session.parameters.autoCommits = false ∧ answer = .ok .done ∧
          (operation = .commit ∧
              reports =
                [.preCommit main, .call main.connection .commit (.ok ()), .write main] ∨
            operation = .setAutoCommit true ∧
              reports =
                [.call main.connection (.setAutoCommit true) (.ok ()), .write main])) := by
  cases h with
  | recorded pinned held auto =>
    obtain rfl : main = _ := by simpa using hw
    exact ⟨pinned, held, .inl ⟨rfl, auto, rfl⟩⟩
  | committed pinned held manual =>
    obtain rfl : main = _ := by simpa using hw
    exact ⟨pinned, held, .inr ⟨manual, rfl, .inl ⟨rfl, rfl⟩⟩⟩
  | switched pinned held manual =>
    obtain rfl : main = _ := by simpa using hw
    exact ⟨pinned, held, .inr ⟨manual, rfl, .inr ⟨rfl, rfl⟩⟩⟩
  | unwritten unwritten => exact absurd hw (unwritten main)

/-- No durable write goes unreported, whatever fails in the course of a run. Once the session
commits by itself again, and after every commit that succeeds, each statement on a handle that had
been taken for writing has been reported with the main handle of the session, even those that were
rolled back. A write is reported when it is recorded while the session commits by itself, and
otherwise in a commit or a switch back, after their call on the connection and only if that
succeeds. -/
theorem durable_writes_reported (among : Collaborators σ) (turns : List (Turn σ)) (id : String) :
    let session := run among turns { id }
    (∀ earlier statement later, turns = earlier ++ statement :: later →
      FollowsStatement among earlier statement { id } → Settled among turns { id } →
        ∃ main, session.main.handle? = some main ∧
          .write main ∈ account among.reporting (statement :: later) (run among earlier { id })) ∧
    ∀ turn main, .write main ∈ entries among.reporting session turn →
      session.phase = .main ∧ session.main.handle? = some main ∧
        (turn.operation = .recordWrite ∧ session.parameters.autoCommits = true ∧
            entries among.reporting session turn = [.write main] ∨
          session.parameters.autoCommits = false ∧ session.answer among turn = .ok .done ∧
            (turn.operation = .commit ∧
                entries among.reporting session turn =
                  [.preCommit main, .call main.connection .commit (.ok ()), .write main] ∨
              turn.operation = .setAutoCommit true ∧
                entries among.reporting session turn =
                  [.call main.connection (.setAutoCommit true) (.ok ()), .write main])) := by
  intro session
  refine ⟨?_, fun turn main hw => (turn_telling among session turn).reported hw⟩
  rintro earlier statement later rfl ⟨hs, first, taking, between, seed, main, rfl, hw, ha⟩ hsettled
  have htidy : Tidy { id } := fun hc => by cases hc
  have hend := unended_of_settled htidy hsettled
  have hbetween : ∀ turn ∈ between, turn.operation.isEnd = false := by
    intro turn ht
    exact hend turn (by simp [ht])
  have hlater : ∀ turn ∈ statement :: later, turn.operation.isEnd = false := by
    intro turn ht
    exact hend turn (List.mem_append_right _ ht)
  -- the handle that was taken for writing is the one the session stays on
  have htaken : PinnedTo main (run among (first ++ taking :: between) { id }) := by
    rw [run_append]
    exact run_pinned among (after_write_pinned hw ha) between hbetween
  have hpinned : PinnedTo main session := by
    change PinnedTo main (run among (_ ++ statement :: later) { id })
    rw [run_append]
    exact run_pinned among htaken (statement :: later) hlater
  refine ⟨main, hpinned.main, ?_⟩
  have hrest := hsettled.rest
  rcases reported_or_waiting htaken hs fun turn ht => hlater turn (List.mem_cons_of_mem _ ht) with
    hreported | hwaiting
  · exact hreported
  · exact absurd hrest (not_settled_of_waiting hwaiting)

/-- What was written in a transaction is reported by the commit that follows a rollback. -/
theorem rolled_back_write_reported :
    let among := Deployment.obliging.collaborators
    let earlier : List (Turn Bool) :=
      [⟨.setAutoCommit false, true⟩, ⟨.writeHandle (.write "DELETE FROM t"), true⟩]
    let later : List (Turn Bool) := [⟨.rollback, true⟩, ⟨.commit, true⟩]
    ∃ main, .write main ∈ account among.reporting (⟨.recordWrite, true⟩ :: later)
      (run among earlier { id := "a" }) := by
  intro among earlier later
  have hfollows : FollowsStatement among earlier ⟨.recordWrite, true⟩ { id := "a" } :=
    ⟨rfl, [⟨.setAutoCommit false, true⟩], ⟨.writeHandle (.write "DELETE FROM t"), true⟩, [],
      .write "DELETE FROM t", .main ⟨0⟩, rfl, rfl, by decide +kernel⟩
  have hsettled : Settled among (earlier ++ ⟨.recordWrite, true⟩ :: later) { id := "a" } :=
    .inr ⟨earlier ++ [⟨.recordWrite, true⟩, ⟨.rollback, true⟩], ⟨.commit, true⟩, rfl, rfl,
      by decide +kernel⟩
  obtain ⟨main, -, hreported⟩ :=
    (durable_writes_reported among (earlier ++ ⟨.recordWrite, true⟩ :: later) "a").1
      earlier _ later rfl hfollows hsettled
  exact ⟨main, hreported⟩

end Runs

end ReplicaRouting.Session
