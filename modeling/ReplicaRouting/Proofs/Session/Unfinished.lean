import Mathlib.Data.List.Induction
import ReplicaRouting.Proofs.Session.Preparation

/-!
What becomes of unfinished handles in the course of a run. An operation that fails may leave one
behind, and as long as it is held it is answered like any other.
-/

namespace ReplicaRouting.Session

section Runs

variable {σ : Type} (among : Collaborators σ)

theorem run_append (turns more : List (Turn σ)) (session : Session) :
    run among (turns ++ more) session = run among more (run among turns session) :=
  List.foldl_append

/-- The connection was handed out in a turn that failed before all the calls had been made on it,
and no other of its kind has been handed out since. -/
def LeftUnfinished (kind : HandleKind) (connection : ConnectionId) (turns : List (Turn σ))
    (session : Session) : Prop :=
  ∃ earlier turn later, turns = earlier ++ turn :: later ∧
    let before := run among earlier session
    (∃ fault, before.answer among turn = .error fault) ∧
    Unfinished kind connection before.parameters.calls (entries among.watched before turn) ∧
    Unopened kind (account among.watched later (before.after among turn))

variable {among} {kind : HandleKind} {connection : ConnectionId} {turns : List (Turn σ)}
  {turn : Turn σ} {session : Session}

theorem LeftUnfinished.concat (h : LeftUnfinished among kind connection turns session)
    (hu : Unopened kind (entries among.watched (run among turns session) turn)) :
    LeftUnfinished among kind connection (turns ++ [turn]) session := by
  obtain ⟨earlier, failing, later, rfl, hf, hs, hl⟩ := h
  refine ⟨earlier, failing, later ++ [turn], by simp, hf, hs, ?_⟩
  rw [account_concat among.watched_agrees]
  rw [run_append] at hu
  exact hl.append hu

theorem leftUnfinished_now
    (hf : ∃ fault, (run among turns session).answer among turn = .error fault)
    (hs : Unfinished kind connection (run among turns session).parameters.calls
      (entries among.watched (run among turns session) turn)) :
    LeftUnfinished among kind connection (turns ++ [turn]) session :=
  ⟨turns, turn, [], rfl, hf, hs, .nil⟩

/-- What is held after a run is prepared or has been left unfinished, and a replica that is held
beside main has been left unfinished. -/
structure Accounted (among : Collaborators σ) (turns : List (Turn σ)) (session : Session) :
    Prop where
  each : ∀ kind handle, (run among turns session).hand kind = some handle →
    Prepared kind handle.connection (run among turns session).parameters.calls
        (account among.watched turns session) ∨
      LeftUnfinished among kind handle.connection turns session
  beside : ∀ main replica, (run among turns session).hand .main = some main →
    (run among turns session).hand .replica = some replica →
    LeftUnfinished among .replica replica.connection turns session

theorem Accounted.moves (h : Accounted among turns session)
    (hm : Moves (run among turns session) ((run among turns session).after among turn)
      (∃ fault, (run among turns session).answer among turn = .error fault)
      (entries among.watched (run among turns session) turn)) :
    Accounted among (turns ++ [turn]) session := by
  constructor
  · intro kind handle hl
    rw [run_concat] at hl ⊢
    rw [account_concat among.watched_agrees, hm.parameters]
    cases hm.arrived kind handle hl with
    | kept held still =>
      rcases h.each kind handle held with hp | hu
      · exact .inl (hp.append still)
      · exact .inr (hu.concat still)
    | prepared brought => exact .inl (brought.precede _)
    | unfinished fails short => exact .inr (leftUnfinished_now fails short)
  · intro main replica hmain hr
    rw [run_concat] at hmain hr
    rcases hm.beside main replica hmain hr with ⟨hmain', hr', still⟩ | ⟨fails, short⟩
    · exact (h.beside main replica hmain' hr').concat still
    · exact leftUnfinished_now fails short

/-- What is set on the handle in use is not set on a replica beside main. -/
theorem Accounted.aside (h : Accounted among turns session)
    (ht : Tidy (run among turns session))
    (ha : Aside (run among turns session) ((run among turns session).after among turn)
      (entries among.watched (run among turns session) turn)) :
    Accounted among (turns ++ [turn]) session := by
  have hhand := hand_of_core ha.core
  have still (kind : HandleKind) :
      Unopened kind (entries among.watched (run among turns session) turn) := .of_mild ha.mild
  constructor
  · intro kind handle hl
    rw [run_concat, hhand] at hl
    rw [run_concat, account_concat among.watched_agrees]
    rcases h.each kind handle hl with hp | hu
    · rcases currentHandle_or_beside (ht.open_of_held hl) hl with hcurrent | ⟨rfl, main, hmain⟩
      · -- the handle in use has had the new value set on it before that was recorded
        exact .inl (hp.extend (still kind) fun call hcall =>
          (ha.recorded call hcall).imp_right fun hnew => hnew handle hcurrent)
      · exact .inr ((h.beside main handle hmain hl).concat (still _))
    · exact .inr (hu.concat (still kind))
  · intro main replica hmain hr
    rw [run_concat, hhand] at hmain hr
    exact (h.beside main replica hmain hr).concat (still _)

theorem run_accounted (turns : List (Turn σ)) {session : Session}
    (hnone : session.hand = noHands) : Accounted among turns session := by
  have ht : Tidy session := fun _ => hnone
  -- from the end, as the account grows
  induction turns using List.reverseRecOn with
  | nil =>
    have hn (kind : HandleKind) (handle : Handle) (hl : session.hand kind = some handle) :
        False := by
      rw [hnone] at hl
      cases hl
    exact ⟨fun kind handle hl => (hn kind handle hl).elim, fun _ replica _ hr =>
      (hn .replica replica hr).elim⟩
  | append_singleton turns turn ih =>
    have htidy := (run_tidy among turns ht).1
    rcases (turn_performing among (run among turns session) turn).moves htidy with hm | ha
    · exact ih.moves hm
    · exact ih.aside htidy ha

/-- A handle that is answered has had every recorded parameter set on it since it was obtained, or
the operation that obtained it failed before that was done, and it has been kept since then. -/
theorem answered_prepared_or_left_unfinished (turns : List (Turn σ)) (turn : Turn σ) (id : String)
    {handle : Handle}
    (hok : (run among turns { id }).answer among turn = .ok (.handle handle)) :
    Prepared handle.kind handle.connection (run among (turns ++ [turn]) { id }).parameters.calls
        (account among.watched (turns ++ [turn]) { id }) ∨
      LeftUnfinished among handle.kind handle.connection (turns ++ [turn]) { id } := by
  have hnone : ({ id } : Session).hand = noHands := hand_emptied ⟨rfl, rfl⟩
  obtain ⟨kind, hheld⟩ := (turn_performing among (run among turns { id }) turn).held hok
  rw [← run_concat] at hheld
  have hcustody := run_custody among (turns ++ [turn]) { id }
  have hkind : handle.kind = kind := by
    rcases hcustody.mem_handedOut hheld with hn | ⟨hk, -⟩
    · rw [hnone] at hn
      cases hn
    · exact hk
  rw [hkind]
  exact (run_accounted _ hnone).each kind handle hheld

/-- A deployment whose replica cannot be closed. -/
def unclosableReplica : Deployment Bool :=
  { Deployment.obliging with
    database := { Database.obliging Bool with
      call := fun connection call world =>
        if connection = ⟨1⟩ ∧ call = .close then
          (.error (.operationFailed .replica "close" "busy"), world)
        else (.ok (), world) } }

/-- Closing the replica fails after main was opened, and the next write is answered with main as it
was left. -/
theorem unfinished_main_answered :
    let among := unclosableReplica.collaborators
    let turns : List (Turn Bool) :=
      [⟨.readHandle (.read "SELECT 1"), true⟩, ⟨.applySetStatement "SET search_path TO app", true⟩,
        ⟨.writeHandle (.write "DELETE FROM t"), true⟩]
    let turn : Turn Bool := ⟨.writeHandle (.write "DELETE FROM t"), true⟩
    (run among turns { id := "a" }).answer among turn = .ok (.handle (.main ⟨0⟩)) ∧
      .execute "SET search_path TO app" ∈
        (run among (turns ++ [turn]) { id := "a" }).parameters.calls ∧
      LeftUnfinished among .main ⟨0⟩ (turns ++ [turn]) { id := "a" } := by
  intro among turns turn
  have hok : (run among turns { id := "a" }).answer among turn = .ok (.handle (.main ⟨0⟩)) := by
    decide +kernel
  have hset : .execute "SET search_path TO app" ∈
      (run among (turns ++ [turn]) { id := "a" }).parameters.calls := by decide +kernel
  have hunset : .called ⟨0⟩ (.execute "SET search_path TO app") (.ok ()) ∉
      account among.watched (turns ++ [turn]) { id := "a" } := by decide +kernel
  refine ⟨hok, hset, ?_⟩
  rcases answered_prepared_or_left_unfinished turns turn "a" hok with ⟨after, hs, -, hc⟩ | hu
  · have hmem := hs.mem (List.mem_cons_of_mem _ (hc _ hset))
    exact absurd hmem hunset
  · exact hu

end Runs

end ReplicaRouting.Session
