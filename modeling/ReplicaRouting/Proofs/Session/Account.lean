import ReplicaRouting.Proofs.Chronicle
import ReplicaRouting.Proofs.Routing.Agreement
import ReplicaRouting.Proofs.Session.Reachable

/-!
Accounts of runs. A keeper does what the collaborators of a session do and enters some of it: the
requests to the database, or what the listener is told. Chains and trackers are passed over, as is
whatever they do to the world by themselves.
-/

namespace ReplicaRouting

open Chronicle

section Silence

variable {σ ε q r α μ : Type}

/-- The consultation in a world with an account, which passes it over. -/
def Inquiry.silently : Inquiry σ q r α → List ε → Inquiry (Chronicle σ ε) q r α
  | answered answer world, events => answered answer { world, events }
  | asking question world resume, events =>
    asking question { world, events } fun reply chronicle =>
      (resume reply chronicle.world).silently chronicle.events

def Consult.silently (consult : Consult σ q r α) : Consult (Chronicle σ ε) q r α :=
  fun chronicle => (consult chronicle.world).silently chronicle.events

def Tracker.silently (tracker : Tracker σ) : Tracker (Chronicle σ ε) where
  write main := onWorld (tracker.write main)
  preCommit main := onWorld (tracker.preCommit main)
  isConsistent := tracker.isConsistent.silently

def Database.silently (database : Database σ) : Database (Chronicle σ ε) where
  replicaAvailable := Chronicle.silently database.replicaAvailable
  openMain := Chronicle.silently database.openMain
  openReplica := Chronicle.silently database.openReplica
  call connection call := Chronicle.silently (database.call connection call)
  warnings connection := Chronicle.silently (database.warnings connection)

/-- The collaborators with an account that nothing is entered in. -/
def Collaborators.silently (among : Collaborators σ) : Collaborators (Chronicle σ ε) where
  database := among.database.silently
  tracker := among.tracker.silently
  chain := among.chain.map fun chief decision replicas => (chief decision replicas).silently
  listener before after := onWorld (among.listener before after)
  log notice := onWorld (among.log notice)

/-- The collaborators, with an entry for every request to the database. -/
def Collaborators.watched (among : Collaborators σ) : Collaborators (Chronicle σ Event) :=
  { among.silently with database := among.database.watched }

/-- The collaborators, with an entry for everything that the listener is told. -/
def Collaborators.heard (among : Collaborators σ) : Collaborators (Chronicle σ (Phase × Phase)) :=
  { among.silently with
    listener := fun before after chronicle =>
      { world := among.listener before after chronicle.world
        events := chronicle.events ++ [(before, after)] } }

theorem Consult.silently_agrees (consult : Consult σ q r α) :
    Consult.Agrees (erasing : Bond σ (Chronicle σ ε)) consult consult.silently := by
  have hi (inquiry : Inquiry σ q r α) (events : List ε) :
      Inquiry.Agrees erasing inquiry (inquiry.silently events) := by
    induction inquiry generalizing events with
    | answered answer world => exact .answered answer rfl
    | asking question world resume ih =>
      refine .asking question rfl ?_
      -- however the account has grown in between, the resumed consultation passes it over again
      rintro reply _ chronicle rfl
      exact ih reply chronicle.world chronicle.events
  rintro _ chronicle rfl
  exact hi _ _

theorem Inquiry.silently_bind {β : Type} (next : α → Consult σ q r β) (inquiry : Inquiry σ q r α)
    (events : List ε) :
    (inquiry.bind next).silently events =
      (inquiry.silently events).bind fun answer => (next answer).silently := by
  induction inquiry generalizing events with
  | answered answer world => rfl
  | asking question world resume ih =>
    simp only [bind, silently, asking.injEq, true_and]
    funext reply chronicle
    exact ih reply chronicle.world chronicle.events

/-- Reply to questions in a world with an account, which passes that over. -/
def Chronicle.replying (reply : q → μ → σ → r × μ × σ) (question : q) (memory : μ)
    (chronicle : Chronicle σ ε) : r × μ × Chronicle σ ε :=
  let (given, memory, world) := reply question memory chronicle.world
  (given, memory, { chronicle with world })

theorem Consult.run_silently (reply : q → μ → σ → r × μ × σ) (consult : Consult σ q r α)
    (memory : μ) (world : σ) (events : List ε) :
    consult.silently.run (replying reply) memory { world, events } =
      let (answer, memory, world) := consult.run reply memory world
      (answer, memory, { world, events }) := by
  have hi (inquiry : Inquiry σ q r α) (memory : μ) :
      (inquiry.silently events).run (replying reply) memory =
        let (answer, memory, world) := inquiry.run reply memory
        (answer, memory, { world, events }) := by
    induction inquiry generalizing memory with
    | answered answer world => rfl
    | asking question world resume ih => exact ih _ _ _
  exact hi (consult world) memory

/-- With a handle at hand nothing is supplied. -/
theorem Inquiry.run_silently_of_held (supply : Fallible (Chronicle σ ε) Handle)
    (inquiry : Inquiry σ q Supply α) (events : List ε) (handle : Handle) :
    ∃ answer world,
      (inquiry.silently events).run (Consult.replyWithHandle supply) (some handle) =
        (answer, some handle, { world, events }) := by
  induction inquiry generalizing events with
  | answered answer world => exact ⟨answer, world, rfl⟩
  | asking question world resume ih => exact ih (.ok handle) world events

/-- A chain of chiefs that are passed over is passed over as a whole. -/
theorem Chain.decide_silently (chain : Chain σ) (seed : Decision) (replicas : Nat) :
    Chain.decide
        (chain.map fun chief decision replicas =>
          (chief decision replicas).silently : Chain (Chronicle σ ε)) seed replicas =
      (chain.decide seed replicas).silently := by
  induction chain generalizing seed with
  | nil => rfl
  | cons chief chiefs ih =>
    simp only [List.map_cons, decide]
    split
    · rfl
    · funext chronicle
      have hnext : (fun decision => Chain.decide (chiefs.map fun chief decision replicas =>
            (chief decision replicas).silently : Chain (Chronicle σ ε)) decision replicas) =
          fun decision => (Chain.decide chiefs decision replicas).silently :=
        funext ih
      calc
        _ = ((chief seed replicas chronicle.world).silently chronicle.events).bind
              fun decision => (Chain.decide chiefs decision replicas).silently := by
            rw [← hnext]
            rfl
        _ = _ := (Inquiry.silently_bind _ _ _).symm

theorem erasing_keeps (f : σ → σ) :
    (erasing : Bond σ (Chronicle σ ε)).Keeps f (onWorld f) := by
  rintro _ chronicle rfl
  exact ⟨rfl, id⟩

theorem erasing_answers (action : StateM σ α) :
    (erasing : Bond σ (Chronicle σ ε)).Answers action (Chronicle.silently action) := by
  rintro _ chronicle rfl
  exact ⟨rfl, rfl⟩

theorem erasing_silently (action : Fallible σ α) :
    Fallible.Agrees (erasing : Bond σ (Chronicle σ ε)) action (Chronicle.silently action) := by
  rintro _ chronicle rfl
  exact ⟨rfl, rfl, fun _ => trivial, fun _ _ => trivial⟩

theorem erasing_entering (entry : Except Fault α → ε) (action : Fallible σ α) :
    Fallible.Agrees erasing action (entering entry action) := by
  rintro _ chronicle rfl
  exact ⟨rfl, rfl, fun _ => trivial, fun _ _ => trivial⟩

variable (among : Collaborators σ)

theorem Collaborators.silently_decide (seed : Decision) (replicas : Nat) :
    (among.silently : Collaborators (Chronicle σ ε)).chain.decide seed replicas =
      (among.chain.decide seed replicas).silently :=
  among.chain.decide_silently seed replicas

theorem Collaborators.silently_agrees :
    Collaborators.Agrees (erasing : Bond σ (Chronicle σ ε)) among among.silently where
  database :=
    { available := erasing_answers _
      openMain := erasing_silently _
      openReplica := erasing_silently _
      call := fun _ _ => erasing_silently _
      warnings := fun _ => erasing_silently _ }
  listener _ _ := erasing_keeps _
  log _ := erasing_keeps _
  write _ := erasing_keeps _
  preCommit _ := erasing_keeps _
  decide := by
    apply Chain.decide_agrees
    refine List.forall₂_map_right_iff.mpr (List.forall₂_same.mpr ?_)
    intro chief _ decision replicas
    exact Consult.silently_agrees _

theorem Collaborators.watched_agrees : Collaborators.Agrees erasing among among.watched :=
  { among.silently_agrees with
    database :=
      { available := erasing_answers _
        openMain := erasing_entering _ _
        openReplica := erasing_entering _ _
        call := fun _ _ => erasing_entering _ _
        warnings := fun _ => erasing_entering _ _ } }

theorem Collaborators.heard_agrees : Collaborators.Agrees erasing among among.heard :=
  { among.silently_agrees with
    listener := by
      rintro before after _ chronicle rfl
      exact ⟨rfl, id⟩ }

section Keeping

/-- The bond of chronicles with themselves as long as their accounts are of a kind. -/
def keepingAccount (P : List ε → Prop) : Bond (Chronicle σ ε) (Chronicle σ ε) :=
  .keeping fun chronicle => P chronicle.events

/-- The bond of chronicles with themselves as long as nothing is entered. -/
def keepingEvents (events : List ε) : Bond (Chronicle σ ε) (Chronicle σ ε) :=
  .keeping fun chronicle => chronicle.events = events

variable (P : List ε → Prop)

theorem Consult.silently_keeps (consult : Consult σ q r α) :
    Consult.Agrees (keepingAccount P) consult.silently consult.silently := by
  have hi (inquiry : Inquiry σ q r α) (events : List ε) (he : P events) :
      Inquiry.Agrees (keepingAccount P) (inquiry.silently events) (inquiry.silently events) := by
    induction inquiry generalizing events with
    | answered answer world => exact .answered answer ⟨rfl, he⟩
    | asking question world resume ih =>
      refine .asking question ⟨rfl, he⟩ ?_
      rintro reply chronicle _ ⟨rfl, he⟩
      exact ih reply chronicle.world chronicle.events he
  rintro chronicle _ ⟨rfl, he⟩
  exact hi _ _ he

theorem keepingAccount_keeps (f : σ → σ) : (keepingAccount P).Keeps (onWorld f) (onWorld f) := by
  rintro chronicle _ ⟨rfl, he⟩
  exact ⟨⟨rfl, he⟩, id⟩

theorem keepingAccount_silently (action : Fallible σ α) :
    Fallible.Agrees (keepingAccount P) (Chronicle.silently action)
      (Chronicle.silently action) := by
  rintro chronicle _ ⟨rfl, he⟩
  exact ⟨rfl, ⟨rfl, he⟩, fun _ => trivial, fun _ _ => trivial⟩

/-- Passed over as they are, the collaborators leave an account of any kind at that. -/
theorem Collaborators.silently_keeps_account :
    Collaborators.Agrees (keepingAccount P) among.silently among.silently where
  database :=
    { available := by
        rintro chronicle _ ⟨rfl, he⟩
        exact ⟨rfl, rfl, he⟩
      openMain := keepingAccount_silently P _
      openReplica := keepingAccount_silently P _
      call := fun _ _ => keepingAccount_silently P _
      warnings := fun _ => keepingAccount_silently P _ }
  listener _ _ := keepingAccount_keeps P _
  log _ := keepingAccount_keeps P _
  write _ := keepingAccount_keeps P _
  preCommit _ := keepingAccount_keeps P _
  decide seed replicas := by
    rw [among.silently_decide]
    exact Consult.silently_keeps P _

/-- Passed over as they are, the collaborators enter nothing. -/
theorem Collaborators.silently_keeps {events : List ε} :
    Collaborators.Agrees (keepingEvents events) among.silently among.silently :=
  among.silently_keeps_account (· = events)

end Keeping

end Silence

/-- A list with one more element is split at one of those before, or at the last. -/
theorem exists_split_concat_iff {α : Type} {P : List α → α → List α → Prop} (xs : List α)
    (last : α) :
    (∃ earlier x later, xs ++ [last] = earlier ++ x :: later ∧ P earlier x later) ↔
      (∃ earlier x later, xs = earlier ++ x :: later ∧ P earlier x (later ++ [last])) ∨
        P xs last [] := by
  constructor
  · rintro ⟨earlier, x, later, heq, hp⟩
    rcases List.eq_nil_or_concat' later with rfl | ⟨between, final, rfl⟩
    · obtain ⟨rfl, hlast⟩ := List.append_inj' heq rfl
      obtain rfl := List.singleton_inj.mp hlast
      exact .inr hp
    · rw [← List.cons_append, ← List.append_assoc] at heq
      obtain ⟨rfl, hlast⟩ := List.append_inj' heq rfl
      obtain rfl := List.singleton_inj.mp hlast
      exact .inl ⟨earlier, x, between, rfl, hp⟩
  · rintro (⟨earlier, x, later, rfl, hp⟩ | hp)
    · exact ⟨earlier, x, later ++ [last], by simp, hp⟩
    · exact ⟨xs, last, [], rfl, hp⟩

namespace Session

variable {σ ε : Type}

/-- The result of the operation of a turn. -/
def answer (among : Collaborators σ) (session : Session) (turn : Turn σ) : Except Fault Answer :=
  (perform among turn.operation ⟨session, turn.world⟩).1

section Answering

theorem ok_of_map_handle {result : Except Fault Handle} {handle : Handle}
    (h : result.map Answer.handle = .ok (.handle handle)) : result = .ok handle := by
  cases result with
  | error fault => cases h
  | ok taken =>
    cases h
    rfl

variable (among : Collaborators σ) (session : Session) (seed : Decision) (world : σ)
  (handle : Handle)

theorem answer_readHandle :
    session.answer among ⟨.readHandle seed, world⟩ = .ok (.handle handle) ↔
      (readHandle among seed ⟨session, world⟩).1 = .ok handle := by
  rw [answer, perform, Fallible.map_apply]
  exact ⟨ok_of_map_handle, fun h => by rw [h]; rfl⟩

theorem answer_writeHandle :
    session.answer among ⟨.writeHandle seed, world⟩ = .ok (.handle handle) ↔
      (writeHandle among seed ⟨session, world⟩).1 = .ok handle := by
  rw [answer, perform, Fallible.map_apply]
  exact ⟨ok_of_map_handle, fun h => by rw [h]; rfl⟩

end Answering

section Keeping

variable (keeper : Collaborators (Chronicle σ ε))

/-- What is entered in the course of a turn. -/
def entries (session : Session) (turn : Turn σ) : List ε :=
  (perform keeper turn.operation ⟨session, { world := turn.world, events := [] }⟩).2.world.events

/-- The account of turns that are taken one after the other. -/
def account : List (Turn σ) → Session → List ε
  | [], _ => []
  | turn :: turns, session =>
    entries keeper session turn ++
      account turns
        (perform keeper turn.operation
          ⟨session, { world := turn.world, events := [] }⟩).2.session

variable {keeper} {among : Collaborators σ}

theorem run_concat (turns : List (Turn σ)) (turn : Turn σ) (session : Session) :
    run among (turns ++ [turn]) session = (run among turns session).after among turn := by
  rw [run, List.foldl_append]
  rfl

/-- A keeper changes nothing. -/
theorem perform_kept (h : Collaborators.Agrees erasing among keeper) (session : Session)
    (turn : Turn σ) :
    let kept := perform keeper turn.operation ⟨session, { world := turn.world, events := [] }⟩
    kept.1 = session.answer among turn ∧ kept.2.session = session.after among turn := by
  obtain ⟨hr, ⟨hs, -⟩, -, -⟩ := perform_agrees (fun _ => trivial) h turn.operation
    ⟨session, turn.world⟩ ⟨session, { world := turn.world, events := [] }⟩ ⟨rfl, rfl⟩
  exact ⟨hr.symm, hs.symm⟩

theorem account_append (h : Collaborators.Agrees erasing among keeper) (turns more : List (Turn σ))
    (session : Session) :
    account keeper (turns ++ more) session =
      account keeper turns session ++ account keeper more (run among turns session) := by
  induction turns generalizing session with
  | nil => rfl
  | cons first turns ih =>
    simp only [List.cons_append, account]
    rw [ih, List.append_assoc, (perform_kept h session first).2]
    rfl

theorem account_concat (h : Collaborators.Agrees erasing among keeper) (turns : List (Turn σ))
    (turn : Turn σ) (session : Session) :
    account keeper (turns ++ [turn]) session =
      account keeper turns session ++ entries keeper (run among turns session) turn := by
  rw [account_append h]
  exact congrArg _ (List.append_nil _)

end Keeping

end Session

end ReplicaRouting
