import ReplicaRouting.Proofs.Session.Agreement
import ReplicaRouting.Proofs.Session.Reachable

/-!
Runs of sessions that share a world. Operations of the sessions come in any order, and in between
the part of the world that is not theirs may change in any way.
-/

namespace ReplicaRouting.Fleet

/-- A step of a run: an operation of one session, or a change elsewhere in the world `σ`. -/
inductive Move (σ : Type) where
  | perform (index : Nat) (operation : Session.Operation)
  | elsewhere (change : σ → σ)

/-- Sessions none of which has done anything. -/
def fresh {τ : Type} (ids : List String) (world : τ) : Fleet τ where
  sessions := ids.map fun id => { id }
  world

variable {σ τ υ : Type} (among : Nat → Collaborators τ) (outer : Cell τ σ)

/-- The fleet after a move, whether or not an operation fails. -/
def step (fleet : Fleet τ) : Move σ → Fleet τ
  | .perform index operation =>
    match fleet.perform among index operation with
    | some (_, later) => later
    | none => fleet
  | .elsewhere change => { fleet with world := outer.modify change fleet.world }

def run (moves : List (Move σ)) (fleet : Fleet τ) : Fleet τ := moves.foldl (step among outer) fleet

theorem run_concat (moves : List (Move σ)) (move : Move σ) (fleet : Fleet τ) :
    run among outer (moves ++ [move]) fleet = step among outer (run among outer moves fleet) move := by
  rw [run, List.foldl_append]
  rfl

theorem step_of_perform {fleet later : Fleet τ} {index : Nat} {operation : Session.Operation}
    {answer : Except Fault Session.Answer}
    (h : fleet.perform among index operation = some (answer, later)) :
    step among outer fleet (.perform index operation) = later := by
  simp only [step, h]

theorem perform_of_session {fleet : Fleet τ} {index : Nat} {session : Session}
    (h : fleet.sessions[index]? = some session) (operation : Session.Operation) :
    fleet.perform among index operation =
      let ended := Session.perform (among index) operation ⟨session, fleet.world⟩
      some (ended.1, ⟨fleet.sessions.set index ended.2.session, ended.2.world⟩) := by
  rw [perform, h]
  rfl

theorem perform_of_none {fleet : Fleet τ} {index : Nat} (h : fleet.sessions[index]? = none)
    (operation : Session.Operation) : fleet.perform among index operation = none := by
  rw [perform, h]
  rfl

/-- What an operation of a session makes of it. -/
theorem step_own {fleet : Fleet τ} {index : Nat} {session : Session}
    (h : fleet.sessions[index]? = some session) (operation : Session.Operation) :
    (step among outer fleet (.perform index operation)).sessions[index]? =
      some (session.after (among index) ⟨operation, fleet.world⟩) := by
  rw [step_of_perform among outer (perform_of_session among h operation)]
  exact List.getElem?_set_self (List.getElem?_eq_some_iff.mp h).1

/-- A session is left alone by the operations of the others and by changes elsewhere. -/
theorem step_other {fleet : Fleet τ} {index : Nat} {move : Move σ}
    (h : ∀ operation, move ≠ .perform index operation) :
    (step among outer fleet move).sessions[index]? = fleet.sessions[index]? := by
  cases move with
  | elsewhere change => rfl
  | perform other operation =>
    have hne : other ≠ index := by
      rintro rfl
      exact h operation rfl
    cases ho : fleet.sessions[other]? with
    | none => simp only [step, perform_of_none among ho]
    | some performing =>
      rw [step_of_perform among outer (perform_of_session among ho operation)]
      exact List.getElem?_set_ne hne

section Sound

def Sound (fleet : Fleet τ) : Prop := ∀ session ∈ fleet.sessions, session.Sound

theorem fresh_sound (ids : List String) (world : τ) : Sound (fresh ids world) := by
  intro session hm
  obtain ⟨id, -, rfl⟩ := List.mem_map.mp hm
  exact .of_main_absent rfl (by simp [Slot.handle?])

theorem step_sound {fleet : Fleet τ} (hs : Sound fleet) (move : Move σ) :
    Sound (step among outer fleet move) := by
  cases move with
  | elsewhere change => exact hs
  | perform index operation =>
    dsimp only [step]
    cases h : fleet.sessions[index]? with
    | none =>
      rw [perform_of_none among h]
      exact hs
    | some session =>
      rw [perform_of_session among h]
      intro other hm
      -- every session but the one at the index is as it was
      rcases List.mem_or_eq_of_mem_set hm with hm | rfl
      · exact hs other hm
      · have hsession : session.Sound := hs session (List.mem_of_getElem? h)
        let scene : Scene τ := ⟨session, fleet.world⟩
        have hscene : scene.session.Sound := hsession
        exact Session.perform_sound (among index) operation hscene

theorem run_sound {fleet : Fleet τ} (hs : Sound fleet) (moves : List (Move σ)) :
    Sound (run among outer moves fleet) := by
  induction moves generalizing fleet with
  | nil => exact hs
  | cons move moves ih => exact ih (step_sound among outer hs move)

end Sound

section Agreement

variable {among outer} {bond : Bond τ υ} {among' : Nat → Collaborators υ} {outer' : Cell υ σ}

/-- Fleets of the same sessions in corresponding worlds. -/
def Meets (bond : Bond τ υ) (left : Fleet τ) (right : Fleet υ) : Prop :=
  left.sessions = right.sessions ∧ bond.meets left.world right.world

variable (lenient : ∀ t, bond.blamed t)
  (h : ∀ index, Collaborators.Agrees bond (among index) (among' index))
include lenient h

/-- Among collaborators that agree, an operation has the same answer in fleets that meet. -/
theorem perform_agrees {left : Fleet τ} {right : Fleet υ} (hm : Meets bond left right)
    (index : Nat) (operation : Session.Operation) {answer : Except Fault Session.Answer}
    {later : Fleet τ} (hl : left.perform among index operation = some (answer, later)) :
    ∃ later', right.perform among' index operation = some (answer, later') ∧
      Meets bond later later' := by
  obtain ⟨hsessions, hworld⟩ := hm
  cases hi : left.sessions[index]? with
  | none =>
    rw [perform_of_none among hi] at hl
    cases hl
  | some session =>
    rw [perform_of_session among hi] at hl
    have hi' : right.sessions[index]? = some session := by rw [← hsessions, hi]
    obtain ⟨hr, ⟨hs, hw⟩, -, -⟩ := Session.perform_agrees lenient (h index) operation
      ⟨session, left.world⟩ ⟨session, right.world⟩ ⟨rfl, hworld⟩
    cases hl
    rw [perform_of_session among' hi']
    dsimp only
    rw [← hsessions, ← hr, ← hs]
    exact ⟨_, rfl, rfl, hw⟩

theorem step_agrees (ho : ∀ change, bond.Keeps (outer.modify change) (outer'.modify change))
    {left : Fleet τ} {right : Fleet υ} (hm : Meets bond left right) (move : Move σ) :
    Meets bond (step among outer left move) (step among' outer' right move) := by
  cases move with
  | elsewhere change => exact ⟨hm.1, (ho change _ _ hm.2).1⟩
  | perform index operation =>
    dsimp only [step]
    cases hl : left.perform among index operation with
    | some ended =>
      obtain ⟨answer, later⟩ := ended
      obtain ⟨later', hr, hlater⟩ := perform_agrees lenient h hm index operation hl
      rw [hr]
      exact hlater
    | none =>
      -- the index is vacant on both sides
      have hi : left.sessions[index]? = none := by
        simpa [perform] using hl
      rw [perform_of_none among' (hm.1 ▸ hi)]
      exact hm

theorem run_agrees (ho : ∀ change, bond.Keeps (outer.modify change) (outer'.modify change))
    {left : Fleet τ} {right : Fleet υ} (hm : Meets bond left right) (moves : List (Move σ)) :
    Meets bond (run among outer moves left) (run among' outer' moves right) := by
  induction moves generalizing left right with
  | nil => exact hm
  | cons move moves ih => exact ih (step_agrees lenient h ho hm move)

end Agreement

end ReplicaRouting.Fleet
