import Mathlib.Data.List.Induction
import ReplicaRouting.Proofs.Fleet.Sharing
import ReplicaRouting.Proofs.Routing.OpenBreaker

/-!
Sessions on standard chains that share a breaker. Each is otherwise built as it would be by itself;
the breaker is out of reach of their operations, and only guarded operations that fail for lack of a
capability, and calls to the breaker itself, change it.
-/

namespace ReplicaRouting

/-- To guard an operation is to perform it and then to look at how it has ended. -/
theorem Breaker.guard_apply {σ α : Type} (cell : Cell σ Breaker) (log : Log σ)
    (operation : Fallible σ α) (world : σ) :
    guard cell log operation world =
      ((operation world).1,
        (guard cell log (fun later => ((operation world).1.map fun _ => (), later))
          (operation world).2).2) := by
  unfold guard
  rcases operation world with ⟨fault | _, later⟩
  · dsimp only [Except.map]
    split <;> rfl
  · rfl

/-- A world with a breaker beside everything else. -/
structure Fused (σ : Type) where
  outer : σ
  breaker : Breaker := {}

/-- Sessions that share a breaker: what each would be built from by itself, and the log of the
breaker. -/
structure Circuit (σ : Type) where
  apart : Nat → Deployment σ
  log : Log σ

namespace Circuit

variable {σ : Type}

def outer : Cell (Fused σ) σ := ⟨Fused.outer, fun outer world => { world with outer }⟩

def breaker : Cell (Fused σ) Breaker := ⟨Fused.breaker, fun breaker world => { world with breaker }⟩

variable (circuit : Circuit σ)

/-- What the session of an index is built from. -/
def deployment (index : Nat) : Deployment (Fused σ) :=
  { (circuit.apart index).along outer with breaker }

def notices : Log (Fused σ) := fun notice => outer.modify (circuit.log notice)

/-- A step of a run: an operation of one session or a change elsewhere, the end of a guarded
operation, or a call to the breaker. What a guarded operation does before it ends are steps like any
other. -/
inductive Move (σ : Type) where
  | usual (move : Fleet.Move σ)
  | guarded (result : Except Fault Unit)
  | trip
  | reset

/-- Whether the step opens the breaker. -/
def Move.opens : Move σ → Bool
  | .guarded (.error fault) => fault.isUnsupportedCapability
  | .trip => true
  | _ => false

/-- Whether the step closes or aborts the session of an index. -/
def Move.ends (index : Nat) : Move σ → Bool
  | .usual (.perform other operation) => other = index && operation.isEnd
  | _ => false

def step (fleet : Fleet (Fused σ)) : Move σ → Fleet (Fused σ)
  | .usual move => fleet.step (fun index => (circuit.deployment index).collaborators) outer move
  | .guarded result =>
    let ended : Fallible (Fused σ) Unit := fun world => (result, world)
    { fleet with world := (Breaker.guard breaker circuit.notices ended fleet.world).2 }
  | .trip => { fleet with world := Breaker.trip breaker circuit.notices fleet.world }
  | .reset => { fleet with world := Breaker.reset breaker fleet.world }

def run (moves : List (Move σ)) (fleet : Fleet (Fused σ)) : Fleet (Fused σ) :=
  moves.foldl circuit.step fleet

/-- Sessions that have been through a run, from a fresh start with the breaker closed. -/
def fleet (ids : List String) (start : σ) (moves : List (Move σ)) : Fleet (Fused σ) :=
  circuit.run moves (.fresh ids { outer := start })

/-- The breaker was opened, and has not been reset since. -/
def Tripped (moves : List (Move σ)) : Prop :=
  ∃ earlier move later, moves = earlier ++ move :: later ∧ move.opens = true ∧ .reset ∉ later

section Breaker

theorem outer_keeping (breaker : Breaker) :
    Cell.Agrees (Bond.keeping fun world : Fused σ => world.breaker = breaker) outer outer where
  get := by
    rintro world _ ⟨rfl, -⟩
    rfl
  set := by
    rintro value world _ ⟨rfl, hb⟩
    exact ⟨rfl, hb⟩

/-- The breaker that a session is shown is the one they share. -/
theorem asked_isOpen (index : Nat) {world : Fused σ} (hb : world.breaker.isOpen = true) :
    let deployment := circuit.deployment index
    (deployment.breaker.get (deployment.asked world)).isOpen = true :=
  hb

/-- What a session works with leaves the breaker alone. -/
theorem collaborators_keep (breaker : Breaker) (index : Nat) :
    Collaborators.Agrees (Bond.keeping fun world : Fused σ => world.breaker = breaker)
      (circuit.deployment index).collaborators (circuit.deployment index).collaborators := by
  -- as for a session by itself, but for the breaker that it looks at
  have hs := (outer_keeping breaker).surroundings (fun _ => trivial)
    (circuit.apart index).toSurroundings
  have hsurroundings : Surroundings.Agrees
      (Bond.keeping fun world : Fused σ => world.breaker = breaker)
      (circuit.deployment index).toSurroundings (circuit.deployment index).toSurroundings :=
    { hs with breaker := fun s t hm => congrArg Fused.breaker hm.1 }
  exact hsurroundings.collaborators ((outer_keeping breaker).tracker (fun _ => trivial) _)

variable {circuit}

/-- Neither the sessions nor anything elsewhere in the world changes the breaker. -/
theorem usual_breaker (fleet : Fleet (Fused σ)) (move : Fleet.Move σ) :
    (circuit.step fleet (.usual move)).world.breaker = fleet.world.breaker := by
  have hm : Fleet.Meets (Bond.keeping fun world => world.breaker = fleet.world.breaker) fleet fleet :=
    ⟨rfl, rfl, rfl⟩
  have hstep := Fleet.step_agrees (fun _ => trivial) (circuit.collaborators_keep _)
    (fun change => (outer_keeping _).modify (fun _ => trivial) change) hm move
  exact hstep.2.2

theorem trip_breaker (world : Fused σ) :
    (Breaker.trip breaker circuit.notices world).breaker = { isOpen := true } := by
  unfold Breaker.trip
  dsimp only
  split <;> rfl

/-- The breaker is open after a step that opens it, and stays so until it is reset. -/
theorem step_isOpen (fleet : Fleet (Fused σ)) (move : Move σ) :
    (circuit.step fleet move).world.breaker.isOpen = true ↔
      fleet.world.breaker.isOpen = true ∧ move ≠ .reset ∨ move.opens = true := by
  cases move with
  | usual move =>
    rw [usual_breaker]
    simp [Move.opens]
  | guarded result =>
    cases result with
    | ok => simp [step, Breaker.guard, Move.opens]
    | error fault =>
      simp only [step, Breaker.guard, Move.opens]
      split
      · rename_i hf
        simp [trip_breaker, hf]
      · rename_i hf
        simp [hf]
  | trip => simp [step, trip_breaker, Move.opens]
  | reset => simp [step, Breaker.reset, breaker, Move.opens]

theorem tripped_concat_iff (moves : List (Move σ)) (move : Move σ) :
    Tripped (moves ++ [move]) ↔ Tripped moves ∧ move ≠ .reset ∨ move.opens = true := by
  refine (exists_split_concat_iff moves move).trans (or_congr ?_ (and_iff_left (by simp)))
  simp only [List.mem_append, List.mem_singleton, not_or]
  constructor
  · rintro ⟨earlier, opening, later, heq, ho, hl, hm⟩
    exact ⟨⟨earlier, opening, later, heq, ho, hl⟩, Ne.symm hm⟩
  · rintro ⟨⟨earlier, opening, later, heq, ho, hl⟩, hm⟩
    exact ⟨earlier, opening, later, heq, ho, hl, Ne.symm hm⟩

theorem run_append (moves more : List (Move σ)) (fleet : Fleet (Fused σ)) :
    circuit.run (moves ++ more) fleet = circuit.run more (circuit.run moves fleet) :=
  List.foldl_append

theorem fleet_isOpen_iff (ids : List String) (start : σ) (moves : List (Move σ)) :
    (circuit.fleet ids start moves).world.breaker.isOpen = true ↔ Tripped moves := by
  -- the last move decides, or leaves it to those before
  induction moves using List.reverseRecOn with
  | nil =>
    refine iff_of_false (by simp [fleet, run, Fleet.fresh]) ?_
    rintro ⟨earlier, move, later, heq, -⟩
    simp at heq
  | append_singleton moves move ih =>
    have hlast : circuit.fleet ids start (moves ++ [move]) =
        circuit.step (circuit.fleet ids start moves) move := run_append _ _ _
    rw [hlast, step_isOpen, tripped_concat_iff, ih]

end Breaker

section Sessions

variable {circuit}

theorem step_sound {fleet : Fleet (Fused σ)} (hs : fleet.Sound) (move : Move σ) :
    (circuit.step fleet move).Sound := by
  cases move with
  | usual move => exact Fleet.step_sound _ _ hs move
  | guarded | trip | reset => exact hs

theorem run_sound {fleet : Fleet (Fused σ)} (hs : fleet.Sound) (moves : List (Move σ)) :
    (circuit.run moves fleet).Sound := by
  induction moves generalizing fleet with
  | nil => exact hs
  | cons move moves ih => exact ih (step_sound hs move)

variable (circuit) in
theorem step_own {fleet : Fleet (Fused σ)} {index : Nat} {session : Session}
    (hi : fleet.sessions[index]? = some session) (operation : Session.Operation) :
    (circuit.step fleet (.usual (.perform index operation))).sessions[index]? =
      some (session.after (circuit.deployment index).collaborators ⟨operation, fleet.world⟩) :=
  Fleet.step_own _ outer hi operation

/-- The session of the index is on main for good, on one connection. -/
def PinnedAt (index : Nat) (handle : Handle) (fleet : Fleet (Fused σ)) : Prop :=
  ∃ session, fleet.sessions[index]? = some session ∧ session.PinnedTo handle

theorem step_pinnedAt {fleet : Fleet (Fused σ)} {index : Nat} {handle : Handle}
    (h : PinnedAt index handle fleet) {move : Move σ} (hm : move.ends index = false) :
    PinnedAt index handle (circuit.step fleet move) := by
  obtain ⟨session, hi, hp⟩ := h
  cases move with
  | guarded | trip | reset => exact ⟨session, hi, hp⟩
  | usual move =>
    -- an operation of its own keeps the pin, and all else keeps the session
    by_cases hown : ∃ operation, move = .perform index operation
    · obtain ⟨operation, rfl⟩ := hown
      let turn : Session.Turn (Fused σ) := ⟨operation, fleet.world⟩
      have hend : turn.operation.isEnd = false := by simpa [Move.ends] using hm
      exact ⟨_, circuit.step_own hi operation, Session.after_pinned _ hp hend⟩
    · exact ⟨session, (Fleet.step_other _ _ (not_exists.mp hown)).trans hi, hp⟩

theorem run_pinnedAt {fleet : Fleet (Fused σ)} {index : Nat} {handle : Handle}
    (h : PinnedAt index handle fleet) {moves : List (Move σ)}
    (hm : ∀ move ∈ moves, move.ends index = false) :
    PinnedAt index handle (circuit.run moves fleet) := by
  induction moves generalizing fleet with
  | nil => exact h
  | cons move moves ih =>
    apply ih (step_pinnedAt h (hm move List.mem_cons_self))
    intro next hn
    exact hm next (List.mem_cons_of_mem _ hn)

theorem read_pinnedAt {fleet : Fleet (Fused σ)} {index : Nat} {session : Session} {seed : Decision}
    {handle : Handle} (hb : fleet.world.breaker.isOpen = true)
    (hi : fleet.sessions[index]? = some session)
    (hx : session.parameters.exceedsReadCommitted = false) (hm : seed.runsOnMain = false)
    (hk : (Session.readHandle (circuit.deployment index).collaborators seed
      ⟨session, fleet.world⟩).1 = .ok handle) :
    PinnedAt index handle
      (circuit.step fleet (.usual (.perform index (.readHandle seed)))) := by
  have hpinned := Session.readHandle_pinned_of_open (circuit.asked_isOpen index hb) hx hm hk
  have hafter := circuit.step_own hi (.readHandle seed)
  rw [Session.after, Session.perform, Fallible.map_apply] at hafter
  exact ⟨_, hafter, hpinned⟩

end Sessions

/-- An open breaker keeps every session off the replica. It is open from a call that trips it, or a
guarded operation that fails for lack of a capability, until it is reset, and at no other time.
While it is, every handle that a session answers is one of main, no session asks its provider for a
replica, and a lenient read that was not meant for main puts its session there until that is ended,
even if the breaker is reset. The result of a guarded operation is its own. -/
theorem open_breaker_keeps_off_replica (ids : List String) (start : σ) (moves : List (Move σ)) :
    let fleet := circuit.fleet ids start moves
    (fleet.world.breaker.isOpen = true ↔ Tripped moves) ∧
    (Tripped moves → ∀ index session, fleet.sessions[index]? = some session → ∀ operation,
      let among := (circuit.deployment index).collaborators
      let turn : Session.Turn (Fused σ) := ⟨operation, fleet.world⟩
      (∀ handle, session.answer among turn = .ok (.handle handle) → handle.kind = .main) ∧
      Unasked .replica (Session.entries among.watched session turn) ∧
      ∀ seed handle, operation = .readHandle seed →
        session.parameters.exceedsReadCommitted = false → seed.runsOnMain = false →
        session.answer among turn = .ok (.handle handle) →
        ∀ more : List (Move σ), (∀ move ∈ more, move.ends index = false) →
          let later := circuit.fleet ids start (moves ++ .usual (.perform index operation) :: more)
          ∃ pinned, later.sessions[index]? = some pinned ∧ pinned.phase = .main) ∧
    ∀ (α : Type) (operation : Fallible (Fused σ) α) (sessions : List Session) (world : Fused σ),
      let ended := operation world
      let guarded := Breaker.guard breaker circuit.notices operation world
      guarded.1 = ended.1 ∧
        circuit.step ⟨sessions, ended.2⟩ (.guarded (ended.1.map fun _ => ())) =
          ⟨sessions, guarded.2⟩ := by
  intro fleet
  have hopen : fleet.world.breaker.isOpen = true ↔ Tripped moves := fleet_isOpen_iff ids start moves
  refine ⟨hopen, fun ht index session hi operation => ?_, fun α operation sessions world => ?_⟩
  · have hb := hopen.mpr ht
    have hsound : session.Sound :=
      run_sound (Fleet.fresh_sound ids _) moves session (List.mem_of_getElem? hi)
    intro among turn
    refine ⟨fun handle hk => ?_, ?_, ?_⟩
    · exact Session.answer_kind_of_open hsound (circuit.asked_isOpen index hb) hk
    · exact Session.entries_unasked (circuit.asked_isOpen index hb)
    · rintro seed handle rfl hx hm hk more hmore later
      have hread := (Session.answer_readHandle _ _ _ _ _).mp hk
      obtain ⟨pinned, hp, hmain⟩ := run_pinnedAt
        (read_pinnedAt hb hi hx hm hread) hmore
      refine ⟨pinned, ?_, hmain.phase⟩
      rw [← hp]
      exact congrArg (·.sessions[index]?) (run_append moves _ _)
  · intro ended guarded
    have hg : guarded = _ := Breaker.guard_apply breaker circuit.notices operation world
    rw [hg]
    exact ⟨rfl, rfl⟩

/-- One session reads from a replica that turns out to lack a capability. Another that reads after
that stays on main, also once the breaker has been reset. -/
theorem lacking_capability_pins_reader :
    let circuit : Circuit Bool := { apart := fun _ => .obliging, log := fun _ world => world }
    let read : Session.Operation := .readHandle (.read "SELECT 1")
    let moves : List (Move Bool) :=
      [.usual (.perform 0 read), .guarded (.error (.unsupportedCapability "prepareCall"))]
    Tripped moves ∧
      ∃ pinned, (circuit.fleet ["a", "b"] true
        (moves ++ [.usual (.perform 1 read), .reset])).sessions[1]? = some pinned ∧
          pinned.phase = .main := by
  intro circuit read moves
  have ht : Tripped moves := ⟨[.usual (.perform 0 read)], _, [], rfl, rfl, by simp⟩
  refine ⟨ht, ?_⟩
  obtain ⟨-, hoff, -⟩ := circuit.open_breaker_keeps_off_replica ["a", "b"] true moves
  obtain ⟨-, -, hpins⟩ := hoff ht 1 { id := "b" } (by decide +kernel) read
  exact hpins (.read "SELECT 1") (.main ⟨0⟩) rfl (by decide) (by decide) (by decide +kernel)
    [.reset] (by simp [Move.ends])

end Circuit

end ReplicaRouting
