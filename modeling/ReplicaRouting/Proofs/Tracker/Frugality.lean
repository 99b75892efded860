import ReplicaRouting.Proofs.Fleet.Sharing
import ReplicaRouting.Tracker.Lag
import ReplicaRouting.Tracker.Noted
import ReplicaRouting.Tracker.Propagation

/-!
Trackers that ask for the replica only if they need it, and then once. Those that go by time never
need it, and a tracker of positions needs it only while it waits for one.
-/

namespace ReplicaRouting

variable {σ τ q : Type} {awaits : Prop}

/-- A consultation that answers at once, or asks once because it awaits something. A replica that
cannot be had is not consistent. -/
inductive Inquiry.Frugal (awaits : Prop) : Inquiry σ q Supply Bool → Prop where
  | answered (consistent : Bool) (world : σ) : Frugal awaits (.answered consistent world)
  | asking (question : q) (world : σ) {resume : Supply → σ → Inquiry σ q Supply Bool}
      (waiting : awaits)
      (refused : ∀ fault world, ∃ after, resume (.error fault) world = .answered false after)
      (given : ∀ handle world, ∃ consistent after,
        resume (.ok handle) world = .answered consistent after) :
      Frugal awaits (.asking question world resume)

/-- The tracker asks for the replica at most once, and only in worlds where it awaits something. -/
def Tracker.Frugal (tracker : Tracker σ) (awaits : σ → Prop) : Prop :=
  ∀ world, (tracker.isConsistent world).Frugal (awaits world)

theorem Inquiry.Frugal.mono {awaits' : Prop} {inquiry : Inquiry σ q Supply Bool}
    (h : inquiry.Frugal awaits) (ha : awaits → awaits') : inquiry.Frugal awaits' := by
  cases h with
  | answered consistent world => exact .answered consistent world
  | asking question world waiting refused given =>
    exact .asking question world (ha waiting) refused given

/-- To do something to the world with the answer takes no further question. -/
theorem Inquiry.Frugal.bind_change {inquiry : Inquiry σ q Supply Bool} (h : inquiry.Frugal awaits)
    (f : Bool → σ → σ) :
    (inquiry.bind fun consistent world => .answered consistent (f consistent world)).Frugal
      awaits := by
  cases h with
  | answered consistent world => exact .answered consistent _
  | asking question world waiting refused given =>
    refine .asking question world waiting (fun fault world => ?_) fun handle world => ?_
    · obtain ⟨after, hr⟩ := refused fault world
      exact ⟨_, by rw [hr]; rfl⟩
    · obtain ⟨consistent, after, hr⟩ := given handle world
      exact ⟨consistent, _, by rw [hr]; rfl⟩

theorem Inquiry.Frugal.along {inquiry : Inquiry σ q Supply Bool} (h : inquiry.Frugal awaits)
    (cell : Cell τ σ) (world : τ) : (inquiry.along cell world).Frugal awaits := by
  cases h with
  | answered consistent part => exact .answered consistent _
  | asking question part waiting refused given =>
    refine .asking question _ waiting (fun fault world => ?_) fun handle world => ?_
    · obtain ⟨after, hr⟩ := refused fault (cell.get world)
      exact ⟨_, by rw [hr]; rfl⟩
    · obtain ⟨consistent, after, hr⟩ := given handle (cell.get world)
      exact ⟨consistent, _, by rw [hr]; rfl⟩

/-! ### Layers -/

/-- The tracker under layers that note every call, each under its name, the outermost first. -/
def Tracker.notedUnder (tracker : Tracker σ) (names : List String) (log : Log σ) : Tracker σ :=
  names.foldr (fun name inner => inner.noted name log) tracker

section Layers

/-- One change after the other keeps worlds corresponding if each does. -/
theorem Bond.Keeps.comp {bond : Bond σ τ} {f f' : σ → σ} {g g' : τ → τ} (h : bond.Keeps f g)
    (h' : bond.Keeps f' g') : bond.Keeps (f' ∘ f) (g' ∘ g) := by
  intro s t hm
  obtain ⟨hmeets, hblame⟩ := h s t hm
  obtain ⟨hmeets', hblame'⟩ := h' (f s) (g t) hmeets
  exact ⟨hmeets', hblame' ∘ hblame⟩

variable {tracker : Tracker σ} {awaits : σ → Prop}

theorem Tracker.Frugal.noted (h : tracker.Frugal awaits) (name : String) (log : Log σ) :
    (tracker.noted name log).Frugal awaits :=
  fun world => (h world).bind_change fun consistent => log (.trackerCheck name consistent)

theorem Tracker.Frugal.notedUnder (h : tracker.Frugal awaits) (names : List String) (log : Log σ) :
    (tracker.notedUnder names log).Frugal awaits := by
  induction names with
  | nil => exact h
  | cons name names ih => exact ih.noted name log

theorem Tracker.Frugal.along (h : tracker.Frugal awaits) (cell : Cell τ σ) :
    (tracker.along cell).Frugal fun world => awaits (cell.get world) :=
  fun world => (h (cell.get world)).along cell world

variable {bond : Bond σ τ} {tracker' : Tracker τ} {log : Log σ} {log' : Log τ}

theorem Tracker.Agrees.noted (h : Tracker.Agrees bond tracker tracker')
    (hl : ∀ notice, bond.Keeps (log notice) (log' notice)) (name : String) :
    Tracker.Agrees bond (tracker.noted name log) (tracker'.noted name log') where
  write main := (h.write main).comp (hl _)
  preCommit main := (h.preCommit main).comp (hl _)
  isConsistent := h.isConsistent.bind fun consistent =>
    (Consult.agrees_change (hl _)).bind fun _ => Consult.agrees_pure consistent

theorem Tracker.Agrees.notedUnder (h : Tracker.Agrees bond tracker tracker')
    (hl : ∀ notice, bond.Keeps (log notice) (log' notice)) (names : List String) :
    Tracker.Agrees bond (tracker.notedUnder names log) (tracker'.notedUnder names log') := by
  induction names with
  | nil => exact h
  | cons name names ih => exact ih.noted hl name

end Layers

/-! ### Trackers -/

theorem LagTracker.frugal (cell : Cell σ LagTracker) (now : σ → Instant) :
    (LagTracker.tracker cell now).Frugal fun _ => False :=
  fun world => .answered _ world

theorem PropagationTracker.frugal (maxPropagation : Span) (times : WriteTimes σ) (now : σ → Instant)
    (log : Log σ) :
    (PropagationTracker.tracker maxPropagation times now log).Frugal fun _ => False :=
  fun _ => .answered _ _

/-- To measure the replica takes one question, if what is made of the answer takes none. -/
theorem ProgressSource.frugal_consultReplica {π : Type} (source : ProgressSource σ π)
    {next : Except Fault π → Consult σ Unit Supply Bool} (waiting : awaits)
    (refused : ∀ fault world, ∃ after, next (.error fault) world = .answered false after)
    (given : ∀ reached world, ∃ consistent after,
      next (.ok reached) world = .answered consistent after) (world : σ) :
    ((source.consultReplica >>= next) world).Frugal awaits := by
  refine .asking () world waiting refused fun handle world => ?_
  rcases hf : source.fetchReplica handle world with ⟨fault | reached, after⟩
  · obtain ⟨later, hn⟩ := refused fault after
    refine ⟨false, later, Eq.trans ?_ hn⟩
    exact congrArg (fun fetched => next fetched.1 fetched.2) hf
  · obtain ⟨consistent, later, hn⟩ := given reached after
    refine ⟨consistent, later, Eq.trans ?_ hn⟩
    exact congrArg (fun fetched => next fetched.1 fetched.2) hf

theorem PositionTracker.frugal {π : Type} [Ord π] (cell : Cell σ (PositionTracker π))
    (source : ProgressSource σ π) (log : Log σ) :
    (PositionTracker.tracker cell source log).Frugal fun world =>
      ∃ position, (cell.get world).standing = .awaiting position := by
  intro world
  unfold PositionTracker.tracker
  dsimp only
  rw [Consult.look_bind]
  cases (cell.get world).standing with
  | settled consistent => exact .answered consistent world
  | awaiting position =>
    exact source.frugal_consultReplica ⟨position, rfl⟩ (fun _ _ => ⟨_, rfl⟩)
      (fun _ _ => ⟨_, _, rfl⟩) world

end ReplicaRouting
