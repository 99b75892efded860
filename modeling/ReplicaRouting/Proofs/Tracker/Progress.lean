import Mathlib.Data.List.Induction
import ReplicaRouting.Proofs.Cache.Supplied
import ReplicaRouting.Proofs.Tracker.Positions
import ReplicaRouting.Tracker.Progress

/-!
What a tracker by cached progress knows of main, and what lies behind a favourable verdict of it.
-/

namespace ReplicaRouting

/-- Whatever is true of all that is measured is true of what a consultation gets. -/
theorem ProgressSource.consultReplica_upholds
    {σ π : Type} {regime : Regime σ} {P : π → σ → Prop} {source : ProgressSource σ π}
    (hf : ∀ replica world, regime.holds world →
      let (answer, later) := source.fetchReplica replica world
      regime.does world later ∧ regime.holds later ∧ ∀ reached, answer = .ok reached →
        P reached later) :
    source.consultReplica.Upholds regime fun answer world =>
      ∀ reached, answer = .ok reached → P reached world := by
  apply (Consult.upholds_ask ()).bind
  intro reply world hw _
  cases reply with
  | error fault => exact .answered (regime.does_refl world) hw nofun
  | ok replica => exact Consult.upholds_act (hf replica) world hw

namespace ProgressTracker

variable {π : Type} [Ord π]

/-- What is stored of main's progress once main has answered in this way after its writes, the
first one first. -/
def recorded (told : List (Except Fault π)) : NewestCache π := told.foldl afterWrite {}

theorem recorded_snoc (told : List (Except Fault π)) (answer : Except Fault π) :
    recorded (told ++ [answer]) = afterWrite (recorded told) answer := by
  rw [recorded, List.foldl_append]
  rfl

/-- Main's latest answer is no failure, and no progress that it has told of since its last failure
is beyond this one. -/
structure Covered (told : List (Except Fault π)) (reached : π) : Prop where
  latest : ∃ progress, told.getLast? = some (.ok progress)
  isGE : ∀ earlier progress later, told = earlier ++ .ok progress :: later →
    (∀ fault, .error fault ∉ later) → (compare reached progress).isGE = true

variable [Std.TransOrd π]

theorem recorded_isGE {told earlier later : List (Except Fault π)} {progress : π}
    (ht : told = earlier ++ .ok progress :: later) (hl : ∀ fault, .error fault ∉ later) :
    ∃ furthest, (recorded told).value? = some furthest ∧
      (compare furthest progress).isGE = true := by
  -- from the end of what came later: each answer moves forward what is stored, or leaves it
  induction later using List.reverseRecOn generalizing told with
  | nil =>
    obtain ⟨kept, hk, hge, -⟩ := (NewestCache.put_keepsGreater (recorded earlier) progress).isGE
    refine ⟨kept, ?_, hge⟩
    rw [ht, recorded_snoc]
    exact hk
  | append_singleton later answer ih =>
    have hlater : ∀ fault, .error fault ∉ later := fun fault hm =>
      hl fault (List.mem_append_left _ hm)
    obtain ⟨furthest, hf, hge⟩ := ih rfl hlater
    rw [ht, ← List.cons_append, ← List.append_assoc, recorded_snoc]
    cases answer with
    | error fault => exact absurd (by simp) (hl fault)
    | ok latest =>
      obtain ⟨kept, hk, -, hearlier⟩ :=
        ((recorded (earlier ++ .ok progress :: later)).put_keepsGreater latest).isGE
      -- what is kept is beyond what was kept before, which was beyond that progress
      exact ⟨kept, hk, Std.TransOrd.isGE_trans (hearlier furthest hf) hge⟩

/-- Whatever is beyond the progress that is stored is beyond all that counts. -/
theorem covered_of_recorded {told : List (Except Fault π)} {furthest reached : π}
    (hf : (recorded told).value? = some furthest)
    (hr : (compare reached furthest).isGE = true) : Covered told reached where
  latest := by
    induction told using List.reverseRecOn with
    | nil => cases hf
    | append_singleton told answer _ =>
      rw [recorded_snoc] at hf
      -- after a failure nothing would be stored
      cases answer with
      | error fault => cases hf
      | ok progress => exact ⟨progress, List.getLast?_concat ..⟩
  isGE earlier progress later ht hl := by
    obtain ⟨kept, hk, hge⟩ := recorded_isGE ht hl
    cases hf.symm.trans hk
    exact Std.TransOrd.isGE_trans hr hge

section Verdicts

omit [Std.TransOrd π]

variable {σ : Type} {regime : Regime σ} {P : π → σ → Prop} {source : ProgressSource σ π}
  {lastMain : Cell σ (NewestCache π)} {lastReplica : SharedCache σ π} {log : Log σ}

/-- Behind a favourable verdict there is a progress of main, stored when the consultation began, and
one of the replica that is not behind it. -/
theorem isConsistent_upholds (hg : lastReplica.Governed regime P)
    (hs : source.consultReplica.Upholds regime fun answer world =>
      ∀ reached, answer = .ok reached → P reached world)
    (hl : ∀ notice world, regime.holds world →
      regime.does world (log notice world) ∧ regime.holds (log notice world))
    {world : σ} (hw : regime.holds world) :
    Inquiry.Upholds regime
      (fun verdict later => verdict = true → ∃ main reached,
        (lastMain.get world).value? = some main ∧ P reached later ∧
          (compare reached main).isGE = true)
      world ((tracker false lastMain lastReplica source log).isConsistent world) := by
  unfold tracker
  dsimp only
  -- main's progress is looked up before the first question and not again
  rw [Consult.look_bind]
  cases hm : (lastMain.get world).value? with
  | none => exact .answered (regime.does_refl world) hw nofun
  | some main =>
    apply (hg.get_upholds hs world hw).bind
    intro fetched later hh hp
    cases fetched with
    | error fault =>
      obtain ⟨hd, hk⟩ := hl (.replicaProgressUnreadable fault) later hh
      exact .answered hd hk nofun
    | ok reached? =>
      cases reached? with
      | none => exact .answered (regime.does_refl later) hh nofun
      | some reached =>
        exact .answered (regime.does_refl later) hh fun hge => ⟨main, reached, rfl, hp _ rfl, hge⟩

variable (fallback : Bool) (supply : Fallible σ Handle) (held : Option Handle) {world : σ}

/-- As long as main is unknown, the replica is not looked at. -/
theorem run_of_unknown (hm : (lastMain.get world).value? = none) :
    (tracker fallback lastMain lastReplica source log).isConsistent.runWithHandle supply held
      world = ((fallback, held), world) := by
  refine (Consult.runWithHandle_look supply held world _ _).trans ?_
  generalize (lastMain.get world).value? = main? at hm ⊢
  subst hm
  rfl

/-- A tracker that may refresh what it knows of the replica asks for it once. -/
theorem run_of_acquired {main : π} {begun : σ} {ticket : Nat} {robbed? : Option Nat}
    (hm : (lastMain.get world).value? = some main)
    (ha : lastReplica.acquire world = (.refreshing ticket robbed?, begun)) :
    (tracker fallback lastMain lastReplica source log).isConsistent.runWithHandle supply held
        world =
      let ((outcome, kept), asked) := source.consultReplica.runWithHandle supply held begun
      let (fetched, ended) := lastReplica.finish ticket outcome asked
      ((judge fallback main fetched, kept), match fetched with
        | .error fault => log (.replicaProgressUnreadable fault) ended
        | .ok _ => ended) := by
  refine (Consult.runWithHandle_look supply held world _ _).trans ?_
  generalize (lastMain.get world).value? = main? at hm ⊢
  subst hm
  dsimp only
  rw [Consult.runWithHandle_congr supply held (SharedCache.get_of_acquired ha _ _),
    Consult.runWithHandle_bind]
  rcases source.consultReplica.runWithHandle supply held begun with ⟨⟨outcome, kept⟩, asked⟩
  dsimp only
  rw [Consult.runWithHandle_bind, Consult.runWithHandle_act]
  rcases lastReplica.finish ticket outcome asked with ⟨fault | reached?, ended⟩ <;> rfl

end Verdicts

end ProgressTracker

end ReplicaRouting
