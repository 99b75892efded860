import Mathlib.Data.List.Induction
import ReplicaRouting.Proofs.Agreement
import ReplicaRouting.Proofs.Cache.Newest
import ReplicaRouting.Tracker.Positions

/-!
What a tracker of positions knows, as a function of what main answered after each write. It waits
for a position that no recorded one exceeds, unless nothing was written or the latest answer failed.
-/

namespace ReplicaRouting

variable {π : Type} [Ord π]

/-- A replica that cannot be had is not measured. -/
theorem ProgressSource.consultReplica_run {σ π : Type} (source : ProgressSource σ π)
    (supply : Fallible σ Handle) (held : Option Handle) (world : σ) :
    source.consultReplica.runWithHandle supply held world =
      match Consult.replyWithHandle supply () held world with
      | (.error fault, kept, asked) => ((.error fault, kept), asked)
      | (.ok handle, kept, asked) =>
        (((source.fetchReplica handle asked).1, kept), (source.fetchReplica handle asked).2) := by
  unfold consultReplica
  rw [Consult.runWithHandle_bind, Consult.runWithHandle_ask]
  rcases Consult.replyWithHandle supply () held world with ⟨fault | handle, kept, asked⟩ <;> rfl

/-- Sources by which the replica answers alike are consulted alike. -/
theorem ProgressSource.consultReplica_agrees {σ τ π : Type} {bond : Bond σ τ}
    {source : ProgressSource σ π} {source' : ProgressSource τ π}
    (hf : ∀ replica, bond.Answers (source.fetchReplica replica) (source'.fetchReplica replica)) :
    Consult.Agrees bond source.consultReplica source'.consultReplica := by
  apply (Consult.agrees_ask ()).bind
  intro reply
  cases reply with
  | error fault => exact Consult.agrees_pure _
  | ok replica => exact Consult.agrees_act (hf replica)

namespace PositionTracker

/-- The tracker once main has answered in this way after its writes, the first one first. -/
def told (answers : List (Except Fault π)) : PositionTracker π := answers.foldl write {}

theorem told_snoc (answers : List (Except Fault π)) (answer : Except Fault π) :
    told (answers ++ [answer]) = (told answers).write answer := by
  rw [told, List.foldl_append]
  rfl

/-- The latest answer decides what the tracker does next: not even look at the replica, or wait for
the furthest position so far. -/
theorem standing_told_snoc (answers : List (Except Fault π)) (answer : Except Fault π) :
    (told (answers ++ [answer])).standing =
      match answer with
      | .error _ => .settled false
      | .ok latest =>
        match ((told answers).lastWrite.put latest).value? with
        | none => .settled true
        | some furthest => .awaiting furthest := by
  rw [told_snoc]
  cases answer <;> rfl

/-- A tracker that waits has had a position in answer to the latest write. -/
theorem located_of_awaiting {answers : List (Except Fault π)} {furthest : π}
    (h : (told answers).standing = .awaiting furthest) :
    ∃ latest, answers.getLast? = some (.ok latest) := by
  induction answers using List.reverseRecOn with
  | nil => cases h
  | append_singleton answers answer _ =>
    rw [standing_told_snoc] at h
    cases answer with
    | error fault => cases h
    | ok latest => exact ⟨latest, List.getLast?_concat ..⟩

variable [Std.TransOrd π]

theorem told_isGE (answers : List (Except Fault π)) {position : π}
    (h : .ok position ∈ answers) :
    ∃ furthest, (told answers).lastWrite.value? = some furthest ∧
      (compare furthest position).isGE := by
  induction answers using List.reverseRecOn with
  | nil => cases h
  | append_singleton answers answer ih =>
    rw [told_snoc]
    cases answer with
    | error fault =>
      -- a failed answer leaves the position kept as it is
      have hm : .ok position ∈ answers := by simpa using h
      exact ih hm
    | ok latest =>
      obtain ⟨kept, hk, hlatest, hearlier⟩ := ((told answers).lastWrite.put_keepsGreater latest).isGE
      refine ⟨kept, hk, ?_⟩
      -- what is kept is beyond what was kept before, which was beyond all earlier positions
      rcases List.mem_append.mp h with hm | hm
      · obtain ⟨furthest, hf, hge⟩ := ih hm
        exact Std.TransOrd.isGE_trans (hearlier furthest hf) hge
      · cases List.mem_singleton.mp hm
        exact hlatest

/-- Only a tracker that was told of no write takes the replica on trust. -/
theorem told_nil_of_settled {answers : List (Except Fault π)}
    (h : (told answers).standing = .settled true) : answers = [] := by
  induction answers using List.reverseRecOn with
  | nil => rfl
  | append_singleton answers answer _ =>
    rw [standing_told_snoc] at h
    cases answer with
    | error fault => cases h
    | ok latest =>
      obtain ⟨kept, hk, -⟩ := ((told answers).lastWrite.put_keepsGreater latest).isGE
      simp only [hk] at h
      cases h

/-- A tracker that waits has had an answer to the latest write, and waits for all of them. -/
theorem told_awaiting {answers : List (Except Fault π)} {furthest : π}
    (h : (told answers).standing = .awaiting furthest) :
    (∃ latest, answers.getLast? = some (.ok latest)) ∧
      ∀ position, .ok position ∈ answers → (compare furthest position).isGE := by
  have hvalue : (told answers).lastWrite.value? = some furthest := by
    unfold standing at h
    split at h
    · cases h
    · split at h
      · cases h
      · rename_i hv
        cases h
        exact hv
  refine ⟨located_of_awaiting h, fun position hp => ?_⟩
  obtain ⟨kept, hk, hge⟩ := told_isGE answers hp
  cases hvalue.symm.trans hk
  exact hge

section Verdicts

open Consult

omit [Std.TransOrd π]

variable {σ : Type} {cell : Cell σ (PositionTracker π)} {source : ProgressSource σ π} {log : Log σ}

variable (supply : Fallible σ Handle) (held : Option Handle) (world : σ)

theorem run_of_settled {consistent : Bool}
    (hs : (cell.get world).standing = .settled consistent) :
    (tracker cell source log).isConsistent.runWithHandle supply held world =
      ((consistent, held), world) := by
  refine (runWithHandle_look supply held world _ _).trans ?_
  generalize (cell.get world).standing = standing at hs ⊢
  subst hs
  rfl

/-- A tracker that waits asks for the replica once and compares how far it has come. -/
theorem run_of_awaiting {position : π} (hs : (cell.get world).standing = .awaiting position) :
    (tracker cell source log).isConsistent.runWithHandle supply held world =
      match replyWithHandle supply () held world with
      | (.error fault, kept, asked) =>
        ((false, kept), log (.replicaPositionUnreadable fault) asked)
      | (.ok handle, kept, asked) =>
        match source.fetchReplica handle asked with
        | (.ok reached, after) => (((compare reached position).isGE, kept), after)
        | (.error fault, after) =>
          ((false, kept), log (.replicaPositionUnreadable fault) after) := by
  refine (runWithHandle_look supply held world _ _).trans ?_
  generalize (cell.get world).standing = standing at hs ⊢
  subst hs
  dsimp only
  rw [runWithHandle_bind, ProgressSource.consultReplica_run]
  rcases replyWithHandle supply () held world with ⟨fault | handle, kept, asked⟩
  · rfl
  · dsimp only
    rcases hf : source.fetchReplica handle asked with ⟨fault | reached, after⟩ <;> rfl

/-- What lies behind a favourable verdict: trust, or a replica that has come far enough. -/
theorem consistent_cases {opened : Option Handle} {after : σ}
    (h : (tracker cell source log).isConsistent.runWithHandle supply held world =
      ((true, opened), after)) :
    ((cell.get world).standing = .settled true ∧ after = world) ∨
      ∃ position handle asked reached, (cell.get world).standing = .awaiting position ∧
        replyWithHandle supply () held world = (.ok handle, opened, asked) ∧
        source.fetchReplica handle asked = (.ok reached, after) ∧
        (compare reached position).isGE = true := by
  cases hs : (cell.get world).standing with
  | settled consistent =>
    rw [run_of_settled supply held world hs] at h
    cases h
    exact .inl ⟨rfl, rfl⟩
  | awaiting position =>
    rw [run_of_awaiting supply held world hs] at h
    right
    rcases hr : replyWithHandle supply () held world with ⟨fault | handle, kept, asked⟩ <;>
      rw [hr] at h
    · cases h
    · dsimp only at h
      rcases hf : source.fetchReplica handle asked with ⟨fault | reached, fetched⟩ <;> rw [hf] at h
      · cases h
      · have hge : (compare reached position).isGE = true := congrArg (·.1.1) h
        have hk : kept = opened := congrArg (·.1.2) h
        have ha : fetched = after := congrArg (·.2) h
        subst hk ha
        exact ⟨position, handle, asked, reached, rfl, rfl, hf, hge⟩

end Verdicts

section Agreement

omit [Std.TransOrd π]

variable {σ τ : Type} {bond : Bond σ τ}

theorem isConsistent_agrees {cell : Cell σ (PositionTracker π)}
    {cell' : Cell τ (PositionTracker π)} {source : ProgressSource σ π}
    {source' : ProgressSource τ π} {log : Log σ} {log' : Log τ}
    (hc : ∀ s t, bond.meets s t → cell.get s = cell'.get t)
    (hf : ∀ replica, bond.Answers (source.fetchReplica replica) (source'.fetchReplica replica))
    (hl : ∀ notice, bond.Keeps (log notice) (log' notice)) :
    Consult.Agrees bond (tracker cell source log).isConsistent
      (tracker cell' source' log').isConsistent := by
  apply (Consult.agrees_look fun s t hm => congrArg standing (hc s t hm)).bind
  intro found
  cases found with
  | settled consistent => exact Consult.agrees_pure consistent
  | awaiting position =>
    apply (ProgressSource.consultReplica_agrees hf).bind
    intro fetched
    cases fetched with
    | ok reached => exact Consult.agrees_pure _
    | error fault => exact (Consult.agrees_change (hl _)).bind fun _ => Consult.agrees_pure false

end Agreement

end PositionTracker

end ReplicaRouting
