import Mathlib.Data.List.Induction
import ReplicaRouting.Proofs.Fleet.Sharing
import ReplicaRouting.Proofs.Tracker.Progress

/-!
A tracker of positions beside one by cached progress, which go through the same writes and checks.
One keeps the furthest position of main over a failed query, the other forgets it. As long as main
does not go back they come to the same verdicts.
-/

namespace ReplicaRouting

/-- The progress measured where there was no failure, in order. -/
def measured {π : Type} (told : List (Except Fault π)) : List π := told.filterMap Except.toOption

/-- No value is before an earlier one. -/
def Growing {π : Type} [Ord π] (values : List π) : Prop :=
  values.Pairwise fun earlier later => (compare later earlier).isGE = true

instance {π : Type} [Ord π] (values : List π) : Decidable (Growing values) :=
  inferInstanceAs (Decidable (List.Pairwise _ values))

theorem measured_snoc {π : Type} (told : List (Except Fault π)) (answer : Except Fault π) :
    measured (told ++ [answer]) = measured told ++ answer.toOption.toList := by
  unfold measured
  rw [List.filterMap_append]
  cases answer <;> rfl

/-- If anything is kept, it is level with the latest of the values. -/
def NewestCache.Level {π : Type} [Ord π] (values : List π) (cache : NewestCache π) : Prop :=
  ∀ kept, cache.value? = some kept →
    ∃ latest, values.getLast? = some latest ∧ compare kept latest = .eq

section Level

variable {π : Type} [Ord π]

theorem NewestCache.level_snoc {values : List π} {candidate : π} {cache : NewestCache π}
    (h : ∃ kept, cache.value? = some kept ∧ compare kept candidate = .eq) :
    Level (values ++ [candidate]) cache := by
  obtain ⟨kept, hkept, hlevel⟩ := h
  intro other hother
  cases hkept.symm.trans hother
  exact ⟨candidate, List.getLast?_concat .., hlevel⟩

theorem growing_of_snoc {told : List (Except Fault π)} {answer : Except Fault π}
    (hg : Growing (measured (told ++ [answer]))) : Growing (measured told) := by
  rw [measured_snoc] at hg
  exact (List.pairwise_append.mp hg).1

variable [Std.TransOrd π]

theorem NewestCache.Level.put {values : List π} {cache : NewestCache π} (h : Level values cache)
    {candidate : π} (hg : Growing (values ++ [candidate])) :
    ∃ kept, (cache.put candidate).value? = some kept ∧ compare kept candidate = .eq := by
  refine (cache.put_keepsGreater candidate).level fun current hcurrent => ?_
  obtain ⟨latest, hlatest, hlevel⟩ := h current hcurrent
  have hlater : (compare candidate latest).isGE = true :=
    (List.pairwise_append.mp hg).2.2 latest (List.mem_of_getLast? hlatest) candidate
      (List.mem_singleton_self _)
  rw [Std.TransCmp.congr_right hlevel]
  exact hlater

/-- A failed query of main leaves the furthest position, which stays level with the latest. -/
theorem PositionTracker.told_level {told : List (Except Fault π)} (hg : Growing (measured told)) :
    NewestCache.Level (measured told) (PositionTracker.told told).lastWrite := by
  induction told using List.reverseRecOn with
  | nil => exact nofun
  | append_singleton told answer ih =>
    have hbefore := ih (growing_of_snoc hg)
    rw [measured_snoc] at hg ⊢
    rw [told_snoc]
    cases answer with
    | error fault =>
      rw [Except.toOption, Option.toList_none, List.append_nil]
      exact hbefore
    | ok latest => exact NewestCache.level_snoc (hbefore.put hg)

/-- A failed query of main leaves nothing; whatever is stored later is level with the latest. -/
theorem ProgressTracker.recorded_level {told : List (Except Fault π)}
    (hg : Growing (measured told)) :
    NewestCache.Level (measured told) (recorded told) := by
  induction told using List.reverseRecOn with
  | nil => exact nofun
  | append_singleton told answer ih =>
    have hbefore := ih (growing_of_snoc hg)
    rw [measured_snoc] at hg ⊢
    rw [recorded_snoc]
    cases answer with
    | error fault => exact nofun
    | ok latest => exact NewestCache.level_snoc (hbefore.put hg)

/-- Once main was written to, the latest answer decides for both trackers: after a failure neither
looks at the replica, and otherwise what they wait for is level. -/
theorem standing_beside_recorded {told : List (Except Fault π)} (hne : told ≠ [])
    (hg : Growing (measured told)) :
    (PositionTracker.told told).standing = .settled false ∧
        (ProgressTracker.recorded told).value? = none ∨
      ∃ awaited main, (PositionTracker.told told).standing = .awaiting awaited ∧
        (ProgressTracker.recorded told).value? = some main ∧ compare awaited main = .eq := by
  obtain ⟨told, answer, rfl⟩ := (List.eq_nil_or_concat' told).resolve_left hne
  rw [PositionTracker.standing_told_snoc, ProgressTracker.recorded_snoc]
  have hbefore := growing_of_snoc hg
  rw [measured_snoc] at hg
  cases answer with
  | error fault => exact .inl ⟨rfl, rfl⟩
  | ok latest =>
    obtain ⟨awaited, hawaited, ha⟩ := (PositionTracker.told_level hbefore).put hg
    obtain ⟨main, hmain, hm⟩ := (ProgressTracker.recorded_level hbefore).put hg
    have hlevel : compare awaited main = .eq := by
      rw [Std.TransCmp.congr_right hm]
      exact ha
    right
    simp only [hawaited]
    exact ⟨awaited, main, rfl, hmain, hlevel⟩

end Level

/-- A world with what one tracker keeps, and the notices that it has given. -/
structure Judging (σ κ : Type) where
  outer : σ
  kept : κ
  notices : List Notice := []

namespace Judging

variable {σ κ : Type}

def outerCell : Cell (Judging σ κ) σ := ⟨outer, fun outer judging => { judging with outer }⟩

def keptCell : Cell (Judging σ κ) κ := ⟨kept, fun kept judging => { judging with kept }⟩

def log (notice : Notice) (judging : Judging σ κ) : Judging σ κ :=
  { judging with notices := judging.notices ++ [notice] }

end Judging

/-- What a tracker by cached progress keeps unless other caches are chosen. -/
structure Caches (π : Type) where
  lastMain : NewestCache π := {}
  lastReplica : RefreshCache π := .passThrough

namespace Caches

variable {π : Type}

def mainCell : Cell (Caches π) (NewestCache π) :=
  ⟨lastMain, fun lastMain caches => { caches with lastMain }⟩

def replicaCell : Cell (Caches π) (RefreshCache π) :=
  ⟨lastReplica, fun lastReplica caches => { caches with lastReplica }⟩

end Caches

/-- Two trackers beside each other, and what main has answered after the writes. -/
structure Contest (σ π : Type) where
  positions : Judging σ (PositionTracker π)
  progress : Judging σ (Caches π)
  told : List (Except Fault π) := []

namespace Contest

variable {σ π : Type} [Ord π] (source : ProgressSource σ π) (clock : σ → Instant)

def positionTracker : Tracker (Judging σ (PositionTracker π)) :=
  PositionTracker.tracker Judging.keptCell (source.along Judging.outerCell) Judging.log

def replicaCache : SharedCache (Judging σ (Caches π)) π where
  cell := Caches.replicaCell.within Judging.keptCell
  now judging := clock judging.outer
  log := Judging.log

def progressTracker : Tracker (Judging σ (Caches π)) :=
  ProgressTracker.tracker false (Caches.mainCell.within Judging.keptCell) (replicaCache clock)
    (source.along Judging.outerCell) Judging.log

/-- What both trackers go through. In between the databases may change in any way. -/
inductive Move (σ : Type) where
  | write (main : Handle)
  | check (supply : Fallible σ Handle) (held : Option Handle)
  | change (f : σ → σ)

/-- The verdict of one tracker, with the handle held then, where the replica is opened by `supply`
unless one is held already. -/
def verdict {κ : Type} (tracker : Tracker (Judging σ κ)) (supply : Fallible σ Handle)
    (held : Option Handle) : StateM (Judging σ κ) (Bool × Option Handle) :=
  tracker.isConsistent.runWithHandle (Judging.outerCell.along supply) held

def start (outer : σ) : Contest σ π :=
  { positions := { outer, kept := {} }, progress := { outer, kept := {} } }

def step (contest : Contest σ π) : Move σ → Contest σ π
  | .write main =>
    { positions := (positionTracker source).write main contest.positions
      progress := (progressTracker source clock).write main contest.progress
      told := contest.told ++ [(source.fetchMain main contest.positions.outer).1] }
  | .check supply held =>
    { contest with
      positions := (verdict (positionTracker source) supply held contest.positions).2
      progress := (verdict (progressTracker source clock) supply held contest.progress).2 }
  | .change f =>
    { contest with
      positions := Judging.outerCell.modify f contest.positions
      progress := Judging.outerCell.modify f contest.progress }

def run (contest : Contest σ π) (moves : List (Move σ)) : Contest σ π :=
  moves.foldl (step source clock) contest

/-- Both trackers see the same databases and have been told the same. -/
def abreast (told : List (Except Fault π)) :
    Bond (Judging σ (PositionTracker π)) (Judging σ (Caches π)) where
  meets left right :=
    left.outer = right.outer ∧ left.kept = PositionTracker.told told ∧
      right.kept = { lastMain := ProgressTracker.recorded told }

section Agreement

variable {source} {clock} {told : List (Except Fault π)}

theorem outer_abreast :
    Cell.Agrees (abreast told) (Judging.outerCell : Cell (Judging σ (PositionTracker π)) σ)
      Judging.outerCell where
  get _ _ hm := hm.1
  set _ _ _ hm := ⟨rfl, hm.2⟩

theorem consultReplica_abreast :
    Consult.Agrees (abreast told : Bond (Judging σ (PositionTracker π)) _)
      (source.along Judging.outerCell).consultReplica
      (source.along Judging.outerCell).consultReplica :=
  ProgressSource.consultReplica_agrees fun _ => outer_abreast.along _

omit [Ord π] in
/-- Nothing is kept of the replica, so that it is looked at whenever the cache is read. -/
theorem get_passThrough {α : Type} {judging : Judging σ (Caches π)}
    (h : judging.kept.lastReplica = .passThrough)
    (supplier : Consult (Judging σ (Caches π)) Unit Supply (Except Fault π))
    (next : Except Fault (Option π) → Consult (Judging σ (Caches π)) Unit Supply α) :
    ((replicaCache clock).get supplier >>= next) judging =
      (supplier >>= fun outcome =>
        Consult.act ((replicaCache clock).finish 0 outcome) >>= next) judging := by
  have hacquired : (replicaCache clock).acquire judging = (.refreshing 0 none, judging) := by
    obtain ⟨outer, ⟨lastMain, lastReplica⟩, notices⟩ := judging
    cases h
    rfl
  exact SharedCache.get_of_acquired hacquired supplier next

omit [Ord π] in
/-- A reader of such a cache gets what was measured. -/
theorem finish_passThrough {judging : Judging σ (Caches π)}
    (h : judging.kept.lastReplica = .passThrough) (outcome : Except Fault π) :
    (Consult.act ((replicaCache clock).finish 0 outcome) : Consult _ Unit Supply _) judging =
      .answered (outcome.map some) judging := by
  obtain ⟨outer, ⟨lastMain, lastReplica⟩, notices⟩ := judging
  cases h
  rfl

variable [Std.TransOrd π]

/-- Once main was written to, the same questions are put and the verdicts are the same. -/
theorem isConsistent_abreast (hne : told ≠ []) (hg : Growing (measured told)) :
    Consult.Agrees (abreast told) (positionTracker source).isConsistent
      (progressTracker source clock).isConsistent := by
  intro left right hm
  obtain ⟨-, hkept, hcaches⟩ := id hm
  have hreplica {right : Judging σ (Caches π)}
      (h : right.kept = { lastMain := ProgressTracker.recorded told }) :
      right.kept.lastReplica = .passThrough := congrArg Caches.lastReplica h
  have hleft : (Judging.keptCell.get left).standing = (PositionTracker.told told).standing :=
    congrArg PositionTracker.standing hkept
  have hright : ((Caches.mainCell.within Judging.keptCell).get right).value? =
      (ProgressTracker.recorded told).value? :=
    congrArg (·.lastMain.value?) hcaches
  unfold positionTracker progressTracker PositionTracker.tracker ProgressTracker.tracker
  dsimp only
  rw [Consult.look_bind, Consult.look_bind, hleft, hright]
  obtain ⟨hsettled, hnone⟩ | ⟨awaited, main, hawaiting, hmain, hlevel⟩ :=
    standing_beside_recorded hne hg
  · simp only [hsettled, hnone]
    exact .answered false hm
  · simp only [hawaiting, hmain]
    rw [get_passThrough (hreplica hcaches)]
    apply (consultReplica_abreast left right hm).bind
    intro outcome left right hm
    rw [Consult.bind_of_answered (finish_passThrough (hreplica hm.2.2) outcome)]
    cases outcome with
    | ok reached =>
      -- what both wait for is level, so that the replica has come as far as both or neither
      have hverdict : (compare reached awaited).isGE = (compare reached main).isGE := by
        rw [Std.TransCmp.congr_right hlevel]
      change Inquiry.Agrees _ (.answered _ left) (.answered _ right)
      rw [hverdict]
      exact .answered _ hm
    | error fault => exact .answered false hm

theorem verdict_abreast (hne : told ≠ []) (hg : Growing (measured told))
    (supply : Fallible σ Handle) (held : Option Handle) :
    (abreast told).Answers (verdict (positionTracker source) supply held)
      (verdict (progressTracker source clock) supply held) :=
  (isConsistent_abreast hne hg).runWithHandle (outer_abreast.fallible (fun _ => trivial) supply)
    held

end Agreement

section Unwritten

variable {source} {clock} (supply : Fallible σ Handle) (held : Option Handle)

/-- Where nothing was written, the replica is taken on trust. -/
theorem positions_trust {judging : Judging σ (PositionTracker π)} (h : judging.kept = {}) :
    verdict (positionTracker source) supply held judging = ((true, held), judging) :=
  PositionTracker.run_of_settled _ held judging (congrArg PositionTracker.standing h)

/-- Where nothing was stored, the replica is not trusted. -/
theorem progress_distrust {judging : Judging σ (Caches π)} (h : judging.kept = {}) :
    verdict (progressTracker source clock) supply held judging = ((false, held), judging) := by
  refine Consult.runWithHandle_of_answered _ held judging ?_
  unfold progressTracker ProgressTracker.tracker
  dsimp only
  rw [Consult.look_bind]
  have hnone : ((Caches.mainCell.within Judging.keptCell).get judging).value? = none :=
    congrArg (·.lastMain.value?) h
  rw [hnone]
  rfl

end Unwritten

/-- The trackers have come through the same. -/
def Abreast (contest : Contest σ π) : Prop :=
  (abreast contest.told).meets contest.positions contest.progress

section Runs

variable {source} {clock} {contest : Contest σ π}

theorem Abreast.write (h : contest.Abreast) (main : Handle) :
    (contest.step source clock (.write main)).Abreast := by
  obtain ⟨⟨outer, kept, notices⟩, ⟨outer', caches, notices'⟩, told⟩ := contest
  obtain ⟨houter, hkept, hcaches⟩ := h
  dsimp only at houter hkept hcaches
  subst houter hkept hcaches
  simp only [Abreast, abreast, step, PositionTracker.told_snoc, ProgressTracker.recorded_snoc,
    positionTracker, progressTracker, PositionTracker.tracker, ProgressTracker.tracker,
    ProgressSource.along, Cell.along, Judging.outerCell]
  rcases source.fetchMain main outer with ⟨_ | _, _⟩ <;> exact ⟨rfl, rfl, rfl⟩

theorem run_concat (moves : List (Move σ)) (move : Move σ) :
    contest.run source clock (moves ++ [move]) =
      (contest.run source clock moves).step source clock move := by
  rw [run, List.foldl_append]
  rfl

theorem growing_of_step {move : Move σ}
    (hg : Growing (measured (contest.step source clock move).told)) :
    Growing (measured contest.told) := by
  cases move with
  | write main => exact growing_of_snoc hg
  | check supply held => exact hg
  | change f => exact hg

variable [Std.TransOrd π]

theorem Abreast.step (h : contest.Abreast) (hg : Growing (measured contest.told)) (move : Move σ) :
    (contest.step source clock move).Abreast := by
  cases move with
  | write main => exact h.write main
  | change f => exact (outer_abreast.modify (fun _ => trivial) f _ _ h).1
  | check supply held =>
    by_cases hne : contest.told = []
    · -- before the first write neither looks at the replica
      obtain ⟨-, hkept, hcaches⟩ := id h
      rw [hne] at hkept hcaches
      change (abreast contest.told).meets
        (verdict (positionTracker source) supply held contest.positions).2
        (verdict (progressTracker source clock) supply held contest.progress).2
      rw [positions_trust supply held hkept, progress_distrust supply held hcaches]
      exact h
    · exact (verdict_abreast hne hg supply held _ _ h).2

theorem Abreast.run (h : contest.Abreast) (moves : List (Move σ))
    (hg : Growing (measured (contest.run source clock moves).told)) :
    (contest.run source clock moves).Abreast := by
  induction moves using List.reverseRecOn with
  | nil => exact h
  | append_singleton moves move ih =>
    rw [run_concat] at hg ⊢
    have hbefore := growing_of_step hg
    exact (ih hbefore).step hbefore move

end Runs

variable [Std.TransOrd π]

/-- Two trackers go through the same writes and checks, and main, wherever it can be asked, does not
go back. Then both leave the databases alike, and once main was written to, whether or not it could
be asked, they always come to the same verdict. Before that, the tracker of positions says yes and
the one by cached progress says no. -/
theorem same_verdicts_once_written (outer : σ) (moves : List (Move σ))
    (grows : Growing (measured ((start outer : Contest σ π).run source clock moves).told))
    (supply : Fallible σ Handle) (held : Option Handle) :
    let contest := (start outer : Contest σ π).run source clock moves
    let byPosition := verdict (positionTracker source) supply held contest.positions
    let byProgress := verdict (progressTracker source clock) supply held contest.progress
    byPosition.2.outer = byProgress.2.outer ∧
      (contest.told ≠ [] → byPosition.1 = byProgress.1) ∧
      (contest.told = [] → byPosition.1 = (true, held) ∧ byProgress.1 = (false, held)) := by
  intro contest byPosition byProgress
  have hstart : (start outer : Contest σ π).Abreast := ⟨rfl, rfl, rfl⟩
  have habreast : contest.Abreast := hstart.run moves grows
  by_cases hne : contest.told = []
  · obtain ⟨houter, hkept, hcaches⟩ := id habreast
    rw [hne] at hkept hcaches
    have hpositions : byPosition = ((true, held), contest.positions) :=
      positions_trust supply held hkept
    have hprogress : byProgress = ((false, held), contest.progress) :=
      progress_distrust supply held hcaches
    rw [hpositions, hprogress]
    exact ⟨houter, fun h => absurd hne h, fun _ => ⟨rfl, rfl⟩⟩
  · obtain ⟨hsame, hmeets⟩ := verdict_abreast hne grows supply held _ _ habreast
    exact ⟨hmeets.1, fun _ => hsame, fun h => absurd h hne⟩

/-- Main and a replica as two counters. Main may be out of reach. -/
structure Counters where
  main : Nat
  replica : Nat
  reachable : Bool

def counters : ProgressSource Counters Nat where
  fetchMain _ world :=
    (if world.reachable then .ok world.main else .error (.progressUnknown .main "gone"), world)
  fetchReplica _ world := (.ok world.replica, world)

/-- After main was out of reach for a write, both trackers come to trust the replica again. -/
theorem same_verdicts_after_recovery :
    let moves : List (Move Counters) :=
      [.write (.main ⟨0⟩), .change fun world => { world with reachable := false },
        .write (.main ⟨0⟩), .check (pure (.replica ⟨1⟩)) none,
        .change fun _ => { main := 8, replica := 8, reachable := true }, .write (.main ⟨0⟩)]
    let contest := (start ⟨5, 5, true⟩ : Contest Counters Nat).run counters (fun _ => .epoch) moves
    let supply : Fallible Counters Handle := pure (.replica ⟨1⟩)
    let byPosition := verdict (positionTracker counters) supply none contest.positions
    let byProgress := verdict (progressTracker counters fun _ => .epoch) supply none
      contest.progress
    Growing (measured contest.told) ∧ contest.told ≠ [] ∧ byPosition.1 = byProgress.1 ∧
      byPosition.1 = (true, some (.replica ⟨1⟩)) := by
  intro moves contest supply byPosition byProgress
  have hgrows : Growing (measured contest.told) := by decide
  have hwritten : contest.told ≠ [] := by
    intro h
    cases h
  obtain ⟨-, hsame, -⟩ := same_verdicts_once_written counters (fun _ => .epoch) ⟨5, 5, true⟩ moves
    hgrows supply none
  exact ⟨hgrows, hwritten, hsame hwritten, rfl⟩

end Contest

end ReplicaRouting
