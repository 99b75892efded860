import ReplicaRouting.Proofs.Fleet.Sharing
import ReplicaRouting.Proofs.Tracker.Progress

/-!
Cached progress of a replica under concurrency. Writes, consistency checks and other refreshes of
the cache go on beside each other, and each of the latter may be held at any question. A cached
progress may be old, but what the replica has once reported it does not fall behind any more.
-/

namespace ReplicaRouting

/-- A replicated database. Nothing that is done to it takes the progress of the replica back, and
the replica does not report more than it has reached. -/
structure Replication (σ π : Type) [Ord π] where
  source : ProgressSource σ π
  clock : σ → Instant
  log : Log σ
  /-- How far the replica has come. -/
  progress : σ → π
  main_grows : ∀ main world,
    (compare (progress (source.fetchMain main world).2) (progress world)).isGE = true
  replica_grows : ∀ replica world,
    (compare (progress (source.fetchReplica replica world).2) (progress world)).isGE = true
  log_grows : ∀ notice world,
    (compare (progress (log notice world)) (progress world)).isGE = true
  reported : ∀ replica world reached, (source.fetchReplica replica world).1 = .ok reached →
    (compare (progress (source.fetchReplica replica world).2) reached).isGE = true

/-- A world with what a tracker by cached progress stores. -/
structure Situation (σ π : Type) where
  outer : σ
  lastMain : NewestCache π := {}
  lastReplica : RefreshCache π

namespace Situation

variable {σ π : Type}

def outerCell : Cell (Situation σ π) σ := ⟨outer, fun outer world => { world with outer }⟩

def mainCell : Cell (Situation σ π) (NewestCache π) :=
  ⟨lastMain, fun lastMain world => { world with lastMain }⟩

def replicaCell : Cell (Situation σ π) (RefreshCache π) :=
  ⟨lastReplica, fun lastReplica world => { world with lastReplica }⟩

end Situation

open ProgressTracker (Covered recorded)

namespace Replication

variable {σ π : Type} [Ord π] (replication : Replication σ π)

def innerLog (notice : Notice) : Situation σ π → Situation σ π :=
  Situation.outerCell.modify (replication.log notice)

def innerSource : ProgressSource (Situation σ π) π := replication.source.along Situation.outerCell

def cache : SharedCache (Situation σ π) π where
  cell := Situation.replicaCell
  now world := replication.clock world.outer
  log := replication.innerLog

/-- The tracker under study. What it does not know counts against the replica. -/
def tracker : Tracker (Situation σ π) :=
  ProgressTracker.tracker false Situation.mainCell replication.cache replication.innerSource
    replication.innerLog

/-- Who reads the cache: a check of the tracker, or somebody who refreshes it. The latter may be
held also after the replica has reported. -/
inductive Reader where
  | check
  | refresh
deriving DecidableEq

/-- What a reader does, with the verdict of a check. -/
def reading : Reader → Consult (Situation σ π) Unit Supply (Option Bool)
  | .check => do return some (← replication.tracker.isConsistent)
  | .refresh => do
    let _ ← replication.cache.get do
      let reached ← replication.innerSource.consultReplica
      let _ ← Consult.ask ()
      return reached
    return none

/-- A reader that waits for a reply, and what main had told of its writes when it began. -/
structure Waiting (σ π : Type) where
  told : List (Except Fault π)
  resume : Supply → Situation σ π → Inquiry (Situation σ π) Unit Supply (Option Bool)

/-- A verdict, with what main had told of its writes when the check began, and how far the replica
has come by the time of the verdict. -/
structure Verdict (π : Type) where
  consistent : Bool
  told : List (Except Fault π)
  reached : π

/-- Where things stand: the world, what main has told of its writes, who waits, and what verdicts
have been given. -/
structure Course (σ π : Type) where
  world : Situation σ π
  told : List (Except Fault π) := []
  waiting : List (Waiting σ π) := []
  verdicts : List (Verdict π) := []

/-- What may happen next. A waiting reader is named by its place; nothing happens if there is none
at that place. Beside all this the databases may go on by themselves. -/
inductive Move (replication : Replication σ π) where
  | write (main : Handle)
  | begin (reader : Reader)
  | reply (index : Nat) (supply : Supply)
  | breakOff (index : Nat)
  | change (change : σ → σ)
    (grows : ∀ world,
      (compare (replication.progress (change world)) (replication.progress world)).isGE = true)

variable {replication}

namespace Course

/-- A reader comes to a question, or to its end. -/
def arrive (replication : Replication σ π) (course : Course σ π) (told : List (Except Fault π)) :
    Inquiry (Situation σ π) Unit Supply (Option Bool) → Course σ π
  | .answered verdict? world =>
    { course with
      world
      verdicts := course.verdicts ++ (verdict?.map fun consistent =>
        ⟨consistent, told, replication.progress world.outer⟩).toList }
  | .asking _ world resume =>
    { course with world, waiting := course.waiting ++ [⟨told, resume⟩] }

def step (course : Course σ π) : Move replication → Course σ π
  | .write main =>
    { course with
      world := replication.tracker.write main course.world
      told := course.told ++ [(replication.source.fetchMain main course.world.outer).1] }
  | .begin reader =>
    course.arrive replication course.told (replication.reading reader course.world)
  | .reply index supply =>
    match course.waiting[index]? with
    | none => course
    | some waiting =>
      { course with waiting := course.waiting.eraseIdx index }.arrive replication waiting.told
        (waiting.resume supply course.world)
  | .breakOff index =>
    match course.waiting[index]? with
    | none => course
    | some _ =>
      { course with
        world := replication.cache.breakOff course.world
        waiting := course.waiting.eraseIdx index }
  | .change change _ => { course with world := Situation.outerCell.modify change course.world }

def run (course : Course σ π) (moves : List (Move replication)) : Course σ π :=
  moves.foldl step course

end Course

section Soundness

variable [Std.TransOrd π]

variable (replication) in
/-- Between two pauses a reader leaves main's progress alone. Nothing takes back the progress of the
replica, and what is stored of it is not beyond it. -/
def regime : Regime (Situation σ π) where
  does before after := after.lastMain = before.lastMain ∧
    (compare (replication.progress after.outer) (replication.progress before.outer)).isGE = true
  happens before after :=
    (compare (replication.progress after.outer) (replication.progress before.outer)).isGE = true
  holds world := ∀ value, world.lastReplica.last = some value →
    (compare (replication.progress world.outer) value).isGE = true
  does_refl world := ⟨rfl, by rw [Std.ReflOrd.compare_self]; rfl⟩
  does_trans hf hs := ⟨hs.1.trans hf.1, Std.TransOrd.isGE_trans hs.2 hf.2⟩
  happens_of_does hd := hd.2

/-- The world goes on without what is stored. -/
theorem outer_holds {world : Situation σ π} {outer : σ} (hw : replication.regime.holds world)
    (hg : (compare (replication.progress outer) (replication.progress world.outer)).isGE = true) :
    replication.regime.does world { world with outer } ∧
      replication.regime.holds { world with outer } :=
  ⟨⟨rfl, hg⟩, fun value hv => Std.TransOrd.isGE_trans hg (hw value hv)⟩

theorem log_holds (notice : Notice) (world : Situation σ π)
    (hw : replication.regime.holds world) :
    replication.regime.does world (replication.innerLog notice world) ∧
      replication.regime.holds (replication.innerLog notice world) :=
  outer_holds hw (replication.log_grows notice world.outer)

theorem cache_governed : replication.cache.Governed replication.regime fun reached world =>
    (compare (replication.progress world.outer) reached).isGE = true where
  lasting _ _ _ hh hp := Std.TransOrd.isGE_trans hh hp
  stored _ hw := hw
  put world _ _ hn := ⟨⟨rfl, (replication.regime.does_refl world).2⟩, hn⟩
  noted := log_holds

theorem consultReplica_upholds :
    replication.innerSource.consultReplica.Upholds replication.regime fun answer world =>
      ∀ reached, answer = .ok reached →
        (compare (replication.progress world.outer) reached).isGE = true := by
  apply ProgressSource.consultReplica_upholds
  intro replica world hw
  obtain ⟨hd, hh⟩ := outer_holds hw (replication.replica_grows replica world.outer)
  exact ⟨hd, hh, replication.reported replica world.outer⟩

/-- What a reader is expected to come to: no favourable verdict but on a replica that shows what
main had told of before. -/
def Expected (replication : Replication σ π) (told : List (Except Fault π))
    (verdict? : Option Bool) (world : Situation σ π) : Prop :=
  verdict? = some true → Covered told (replication.progress world.outer)

theorem refresh_upholds :
    (replication.cache.get (q := Unit) (r := Supply) do
      let reached ← replication.innerSource.consultReplica
      let _ ← Consult.ask ()
      return reached).Upholds replication.regime fun answer world =>
        ∀ reached, answer = .ok (some reached) →
          (compare (replication.progress world.outer) reached).isGE = true := by
  apply cache_governed.get_upholds
  apply consultReplica_upholds.bind
  intro answer world hw ha
  -- what was reported before the last question is still true after it
  refine .asking (replication.regime.does_refl world) hw fun _ later hh hl => ?_
  refine .answered (replication.regime.does_refl later) hl fun reached hr => ?_
  exact Std.TransOrd.isGE_trans hh (ha reached hr)

theorem check_upholds {told : List (Except Fault π)} {world : Situation σ π}
    (hw : replication.regime.holds world) (hm : world.lastMain = recorded told) :
    Inquiry.Upholds replication.regime
      (fun verdict later =>
        verdict = true → Covered told (replication.progress later.outer))
      world (replication.tracker.isConsistent world) := by
  apply (ProgressTracker.isConsistent_upholds cache_governed consultReplica_upholds log_holds
    hw).mono
  intro verdict later hv ht
  obtain ⟨main, reached, hmain, hreached, hge⟩ := hv ht
  have hstored : (recorded told).value? = some main := hm ▸ hmain
  exact ProgressTracker.covered_of_recorded hstored (Std.TransOrd.isGE_trans hreached hge)

theorem reading_upholds (reader : Reader) {told : List (Except Fault π)} {world : Situation σ π}
    (hw : replication.regime.holds world) (hm : world.lastMain = recorded told) :
    (replication.reading reader world).Upholds replication.regime
      (replication.Expected told) world := by
  cases reader with
  | check =>
    apply (check_upholds hw hm).bind
    intro verdict later hl hv
    refine .answered (replication.regime.does_refl later) hl ?_
    rintro ⟨⟩
    exact hv rfl
  | refresh =>
    apply (refresh_upholds world hw).bind
    intro _ later hl _
    exact .answered (replication.regime.does_refl later) hl nofun

/-- To be told of a write is one answer of main, and the replica is no further back then. -/
theorem write_eq (replication : Replication σ π) (main : Handle) (world : Situation σ π) :
    ∃ outer,
      (compare (replication.progress outer) (replication.progress world.outer)).isGE = true ∧
      replication.tracker.write main world =
        { world with
          outer
          lastMain := ProgressTracker.afterWrite world.lastMain
            (replication.source.fetchMain main world.outer).1 } := by
  have hgrows := replication.main_grows main world.outer
  simp only [tracker, ProgressTracker.tracker, innerSource, ProgressSource.along, Cell.along]
  rcases hf : replication.source.fetchMain main world.outer with ⟨fault | progress, after⟩
  · have hlog := replication.log_grows (.mainProgressForgotten fault) after
    rw [hf] at hgrows
    simp only [Situation.outerCell, hf]
    exact ⟨_, Std.TransOrd.isGE_trans hlog hgrows, rfl⟩
  · rw [hf] at hgrows
    simp only [Situation.outerCell, hf]
    exact ⟨after, hgrows, rfl⟩

/-- What is true of everything that happens. -/
structure Sound (replication : Replication σ π) (course : Course σ π) : Prop where
  holds : replication.regime.holds course.world
  lastMain : course.world.lastMain = recorded course.told
  waiting : ∀ waiting ∈ course.waiting, ∀ reply later,
    replication.regime.happens course.world later → replication.regime.holds later →
      (waiting.resume reply later).Upholds replication.regime (replication.Expected waiting.told)
        later
  verdicts : ∀ verdict ∈ course.verdicts, verdict.consistent = true →
    Covered verdict.told verdict.reached

namespace Sound

variable {course : Course σ π} (h : Sound replication course)
include h

/-- Those who wait are not disturbed when the world goes on. -/
theorem proceeds {world : Situation σ π} {told : List (Except Fault π)}
    {waiting : List (Waiting σ π)} (hh : replication.regime.happens course.world world)
    (hw : replication.regime.holds world) (hm : world.lastMain = recorded told)
    (hs : waiting ⊆ course.waiting) : Sound replication { course with world, told, waiting } where
  holds := hw
  lastMain := hm
  waiting reader hr reply later hl hk :=
    h.waiting reader (hs hr) reply later (Std.TransOrd.isGE_trans hl hh) hk
  verdicts := h.verdicts

theorem arrive {told : List (Except Fault π)}
    {inquiry : Inquiry (Situation σ π) Unit Supply (Option Bool)}
    (hi : inquiry.Upholds replication.regime (replication.Expected told) course.world) :
    Sound replication (course.arrive replication told inquiry) := by
  -- up to here the reader did no more than the rule allows, so that all others are as before
  cases hi with
  | @answered _ world verdict? does holds asExpected =>
    have hp := h.proceeds does.2 holds (does.1.trans h.lastMain) (List.Subset.refl _)
    refine ⟨hp.holds, hp.lastMain, hp.waiting, fun verdict hv hc => ?_⟩
    rcases List.mem_append.mp hv with hv | hv
    · exact h.verdicts verdict hv hc
    · obtain ⟨consistent, hgiven, rfl⟩ := Option.map_eq_some_iff.mp (Option.mem_toList.mp hv)
      have htrue : consistent = true := hc
      exact asExpected (by rw [hgiven, htrue])
  | @asking _ world question resume does holds goesOn =>
    have hp := h.proceeds does.2 holds (does.1.trans h.lastMain) (List.Subset.refl _)
    refine ⟨hp.holds, hp.lastMain, fun waiting hw => ?_, hp.verdicts⟩
    rcases List.mem_append.mp hw with hw | hw
    · exact hp.waiting waiting hw
    · rw [List.mem_singleton.mp hw]
      exact goesOn

theorem step (move : Move replication) : Sound replication (course.step move) := by
  have hsame : replication.regime.happens course.world course.world :=
    (replication.regime.does_refl course.world).2
  cases move with
  | write main =>
    obtain ⟨outer, hgrows, hwrite⟩ := write_eq replication main course.world
    have hh : replication.regime.holds (replication.tracker.write main course.world) := by
      rw [hwrite]
      exact (outer_holds h.holds hgrows).2
    apply h.proceeds _ hh _ (List.Subset.refl _)
    · rw [hwrite]
      exact hgrows
    · rw [hwrite, ProgressTracker.recorded_snoc, ← h.lastMain]
  | begin reader => exact h.arrive (reading_upholds reader h.holds h.lastMain)
  | reply index supply =>
    cases hw : course.waiting[index]? with
    | none =>
      simp only [Course.step, hw]
      exact h
    | some waiting =>
      simp only [Course.step, hw]
      have hsub : course.waiting.eraseIdx index ⊆ course.waiting :=
        (List.eraseIdx_sublist ..).subset
      have hrest := h.proceeds hsame h.holds h.lastMain hsub
      -- what has happened since it began to wait is already in what is known of those who wait
      exact hrest.arrive (h.waiting waiting (List.mem_of_getElem? hw) supply _ hsame h.holds)
  | breakOff index =>
    cases hw : course.waiting[index]? with
    | none =>
      simp only [Course.step, hw]
      exact h
    | some waiting =>
      simp only [Course.step, hw]
      have hh : replication.regime.holds (replication.cache.breakOff course.world) := by
        intro value hv
        exact h.holds value (RefreshCache.breakOff_last course.world.lastReplica ▸ hv)
      exact h.proceeds hsame hh h.lastMain (List.eraseIdx_sublist ..).subset
  | change change grows =>
    have hg := grows course.world.outer
    exact h.proceeds hg (outer_holds h.holds hg).2 h.lastMain (List.Subset.refl _)

theorem run (moves : List (Move replication)) : Sound replication (course.run moves) := by
  induction moves generalizing course with
  | nil => exact h
  | cons move moves ih => exact ih (h.step move)

end Sound

/-- Cached progress never makes a lagging replica look consistent, in every course of writes, checks
and refreshes through a cache of any kind. When a check is favourable, main's latest answer is no
failure, and the replica has come at least as far as all that main has told of since its last
failure. This is so of a check that is carried out at once, and of one that is held meanwhile with
what main had told of by the time it began. -/
theorem lagging_replica_inconsistent (replication : Replication σ π) (cache : RefreshCache π)
    (hc : cache.last = none) (outer : σ) (moves : List (Move replication)) :
    let course := Course.run { world := { outer, lastReplica := cache } } moves
    (∀ supply world,
      replication.tracker.isConsistent.run (fun _ _ world => (supply, (), world)) ()
          course.world = (true, (), world) →
        Covered course.told (replication.progress world.outer)) ∧
    ∀ verdict ∈ course.verdicts, verdict.consistent = true →
      Covered verdict.told verdict.reached := by
  intro course
  have hstart : Sound replication { world := { outer, lastReplica := cache } } := by
    refine ⟨fun value hv => ?_, rfl, by simp, by simp⟩
    rw [hc] at hv
    cases hv
  have hcourse : Sound replication course := hstart.run moves
  refine ⟨fun supply world hr => ?_, hcourse.verdicts⟩
  let reply (_ : Unit) (_ : Unit) (world : Situation σ π) : Supply × Unit × Situation σ π :=
    (supply, (), world)
  have hreply : ∀ question memory world, replication.regime.holds world →
      replication.regime.happens world (reply question memory world).2.2 ∧
        replication.regime.holds (reply question memory world).2.2 :=
    fun _ _ world hw => ⟨(replication.regime.does_refl world).2, hw⟩
  have hexpected := (check_upholds hcourse.holds hcourse.lastMain).run hreply ()
  change (replication.tracker.isConsistent course.world).run reply () = _ at hr
  rw [hr] at hexpected
  exact hexpected rfl

end Soundness

/-- Main and a replica as two counters, which stand still by themselves. -/
def counters : Replication (Nat × Nat) Nat where
  source :=
    { fetchMain := fun _ world => (.ok world.1, world)
      fetchReplica := fun _ world => (.ok world.2, world) }
  clock _ := .epoch
  log _ world := world
  progress := Prod.snd
  main_grows _ _ := by rw [Std.ReflOrd.compare_self]; rfl
  replica_grows _ _ := by rw [Std.ReflOrd.compare_self]; rfl
  log_grows _ _ := by rw [Std.ReflOrd.compare_self]; rfl
  reported := by
    rintro _ world reached ⟨⟩
    rw [Std.ReflOrd.compare_self]
    rfl

theorem counters_grow (world : Nat × Nat) :
    (compare (counters.progress (world.1, world.2 + 5)) (counters.progress world)).isGE = true := by
  rw [Nat.isGE_compare]
  exact Nat.le_add_right ..

/-- A replica is consistent once it has caught up, even while another refresh is held: by a check
that was held for the replica, and by one more that is carried out at once. -/
theorem caught_up_replica_consistent :
    let moves : List (Move counters) :=
      [.write (.main ⟨0⟩), .change (fun world => (world.1, world.2 + 5)) counters_grow,
        .begin .check, .begin .refresh, .reply 0 (.ok (.replica ⟨1⟩))]
    let course := Course.run { world := { outer := (5, 0), lastReplica := .passThrough } } moves
    (∃ verdict ∈ course.verdicts, verdict.consistent = true ∧
      Covered verdict.told verdict.reached) ∧
    ∃ world,
      counters.tracker.isConsistent.run (fun _ _ world => (.ok (.replica ⟨1⟩), (), world)) ()
          course.world = (true, (), world) ∧
        Covered course.told (counters.progress world.outer) := by
  intro moves course
  have hgiven : course.verdicts = [⟨true, [.ok 5], 5⟩] := rfl
  obtain ⟨hatOnce, hverdicts⟩ := lagging_replica_inconsistent counters .passThrough rfl (5, 0) moves
  have hm : (⟨true, [.ok 5], 5⟩ : Verdict Nat) ∈ course.verdicts := by
    rw [hgiven]
    exact List.mem_singleton_self _
  have hrun : counters.tracker.isConsistent.run
      (fun _ _ world => (.ok (.replica ⟨1⟩), (), world)) () course.world =
        (true, (), course.world) := rfl
  exact ⟨⟨_, hm, rfl, hverdicts _ hm rfl⟩, course.world, hrun, hatOnce _ _ hrun⟩

end Replication

end ReplicaRouting
