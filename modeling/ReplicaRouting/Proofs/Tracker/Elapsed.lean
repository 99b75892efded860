import ReplicaRouting.Proofs.Cache.Newest
import ReplicaRouting.Proofs.Consult
import ReplicaRouting.Proofs.Time.Instants
import ReplicaRouting.Tracker.Lag
import ReplicaRouting.Tracker.Propagation

/-!
Trackers that go by the time elapsed since the last write, in the course of a run. The clock is
moved by hand, in either direction, and the cache of one of them may be reset at any time.
-/

namespace ReplicaRouting

/-- A clock that is moved by hand, and what is kept by the trackers that go by it. -/
structure Hours where
  now : Instant
  lag : LagTracker
  lastWrite : NewestCache Instant := {}
  notices : List Notice := []

namespace Hours

def lagCell : Cell Hours LagTracker := ⟨lag, fun lag hours => { hours with lag }⟩

def writeCell : Cell Hours (NewestCache Instant) :=
  ⟨lastWrite, fun lastWrite hours => { hours with lastWrite }⟩

def log (notice : Notice) (hours : Hours) : Hours :=
  { hours with notices := hours.notices ++ [notice] }

def lagTracker : Tracker Hours := LagTracker.tracker lagCell now

def propagationTracker (maxPropagation : Span) : Tracker Hours :=
  PropagationTracker.tracker maxPropagation (.inCell writeCell) now log

/-- What may happen: the clock is moved, main is written to, both trackers are asked, with a replica
at hand or not, or the last write is forgotten by the cache that may be reset. -/
inductive Move where
  | advance (span : Span)
  | set (time : Instant)
  | write (main : Handle)
  | check (supply : Fallible Hours Handle)
  | forget

/-- Where things stand, with the times of all writes, and those of the writes, and of the checks
that found nothing kept, since the cache was last reset. -/
structure Course where
  hours : Hours
  written : List Instant := []
  noted : List Instant := []

namespace Course

/-- A course begins when the trackers are made. -/
def start (lag : Span) (now : Instant) : Course :=
  { hours := { now, lag := .startingAt now lag } }

def step (maxPropagation : Span) (course : Course) : Move → Course
  | .advance span =>
    { course with hours := { course.hours with now := course.hours.now.later span } }
  | .set time => { course with hours := { course.hours with now := time } }
  | .write main =>
    { hours := (propagationTracker maxPropagation).write main (lagTracker.write main course.hours)
      written := course.written ++ [course.hours.now]
      noted := course.noted ++ [course.hours.now] }
  | .check supply =>
    let (_, lagged) := lagTracker.isConsistent.runWithHandle supply none course.hours
    let (_, asked) :=
      (propagationTracker maxPropagation).isConsistent.runWithHandle supply none lagged
    { course with
      hours := asked
      noted := match course.hours.lastWrite.value? with
        | some _ => course.noted
        | none => course.noted ++ [course.hours.now] }
  | .forget =>
    { course with
      hours := writeCell.modify NewestCache.reset course.hours
      noted := [] }

def run (maxPropagation : Span) (course : Course) (moves : List Move) : Course :=
  moves.foldl (step maxPropagation) course

end Course

section Verdicts

variable {hours : Hours} {latest : Instant}

/-- No question is put, so that no replica is opened. -/
theorem lagTracker_answered (h : hours.lag.lastWrite.value? = some latest) :
    lagTracker.isConsistent hours =
      .answered (decide (latest.nanos + hours.lag.lag.nanos < hours.now.nanos)) hours := by
  have hverdict : hours.lag.isConsistent hours.now =
      decide (latest.nanos + hours.lag.lag.nanos < hours.now.nanos) := by
    unfold LagTracker.isConsistent
    rw [h]
    exact decide_eq_decide.mpr (Instant.lt_earlier_iff latest hours.now hours.lag.lag)
  rw [← hverdict]
  rfl

variable (maxPropagation : Span)

theorem arrived_eq (lastWrite now : Instant) :
    PropagationTracker.arrived maxPropagation lastWrite now =
      decide (lastWrite.nanos + maxPropagation.nanos < now.nanos) :=
  decide_eq_decide.mpr (Instant.lt_earlier_iff lastWrite now maxPropagation)

theorem propagationTracker_of_check {verdict : Bool} {later : Hours}
    (h : PropagationTracker.check maxPropagation (.inCell writeCell) now log hours =
      (verdict, later)) :
    (propagationTracker maxPropagation).isConsistent hours = .answered verdict later := by
  change Consult.act (PropagationTracker.check maxPropagation (.inCell writeCell) now log) hours = _
  unfold Consult.act
  rw [h]

theorem propagationTracker_answered (h : hours.lastWrite.value? = some latest) :
    (propagationTracker maxPropagation).isConsistent hours =
      .answered (decide (latest.nanos + maxPropagation.nanos < hours.now.nanos)) hours := by
  apply propagationTracker_of_check
  rw [← arrived_eq]
  simp only [PropagationTracker.check, WriteTimes.inCell, writeCell, h]

/-- Where nothing is kept, a write is assumed to happen now, and that is kept. -/
def assuming (hours : Hours) : Hours :=
  { log (.lastWriteAssumed hours.now) hours with lastWrite := ⟨some hours.now⟩ }

/-- A write that happens now has not arrived anywhere. -/
theorem propagationTracker_assuming (h : hours.lastWrite.value? = none) :
    (propagationTracker maxPropagation).isConsistent hours = .answered false hours.assuming := by
  have hput : hours.lastWrite.put hours.now = ⟨some hours.now⟩ := NewestCache.put_of_none h
  have hnot : PropagationTracker.arrived maxPropagation hours.now hours.now = false := by
    rw [arrived_eq]
    exact decide_eq_false (by omega)
  apply propagationTracker_of_check
  simp only [PropagationTracker.check, WriteTimes.inCell, writeCell, h, hnot, Cell.modify, hput,
    assuming, log]

end Verdicts

/-- What the trackers keep is a greatest of the times that count for them. -/
structure Kept (lag : Span) (start : Instant) (course : Course) : Prop where
  lag : course.hours.lag.lag = lag
  written : Greatest (start :: course.written) course.hours.lag.lastWrite.value?
  noted : Greatest course.noted course.hours.lastWrite.value?

namespace Kept

variable {lag maxPropagation : Span} {start : Instant} {course : Course}

/-- There has been a write, if only the one that is assumed at the start. -/
theorem exists_lastWrite (h : Kept lag start course) :
    ∃ latest, course.hours.lag.lastWrite.value? = some latest := by
  cases hv : course.hours.lag.lastWrite.value? with
  | none =>
    have hempty := h.written
    rw [hv] at hempty
    cases hempty
  | some latest => exact ⟨latest, rfl⟩

theorem step (h : Kept lag start course) (move : Move) :
    Kept lag start (course.step maxPropagation move) := by
  cases move with
  | advance span => exact ⟨h.lag, h.written, h.noted⟩
  | set time => exact ⟨h.lag, h.written, h.noted⟩
  | write main =>
    exact ⟨h.lag, (NewestCache.put_keepsGreater _ course.hours.now).greatest h.written,
      (NewestCache.put_keepsGreater _ course.hours.now).greatest h.noted⟩
  | forget => exact ⟨h.lag, h.written, rfl⟩
  | check supply =>
    obtain ⟨latest, hlag⟩ := h.exists_lastWrite
    have hlagged := Consult.runWithHandle_of_answered supply none _ (lagTracker_answered hlag)
    cases hkept : course.hours.lastWrite.value? with
    | some kept =>
      have hasked := Consult.runWithHandle_of_answered supply none _
        (propagationTracker_answered maxPropagation hkept)
      simp only [Course.step, hlagged, hasked, hkept]
      exact h
    | none =>
      have hasked := Consult.runWithHandle_of_answered supply none _
        (propagationTracker_assuming maxPropagation hkept)
      have hnoted : Greatest (course.noted ++ [course.hours.now]) (some course.hours.now) := by
        have hput := (NewestCache.put_keepsGreater _ course.hours.now).greatest h.noted
        rw [NewestCache.put_of_none hkept] at hput
        exact hput
      simp only [Course.step, hlagged, hasked, hkept]
      exact ⟨h.lag, h.written, hnoted⟩

theorem run (h : Kept lag start course) (moves : List Move) :
    Kept lag start (course.run maxPropagation moves) := by
  induction moves generalizing course with
  | nil => exact h
  | cons move moves ih => exact ih (h.step move)

end Kept

/-- Trackers that go by time judge exactly, wherever the clock is moved, however long the spans are
and however close the times are to the ends of time. A replica is taken to have caught up once the
lag has passed since the greatest of the times of all writes and of the start, and a write to have
arrived once the longest propagation has passed since the greatest of the times noted after the last
reset. Where nothing is kept there is no such time; the answer is no, and the present is kept. -/
theorem verdicts_by_elapsed_time (lag maxPropagation : Span) (start : Instant)
    (moves : List Move) :
    let course := (Course.start lag start).run maxPropagation moves
    let hours := course.hours
    (∃ latest, Greatest (start :: course.written) (some latest) ∧
      lagTracker.isConsistent hours =
        .answered (decide (latest.nanos + lag.nanos < hours.now.nanos)) hours) ∧
    ((∃ latest, hours.lastWrite.value? = some latest ∧ Greatest course.noted (some latest) ∧
        (propagationTracker maxPropagation).isConsistent hours =
          .answered (decide (latest.nanos + maxPropagation.nanos < hours.now.nanos)) hours) ∨
      hours.lastWrite.value? = none ∧ course.noted = [] ∧
        (propagationTracker maxPropagation).isConsistent hours =
          .answered false hours.assuming) := by
  intro course hours
  have hstart : Kept lag start (Course.start lag start) := by
    refine ⟨rfl, ⟨List.mem_singleton_self _, fun other ho => ?_⟩, rfl⟩
    rw [List.mem_singleton.mp ho]
    exact isGE_self start
  have hkept : Kept lag start course := hstart.run moves
  constructor
  · obtain ⟨latest, hlatest⟩ := hkept.exists_lastWrite
    have hanswer := lagTracker_answered hlatest
    rw [hkept.lag] at hanswer
    exact ⟨latest, hlatest ▸ hkept.written, hanswer⟩
  · have hnoted := hkept.noted
    cases hv : course.hours.lastWrite.value? with
    | some latest =>
      rw [hv] at hnoted
      exact .inl ⟨latest, rfl, hnoted, propagationTracker_answered maxPropagation hv⟩
    | none =>
      rw [hv] at hnoted
      exact .inr ⟨rfl, hnoted, propagationTracker_assuming maxPropagation hv⟩

end Hours

end ReplicaRouting
