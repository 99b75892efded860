import Mathlib.Algebra.Ring.Nat
import ReplicaRouting.Time.Instant

/-!
Points in time, in exact nanoseconds. No two of them are as far apart as the longest step, so that
a move in time is cut off at the ends of time alone.
-/

namespace ReplicaRouting.Instant

instance : Std.TransOrd Instant := inferInstanceAs (Std.TransCmp (compareOn Instant.nanos))

theorem lastNanos_sub_firstNanos_lt : lastNanos - firstNanos < Span.longestStep := by decide

theorem ofNanos?_getD_nanos (n : Int) (other : Instant) :
    ((ofNanos? n).getD other).nanos =
      if firstNanos ≤ n ∧ n ≤ lastNanos then n else other.nanos := by
  unfold ofNanos?
  split
  · rfl
  · rfl

theorem later_nanos (t : Instant) (d : Span) :
    (t.later d).nanos = min (t.nanos + d.nanos) lastNanos := by
  have hfirst := t.first_le
  have hlast := t.le_last
  have hrange := lastNanos_sub_firstNanos_lt
  have hend : last.nanos = lastNanos := rfl
  rw [later, ofNanos?_getD_nanos, hend, Span.step]
  -- a step that is cut off leads beyond the end from wherever it is taken
  split
  · omega
  · omega

theorem earlier_nanos (t : Instant) (d : Span) :
    (t.earlier d).nanos = max (t.nanos - d.nanos) firstNanos := by
  have hfirst := t.first_le
  have hlast := t.le_last
  have hrange := lastNanos_sub_firstNanos_lt
  have hend : first.nanos = firstNanos := rfl
  rw [earlier, ofNanos?_getD_nanos, hend, Span.step]
  split
  · omega
  · omega

/-- Neither end of time gets into a comparison: to be before what was a while ago is to have been
followed by that while. -/
theorem lt_earlier_iff (s t : Instant) (d : Span) :
    s < t.earlier d ↔ s.nanos + d.nanos < t.nanos := by
  have hs := s.first_le
  calc
    s < t.earlier d ↔ s.nanos < max (t.nanos - d.nanos) firstNanos := by
      rw [← earlier_nanos]
      rfl
    _ ↔ s.nanos + d.nanos < t.nanos := by omega

theorem ext_nanos {s t : Instant} (h : s.nanos = t.nanos) : s = t := by
  cases s
  cases t
  cases h
  rfl

/-- However often a clock is moved on, it is cut off once at the end. -/
theorem foldl_later_nanos (t : Instant) (spans : List Span) :
    (spans.foldl later t).nanos = min (t.nanos + (spans.map Span.nanos).sum) lastNanos := by
  induction spans generalizing t with
  | nil =>
    have hlast := t.le_last
    simp only [List.foldl_nil, List.map_nil, List.sum_nil]
    omega
  | cons d spans ih =>
    rw [List.foldl_cons, ih, later_nanos, List.map_cons, List.sum_cons]
    omega

theorem foldl_later_perm {spans others : List Span} (h : spans.Perm others) (t : Instant) :
    spans.foldl later t = others.foldl later t := by
  apply ext_nanos
  rw [foldl_later_nanos, foldl_later_nanos, (h.map Span.nanos).sum_nat]

/-- Moves in time are exact, and cut off at the ends of time alone, from any point and for lengths
however great: cutting off the length beforehand never shows. The longest step is that of the
greatest number of milliseconds in 64 bits with a sign. Moves in the same direction may be made in
any order, and a point lies before what was a while ago exactly if that while has passed since. -/
theorem moves_cut_off_at_ends_alone (t u : Instant) (d e : Span) (spans : List Span) :
    d.step = min d.nanos ((2 ^ 63 - 1) * 10 ^ 6) ∧
      (t.later d).nanos = min (t.nanos + d.nanos) lastNanos ∧
      (t.earlier d).nanos = max (t.nanos - d.nanos) firstNanos ∧
      (t.later d).later e = (t.later e).later d ∧
      ((t.later d).later e).nanos = min (t.nanos + d.nanos + e.nanos) lastNanos ∧
      (spans.foldl later t).nanos = min (t.nanos + (spans.map Span.nanos).sum) lastNanos ∧
      (u < t.earlier d ↔ u.nanos + d.nanos < t.nanos) := by
  have hboth := foldl_later_nanos t [d, e]
  have hswapped : [d, e].foldl later t = [e, d].foldl later t :=
    foldl_later_perm (.swap e d []) t
  simp only [List.foldl_cons, List.foldl_nil, List.map_cons, List.map_nil, List.sum_cons,
    List.sum_nil] at hboth hswapped
  refine ⟨rfl, later_nanos t d, earlier_nanos t d, hswapped, ?_, foldl_later_nanos t spans,
    lt_earlier_iff u t d⟩
  rw [hboth]
  omega

end ReplicaRouting.Instant
