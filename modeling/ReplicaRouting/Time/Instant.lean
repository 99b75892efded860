import ReplicaRouting.Time.Span

/-!
Points in time. They lie between two fixed ends, and moving past an end stops there.
-/

namespace ReplicaRouting

namespace Instant

/-- Nanoseconds from the epoch to the first point in time, the start of the year -262143. -/
def firstNanos : Int := -8_334_601_228_800_000_000_000

/-- Nanoseconds from the epoch to the last point in time, the end of the year 262142. -/
def lastNanos : Int := 8_210_266_876_799_999_999_999

end Instant

/-- A point in time as nanoseconds since the start of 1970. -/
structure Instant where
  nanos : Int
  first_le : Instant.firstNanos ≤ nanos
  le_last : nanos ≤ Instant.lastNanos
deriving DecidableEq

namespace Instant

def epoch : Instant := ⟨0, by decide, by decide⟩

def first : Instant := ⟨firstNanos, by decide, by decide⟩

def last : Instant := ⟨lastNanos, by decide, by decide⟩

instance : Inhabited Instant := ⟨epoch⟩

/-- The point that many nanoseconds from the epoch, if there is one. -/
def ofNanos? (nanos : Int) : Option Instant :=
  if h : firstNanos ≤ nanos ∧ nanos ≤ lastNanos then some ⟨nanos, h.1, h.2⟩ else none

instance : LT Instant := ⟨fun s t => s.nanos < t.nanos⟩

instance : LE Instant := ⟨fun s t => s.nanos ≤ t.nanos⟩

instance (s t : Instant) : Decidable (s < t) := inferInstanceAs (Decidable (s.nanos < t.nanos))

instance (s t : Instant) : Decidable (s ≤ t) := inferInstanceAs (Decidable (s.nanos ≤ t.nanos))

instance : Ord Instant := ⟨fun s t => compare s.nanos t.nanos⟩

/-- The point a length of time later, or the last point if that is none. -/
def later (t : Instant) (d : Span) : Instant :=
  (ofNanos? (t.nanos + d.step)).getD last

/-- The point a length of time earlier, or the first point if that is none. -/
def earlier (t : Instant) (d : Span) : Instant :=
  (ofNanos? (t.nanos - d.step)).getD first

def seconds (t : Instant) : Int := t.nanos / 1_000_000_000

def subseconds (t : Instant) : Nat := (t.nanos % 1_000_000_000).toNat

end Instant

end ReplicaRouting
