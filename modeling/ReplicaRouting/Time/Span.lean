/-!
Lengths of time, exact to the nanosecond.
-/

namespace ReplicaRouting

/-- A length of time: fewer than 2^64 seconds, counted in nanoseconds. -/
structure Span where
  nanos : Nat
  nanos_lt : nanos < 18_446_744_073_709_551_616_000_000_000
deriving DecidableEq

namespace Span

/-- The length of that many nanoseconds, if it is short enough. -/
def ofNanos? (nanos : Nat) : Option Span :=
  if h : nanos < 18_446_744_073_709_551_616_000_000_000 then some ⟨nanos, h⟩ else none

/-- The length of whole seconds and nanoseconds together; a billion nanoseconds and more carry. -/
def ofParts? (seconds nanos : Nat) : Option Span :=
  ofNanos? (seconds * 1_000_000_000 + nanos)

/-- The length of that many milliseconds. -/
def ofMillis (millis : UInt64) : Span where
  nanos := millis.toNat * 1_000_000
  nanos_lt := by have := millis.toNat_lt; omega

def seconds (d : Span) : Nat := d.nanos / 1_000_000_000

def subseconds (d : Span) : Nat := d.nanos % 1_000_000_000

def millis (d : Span) : Nat := d.nanos / 1_000_000

def isZero (d : Span) : Bool := d.nanos == 0

/-- The nanoseconds of the longest step a point in time can be moved by: 2^63 - 1 milliseconds. -/
def longestStep : Nat := 9_223_372_036_854_775_807_000_000

/-- The nanoseconds a point in time moves by, when moved by `d`. -/
def step (d : Span) : Nat := min d.nanos longestStep

end Span

end ReplicaRouting
