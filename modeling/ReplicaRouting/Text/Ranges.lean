/-!
Character classes given by ranges of code points.
-/

namespace ReplicaRouting.Text

/-- A class of characters as a list of code point ranges, both ends included. -/
abbrev Ranges := List (Nat × Nat)

def Ranges.contains (ranges : Ranges) (c : Char) : Bool :=
  ranges.any fun range => range.1 ≤ c.toNat && c.toNat ≤ range.2

end ReplicaRouting.Text
