import ReplicaRouting.Fault
import ReplicaRouting.Text.Blank
import ReplicaRouting.Text.Numeral

/-!
Positions in a write-ahead log, and their text: the two halves of the offset in hexadecimal, with
a slash between them.
-/

namespace ReplicaRouting

/-- A position in the write-ahead log. -/
structure Position where
  offset : UInt64
deriving DecidableEq, Repr

namespace Position

instance : Inhabited Position := ⟨⟨0⟩⟩

instance : LT Position := ⟨fun p q => p.offset < q.offset⟩

instance : LE Position := ⟨fun p q => p.offset ≤ q.offset⟩

instance (p q : Position) : Decidable (p < q) := inferInstanceAs (Decidable (p.offset < q.offset))

instance (p q : Position) : Decidable (p ≤ q) := inferInstanceAs (Decidable (p.offset ≤ q.offset))

instance : Ord Position := ⟨fun p q => compare p.offset q.offset⟩

def high (position : Position) : Nat := position.offset.toNat / UInt32.size

def low (position : Position) : Nat := position.offset.toNat % UInt32.size

/-- Both halves in hexadecimal, without leading zeros. -/
def text (position : Position) : String :=
  String.ofList (Text.upperHex position.high ++ ['/'] ++ Text.upperHex position.low)

/-- What keeps a text from being a position. -/
inductive Defect where
  | noSlash
  | badHigh
  | badLow
deriving DecidableEq, Repr

namespace Defect

def reason : Defect → String
  | noSlash => "expected X/Y"
  | badHigh => "bad high half"
  | badLow => "bad low half"

end Defect

def half? (text : List Char) : Option Nat := Text.numeral? 16 UInt32.size text

/-- The position written by a text without white space at its ends. The first slash divides it. -/
def ofTrimmed (text : List Char) : Except Defect Position :=
  match text.dropWhile (· != '/') with
  | [] => .error .noSlash
  | _ :: lowText =>
    match half? (text.takeWhile (· != '/')) with
    | none => .error .badHigh
    | some high =>
      match half? lowText with
      | none => .error .badLow
      | some low => .ok ⟨UInt64.ofNat (high * UInt32.size + low)⟩

/-- The position written by a text. White space around it does not matter. -/
def parse (text : String) : Except Fault Position :=
  match ofTrimmed (Text.trim text.toList) with
  | .ok position => .ok position
  | .error defect => .error (.invalidPosition text defect.reason)

end Position

end ReplicaRouting
