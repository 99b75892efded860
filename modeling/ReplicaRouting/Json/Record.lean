import ReplicaRouting.Json.Value

/-!
Reading scalars and records. A record is an object, or an array of all of its fields in order. An
object may leave a field out but not repeat it.
-/

namespace ReplicaRouting.Json.Value

def text? : Value → Option String
  | .string raw => unescape? raw
  | _ => none

def bool? : Value → Option Bool
  | .bool value => some value
  | _ => none

/-- The number written by digits alone, if it is below `bound`. -/
def natural? (bound : Nat) : Value → Option Nat
  | .number literal =>
    if literal.all Char.isDigit then
      some (Nat.ofDigitChars 10 literal 0) |>.filter (· < bound)
    else none
  | _ => none

/-- A value, or nothing for null. -/
def option? {α : Type} (read : Value → Option α) : Value → Option (Option α)
  | .null => some none
  | value => (read value).map some

/-- The items of an array, each read in the same way. -/
def list? {α : Type} (read : Value → Option α) : Value → Option (List α)
  | .array items => items.mapM read
  | _ => none

/-- The members of an object with their keys read. -/
def members? : Value → Option (List (String × Value))
  | .object members => members.mapM fun member => (unescape? member.1).map (·, member.2)
  | _ => none

/-- The value of a key that is there at most once. -/
def once? (members : List (String × Value)) (key : String) : Option (Option Value) :=
  match members.filter (·.1 == key) with
  | [] => some none
  | [member] => some (some member.2)
  | _ => none

/-- The fields of a record by their names, with nothing for one that is left out. Other members
are passed over if `lenient` says so. -/
def fields? (names : List String) (lenient : Bool) : Value → Option (List (Option Value))
  | .array items => if items.length = names.length then some (items.map some) else none
  | value => do
    let members ← value.members?
    if lenient || members.all (names.contains ·.1) then names.mapM (once? members) else none

end ReplicaRouting.Json.Value
