import ReplicaRouting.Decision
import ReplicaRouting.Json.Record
import ReplicaRouting.Json.Render

/-!
Decisions as JSON. A cause stands within the decision that it caused. Records and reasons may be
nested up to a limit only.
-/

namespace ReplicaRouting

open Json (Value)

namespace Reason

/-- The reason that a value stands for: its name, or an object with the name for a key and null for
a value. The object is one more level of nesting. -/
def ofJson? (levels : Nat) : Value → Option Reason
  | .object [(key, .null)] => if levels = 0 then none else (Json.unescape? key).bind ofName?
  | value => value.text?.bind ofName?

end Reason

namespace Grounds

def toJson (grounds : Grounds) (cause : Value) : Value :=
  .record
    [("sql", .ofOption .ofText grounds.sql), ("reason", .ofText grounds.reason.name),
     ("cause", cause)]

def causesToJson : List Grounds → Value
  | [] => .null
  | nearest :: earlier => nearest.toJson (causesToJson earlier)

end Grounds

namespace Decision

def toJson (decision : Decision) : Value :=
  decision.toGrounds.toJson (Grounds.causesToJson decision.causes)

/-- How deep a decision may be nested in a text. -/
def nestingLimit : Nat := 127

/-- The decision that a value stands for, if it is nested no deeper than the given levels. The
statement and the cause may be left out. -/
def ofJson? : Nat → Value → Option Decision
  | 0, _ => none
  | levels + 1, value => do
    let [sql, some reason, cause] ← value.fields? ["sql", "reason", "cause"] true | none
    let grounds : Grounds := {
      sql := ← (sql.getD .null).option? Value.text?
      reason := ← Reason.ofJson? levels reason }
    match ← (cause.getD .null).option? (ofJson? levels) with
    | some cause => return withCause { toGrounds := grounds } cause
    | none => return { toGrounds := grounds }

/-- The decision that a text stands for. -/
def read? (text : String) : Option Decision := (Json.parse? text).bind (ofJson? nestingLimit)

end Decision

end ReplicaRouting
