import ReplicaRouting.Json.Record
import ReplicaRouting.Json.Render
import ReplicaRouting.Settings

/-!
Settings as JSON. Every field has to be given. A length of time is a record of whole seconds and
nanoseconds, and the only record without room for other members.
-/

namespace ReplicaRouting

open Json (Value)

namespace Span

/-- Whole seconds, and the nanoseconds beyond them. -/
def toJson (span : Span) : Value :=
  .record [("secs", .ofNat span.seconds), ("nanos", .ofNat span.subseconds)]

/-- The length that a value stands for. A billion nanoseconds and more carry into the seconds. -/
def ofJson? (value : Value) : Option Span := do
  let [some seconds, some nanos] ← value.fields? ["secs", "nanos"] false | none
  ofParts? (← seconds.natural? UInt64.size) (← nanos.natural? UInt32.size)

end Span

namespace RoutingSettings

def toJson (settings : RoutingSettings) : Value :=
  .record
    [("function_call_prefix", .ofNat settings.callWindow.toNat),
     ("select_for_update_suffix", .ofNat settings.lockWindow.toNat),
     ("read_only_functions", .array (settings.readOnlyFunctions.map .ofText))]

def ofJson? (value : Value) : Option RoutingSettings := do
  let [some callWindow, some lockWindow, some functions] ← value.fields?
    ["function_call_prefix", "select_for_update_suffix", "read_only_functions"] true | none
  return {
    callWindow := .ofNat (← callWindow.natural? UInt64.size)
    lockWindow := .ofNat (← lockWindow.natural? UInt64.size)
    readOnlyFunctions := ← functions.list? Value.text? }

end RoutingSettings

namespace ConsistencySettings

def toJson (settings : ConsistencySettings) : Value :=
  .record
    [("clock_lag", settings.clockLag.toJson),
     ("max_propagation", settings.maxPropagation.toJson),
     ("refresh_timeout", settings.refreshTimeout.toJson),
     ("fall_back_to_consistency", .bool settings.fallBackToConsistency)]

def ofJson? (value : Value) : Option ConsistencySettings := do
  let [some clockLag, some maxPropagation, some refreshTimeout, some fallBack] ← value.fields?
    ["clock_lag", "max_propagation", "refresh_timeout", "fall_back_to_consistency"] true | none
  return {
    clockLag := ← Span.ofJson? clockLag
    maxPropagation := ← Span.ofJson? maxPropagation
    refreshTimeout := ← Span.ofJson? refreshTimeout
    fallBackToConsistency := ← fallBack.bool? }

end ConsistencySettings

namespace Settings

def toJson (settings : Settings) : Value :=
  .record
    [("routing", settings.routing.toJson), ("consistency", settings.consistency.toJson)]

def ofJson? (value : Value) : Option Settings := do
  let [some routing, some consistency] ← value.fields? ["routing", "consistency"] true | none
  return {
    routing := ← RoutingSettings.ofJson? routing
    consistency := ← ConsistencySettings.ofJson? consistency }

def read? (text : String) : Option Settings := (Json.parse? text).bind ofJson?

end Settings

end ReplicaRouting
