import ReplicaRouting.Fault
import ReplicaRouting.Time.Text
import ReplicaRouting.Text.Blank

/-!
Settings for classifying statements and for judging consistency, and which of them are usable.
-/

namespace ReplicaRouting

/-- Limits and lists for the classification of statements. -/
structure RoutingSettings where
  /-- How many characters from the start may hold a function call. -/
  callWindow : UInt64 := 80
  /-- How many characters at the end may hold a row lock. -/
  lockWindow : UInt64 := 100
  /-- Functions that only read. -/
  readOnlyFunctions : List String := []
deriving DecidableEq

/-- Times and answers for judging whether a replica has caught up. -/
structure ConsistencySettings where
  /-- The lag assumed of a replica. -/
  clockLag : Span := .ofMillis 100
  /-- The longest time a write takes to reach a replica. -/
  maxPropagation : Span := .ofMillis 100
  /-- The time after which another caller may take over a refresh. -/
  refreshTimeout : Span := .ofMillis 5000
  /-- The answer while progress is unknown. -/
  fallBackToConsistency : Bool := false
deriving DecidableEq

/-- All settings. -/
structure Settings where
  routing : RoutingSettings := {}
  consistency : ConsistencySettings := {}
deriving DecidableEq

namespace Settings

/-- The words whose place at the end of a statement makes it a row lock. -/
def lockClause : String := "for update"

/-- A window of no characters finds no function call. -/
def checkCallWindow (settings : Settings) : Except Fault Unit :=
  if settings.routing.callWindow = 0 then
    .error (.invalidSetting "function_call_prefix" (toString settings.routing.callWindow.toNat)
      "function_call_prefix must be greater than 0")
  else .ok ()

/-- The window for row locks has room for the clause. -/
def checkLockWindow (settings : Settings) : Except Fault Unit :=
  if settings.routing.lockWindow.toNat < lockClause.length then
    .error (.invalidSetting "select_for_update_suffix"
      (toString settings.routing.lockWindow.toNat)
      "select_for_update_suffix must fit the 'for update' clause")
  else .ok ()

/-- No function name is blank. -/
def checkFunctions (settings : Settings) : Except Fault Unit :=
  match settings.routing.readOnlyFunctions.find? (Text.isBlankText ·.toList) with
  | some name =>
    .error (.invalidSetting "read_only_functions" (Text.quoted name)
      "function names must not be blank")
  | none => .ok ()

/-- A time is not zero. -/
def checkSpan (field : String) (span : Span) : Except Fault Unit :=
  if span.isZero then
    .error (.invalidSetting field span.text "duration must be greater than 0")
  else .ok ()

/-- Whether the settings are usable; the fault is the first that applies. -/
def validate (settings : Settings) : Except Fault Unit := do
  settings.checkCallWindow
  settings.checkLockWindow
  settings.checkFunctions
  checkSpan "clock_lag" settings.consistency.clockLag
  checkSpan "max_propagation" settings.consistency.maxPropagation
  checkSpan "refresh_timeout" settings.consistency.refreshTimeout

end Settings

end ReplicaRouting
