import ReplicaRouting.Settings
import ReplicaRouting.Text.Numeral

/-!
Settings taken from named variables. A variable that is missing or cannot be read leaves the
default in place.
-/

namespace ReplicaRouting

namespace Text

/-- The pieces of a text between commas; there is one more than there are commas. -/
def commaPieces : List Char → List (List Char)
  | [] => [[]]
  | c :: rest =>
    if c = ',' then [] :: commaPieces rest
    else match commaPieces rest with
      | [] => [[c]]
      | piece :: pieces => (c :: piece) :: pieces

/-- The entries of a list separated by commas, without white space around them and without blank
ones. -/
def commaList (text : List Char) : List (List Char) :=
  ((commaPieces text).map trim).filter (!·.isEmpty)

end Text

namespace Settings

/-- The values of the variables that are set. -/
abbrev Variables := String → Option String

/-- The value of a variable as read by `read` once white space around it is gone. -/
def readVariable? (lookup : Variables) (name : String) (read : List Char → Option α) : Option α :=
  (lookup name).bind fun value => read (Text.trim value.toList)

/-- A count in decimal. -/
def count? (text : List Char) : Option UInt64 :=
  (Text.numeral? 10 UInt64.size text).map UInt64.ofNat

def millis? (text : List Char) : Option Span := (count? text).map Span.ofMillis

/-- One of the two words for an answer. -/
def flag? (text : List Char) : Option Bool :=
  if text = "true".toList then some true
  else if text = "false".toList then some false
  else none

def ofVariables (lookup : Variables) : Settings :=
  let defaults : Settings := {}
  { routing := {
      callWindow := (readVariable? lookup "TANDEM_FUNCTION_CALL_PREFIX" count?).getD
        defaults.routing.callWindow
      lockWindow := (readVariable? lookup "TANDEM_SELECT_FOR_UPDATE_SUFFIX" count?).getD
        defaults.routing.lockWindow
      readOnlyFunctions := match lookup "TANDEM_READ_ONLY_FUNCTIONS" with
        | some value => (Text.commaList value.toList).map String.ofList
        | none => defaults.routing.readOnlyFunctions }
    consistency := {
      clockLag := (readVariable? lookup "TANDEM_CLOCK_LAG_MS" millis?).getD
        defaults.consistency.clockLag
      maxPropagation := (readVariable? lookup "TANDEM_MAX_PROPAGATION_MS" millis?).getD
        defaults.consistency.maxPropagation
      refreshTimeout := (readVariable? lookup "TANDEM_REFRESH_TIMEOUT_MS" millis?).getD
        defaults.consistency.refreshTimeout
      fallBackToConsistency :=
        (readVariable? lookup "TANDEM_FALL_BACK_TO_CONSISTENCY" flag?).getD
          defaults.consistency.fallBackToConsistency } }

end Settings

end ReplicaRouting
