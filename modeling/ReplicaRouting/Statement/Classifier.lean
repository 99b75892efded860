import ReplicaRouting.Settings
import ReplicaRouting.Statement.FunctionCall

/-!
Classes of statements, told apart without parsing them: writes by their first word or by a function
call near their start, row locks by a clause near their end, session settings by their first word.
-/

namespace ReplicaRouting

namespace Text

def asciiLower (text : List Char) : List Char := text.map Char.toLower

/-- Whether the text begins with a word in lower case, apart from the case of the letters. -/
def beginsWith (word text : List Char) : Bool := word.isPrefixOf (asciiLower text)

/-- Whether `part` occurs in the text. -/
def hasPart (part : List Char) : List Char → Bool
  | [] => part.isEmpty
  | c :: rest => part.isPrefixOf (c :: rest) || hasPart part rest

/-- The last `count` characters of the text, all of them if there are no more. -/
def lastChars (count : Nat) (text : List Char) : List Char := text.drop (text.length - count)

end Text

/-- A judge of statements, with its limits and its list of functions that only read. -/
structure Classifier where
  settings : RoutingSettings := {}

namespace Classifier

/-- The functions that only read, as they are compared. -/
def readOnlyNames (classifier : Classifier) : List (List Char) :=
  classifier.settings.readOnlyFunctions.map fun name => Text.asciiLower (Text.trim name.toList)

def unqualified (name : List Char) : List Char := (name.reverse.takeWhile (· != '.')).reverse

/-- Whether a function only reads, by its full name or by the part behind the last point. -/
def isReadOnly (classifier : Classifier) (name : List Char) : Bool :=
  let name := Text.asciiLower name
  classifier.readOnlyNames.any fun known => known == name || known == unqualified name

/-- Whether the start of a statement calls a function that may write. -/
def callsWriter (classifier : Classifier) (text : List Char) : Bool :=
  let window := text.take classifier.settings.callWindow.toNat
  (Statement.calledNames false window).any fun name => !classifier.isReadOnly name

def isWriteText (classifier : Classifier) (text : List Char) : Bool :=
  let start := Text.trimStart text
  !Text.isBlankText text &&
    (Text.beginsWith "update".toList start || Text.beginsWith "delete".toList start ||
      classifier.callsWriter start)

/-- The end of a statement, as far as it is searched for a row lock. A window of no characters
stands for no limit. -/
def lockWindow (classifier : Classifier) (text : List Char) : List Char :=
  if classifier.settings.lockWindow = 0 then text
  else Text.lastChars classifier.settings.lockWindow.toNat text

def isLockText (classifier : Classifier) (text : List Char) : Bool :=
  !Text.isBlankText text &&
    Text.hasPart Settings.lockClause.toList (Text.asciiLower (classifier.lockWindow text))

def isSettingText (text : List Char) : Bool :=
  !Text.isBlankText text && Text.beginsWith "set".toList (Text.trimStart text)

def isWrite (classifier : Classifier) (sql : Option String) : Bool :=
  sql.any fun sql => classifier.isWriteText sql.toList

def isLock (classifier : Classifier) (sql : Option String) : Bool :=
  sql.any fun sql => classifier.isLockText sql.toList

def isSetting (sql : Option String) : Bool := sql.any fun sql => isSettingText sql.toList

end Classifier

end ReplicaRouting
