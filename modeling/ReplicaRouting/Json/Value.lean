import ReplicaRouting.Json.Token

/-!
JSON values as they are written: members in order, also repeated ones, and numbers and strings
unread. Values are built from tokens one by one, on a stack of the arrays and objects around.
-/

namespace ReplicaRouting.Json

/-- A value. -/
inductive Value where
  | null
  | bool (value : Bool)
  | number (literal : List Char)
  | string (raw : List Char)
  | array (items : List Value)
  | object (members : List (List Char × Value))

/-- An array or object that waits for a value in it; what it holds so far has the last first. -/
inductive Frame where
  | array (items : List Value)
  | object (members : List (List Char × Value)) (key : List Char)

/-- What is known of a text before its next token. The list holds the arrays and objects around,
the innermost first. -/
inductive Progress where
  | anyValue (around : List Frame)
  | firstItem (around : List Frame)
  | firstKey (around : List Frame)
  | nextKey (members : List (List Char × Value)) (around : List Frame)
  | colon (members : List (List Char × Value)) (key : List Char) (around : List Frame)
  | complete (value : Value) (around : List Frame)

/-- The effect of a token where a value has to begin. -/
def beginValue? (around : List Frame) : Token → Option Progress
  | .null => some (.complete .null around)
  | .bool value => some (.complete (.bool value) around)
  | .number literal => some (.complete (.number literal) around)
  | .string raw => some (.complete (.string raw) around)
  | .openBracket => some (.firstItem around)
  | .openBrace => some (.firstKey around)
  | _ => none

/-- The effect of a token. -/
def Progress.step? : Progress → Token → Option Progress
  | .anyValue around, token => beginValue? around token
  | .firstItem around, .closeBracket => some (.complete (.array []) around)
  | .firstItem around, token => beginValue? (.array [] :: around) token
  | .firstKey around, .closeBrace => some (.complete (.object []) around)
  | .firstKey around, .string key => some (.colon [] key around)
  | .nextKey members around, .string key => some (.colon members key around)
  | .colon members key around, .colon => some (.anyValue (.object members key :: around))
  | .complete value (.array items :: around), .comma =>
    some (.anyValue (.array (value :: items) :: around))
  | .complete value (.array items :: around), .closeBracket =>
    some (.complete (.array (value :: items).reverse) around)
  | .complete value (.object members key :: around), .comma =>
    some (.nextKey ((key, value) :: members) around)
  | .complete value (.object members key :: around), .closeBrace =>
    some (.complete (.object ((key, value) :: members).reverse) around)
  | _, _ => none

/-- The effect of a row of tokens. -/
def Progress.steps? (progress : Progress) (tokens : List Token) : Option Progress :=
  tokens.foldlM step? progress

def ofTokens? (tokens : List Token) : Option Value :=
  match (Progress.anyValue []).steps? tokens with
  | some (.complete value []) => some value
  | _ => none

def parse? (text : String) : Option Value := (tokens? text.toList).bind ofTokens?

end ReplicaRouting.Json
