import ReplicaRouting.Json.Value

/-!
JSON values as text, without white space.
-/

namespace ReplicaRouting.Json

mutual

def Value.tokens : Value → List Token
  | .null => [.null]
  | .bool value => [.bool value]
  | .number literal => [.number literal]
  | .string raw => [.string raw]
  | .array [] => [.openBracket, .closeBracket]
  | .array (item :: items) =>
    .openBracket :: item.tokens ++ Value.itemTokens items ++ [.closeBracket]
  | .object [] => [.openBrace, .closeBrace]
  | .object ((key, value) :: members) =>
    .openBrace :: .string key :: .colon :: value.tokens ++ Value.memberTokens members ++
      [.closeBrace]

def Value.itemTokens : List Value → List Token
  | [] => []
  | item :: items => .comma :: item.tokens ++ Value.itemTokens items

def Value.memberTokens : List (List Char × Value) → List Token
  | [] => []
  | (key, value) :: members =>
    .comma :: .string key :: .colon :: value.tokens ++ Value.memberTokens members

end

namespace Value

def render (value : Value) : String := String.ofList (value.tokens.flatMap Token.text)

def ofText (text : String) : Value := .string (escape text)

def ofNat (n : Nat) : Value := .number (Nat.toDigits 10 n)

/-- A value that may be missing. -/
def ofOption {α : Type} (encode : α → Value) : Option α → Value
  | some a => encode a
  | none => .null

/-- A record as an object. -/
def record (fields : List (String × Value)) : Value :=
  .object (fields.map fun field => (escape field.1, field.2))

end Value

end ReplicaRouting.Json
