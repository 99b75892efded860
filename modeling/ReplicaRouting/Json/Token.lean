import ReplicaRouting.Json.Escape

/-!
The tokens of a JSON text. Numbers and strings are kept as they are written. The text is gone
through character by character; white space between tokens leaves no trace.
-/

namespace ReplicaRouting.Json

/-- A token. -/
inductive Token where
  | openBracket
  | closeBracket
  | openBrace
  | closeBrace
  | comma
  | colon
  | null
  | bool (value : Bool)
  | number (literal : List Char)
  | string (raw : List Char)
deriving DecidableEq, Repr

/-- Whether a row of digits is the whole part of a number: not empty, and without a zero in front
of other digits. -/
def isWholePart : List Char → Bool
  | [] => false
  | ['0'] => true
  | '0' :: _ => false
  | _ => true

def isExponentPart : List Char → Bool
  | [] => true
  | e :: rest =>
    let digits := match rest with
      | '+' :: digits | '-' :: digits => digits
      | _ => rest
    (e == 'e' || e == 'E') && !digits.isEmpty && digits.all Char.isDigit

/-- Whether a text is empty, or a fraction or an exponent or both. -/
def isFractionAndExponent : List Char → Bool
  | '.' :: rest =>
    !(rest.takeWhile Char.isDigit).isEmpty && isExponentPart (rest.dropWhile Char.isDigit)
  | rest => isExponentPart rest

def isNumber (text : List Char) : Bool :=
  let unsigned := match text with
    | '-' :: rest => rest
    | _ => text
  isWholePart (unsigned.takeWhile Char.isDigit) &&
    isFractionAndExponent (unsigned.dropWhile Char.isDigit)

def continuesNumber (c : Char) : Bool :=
  c.isDigit || c == '+' || c == '-' || c == '.' || c == 'e' || c == 'E'

def isSpace (c : Char) : Bool := c == ' ' || c == '\t' || c == '\n' || c == '\r'

def mark? : Char → Option Token
  | '[' => some .openBracket
  | ']' => some .closeBracket
  | '\x7b' => some .openBrace
  | '\x7d' => some .closeBrace
  | ',' => some .comma
  | ':' => some .colon
  | _ => none

def word? (word : List Char) : Option Token :=
  if word = "null".toList then some .null
  else if word = "true".toList then some (.bool true)
  else if word = "false".toList then some (.bool false)
  else none

/-- The beginning of a token whose end has not been seen, its last character first. -/
inductive Pending where
  | nothing
  | number (seen : List Char)
  | word (seen : List Char)
  | string (seen : List Char)
  | escape (seen : List Char)
deriving DecidableEq

namespace Pending

def close? : Pending → Option (List Token)
  | nothing => some []
  | number seen => if isNumber seen.reverse then some [.number seen.reverse] else none
  | word seen => (word? seen.reverse).map ([·])
  | string _ | escape _ => none

end Pending

/-- The effect of a character where no token is pending. -/
def begin? (c : Char) : Option (List Token × Pending) :=
  if isSpace c then some ([], .nothing)
  else if c = '"' then some ([], .string [])
  else if c.isDigit || c == '-' then some ([], .number [c])
  else if c.isLower then some ([], .word [c])
  else (mark? c).map fun token => ([token], .nothing)

/-- The effect of a character that does not belong to the pending token. -/
def closeAndBegin? (pending : Pending) (c : Char) : Option (List Token × Pending) := do
  let closed ← pending.close?
  let (tokens, pending) ← begin? c
  return (closed ++ tokens, pending)

/-- The effect of a character: the tokens that are complete, and what is pending then. -/
def advance? (pending : Pending) (c : Char) : Option (List Token × Pending) :=
  match pending with
  | .nothing => begin? c
  | .number seen =>
    if continuesNumber c then some ([], .number (c :: seen)) else closeAndBegin? pending c
  | .word seen => if c.isLower then some ([], .word (c :: seen)) else closeAndBegin? pending c
  | .string seen =>
    if c = '"' then
      if (codes? seen.reverse).isSome then some ([.string seen.reverse], .nothing) else none
    else if c = '\\' then some ([], .escape (c :: seen))
    else some ([], .string (c :: seen))
  | .escape seen => some ([], .string (c :: seen))

def tokensFrom? : Pending → List Char → Option (List Token)
  | pending, [] => pending.close?
  | pending, c :: rest => do
    let (tokens, pending) ← advance? pending c
    return tokens ++ (← tokensFrom? pending rest)

def tokens? (text : List Char) : Option (List Token) := tokensFrom? .nothing text

namespace Token

def text : Token → List Char
  | openBracket => ['[']
  | closeBracket => [']']
  | openBrace => ['\x7b']
  | closeBrace => ['\x7d']
  | comma => [',']
  | colon => [':']
  | null => "null".toList
  | bool true => "true".toList
  | bool false => "false".toList
  | number literal => literal
  | string raw => ['"'] ++ raw ++ ['"']

end Token

end ReplicaRouting.Json
