import ReplicaRouting.Text.Blank
import ReplicaRouting.Text.Word

/-!
Function calls in the form of a select: the word, white space, a name, and an opening parenthesis.
The search goes from left to right and goes on behind each call that it finds.
-/

namespace ReplicaRouting.Statement

/-- The characters of the word `select`, each with all of its forms. -/
def selectForms : List (List Char) :=
  [['s', 'S', 'ſ'], ['e', 'E'], ['l', 'L'], ['e', 'E'], ['c', 'C'], ['t', 'T']]

def afterWord? : List (List Char) → List Char → Option (List Char)
  | [], text => some text
  | _ :: _, [] => none
  | forms :: word, c :: rest => if c ∈ forms then afterWord? word rest else none

/-- Whether a name may begin with the character: a letter from A to Z or an underscore, in every
form that is equal to one of them apart from case. -/
def startsName (c : Char) : Bool :=
  ('A' ≤ c && c ≤ 'Z') || ('a' ≤ c && c ≤ 'z') || c == '_' || c == 'ſ' || c == '\u212a'

def continuesName (c : Char) : Bool := Text.isWord c || c == '.'

/-- A function call: the name, and the text behind the parenthesis. -/
structure FunctionCall where
  name : List Char
  rest : List Char
deriving DecidableEq

/-- The rest of a call behind the white space that follows the word `select`. -/
def nameAndParenthesis? (text : List Char) : Option FunctionCall :=
  match text with
  | [] => none
  | c :: _ =>
    if startsName c then
      match (text.dropWhile continuesName).dropWhile Text.isBlank with
      | '(' :: rest => some { name := text.takeWhile continuesName, rest }
      | _ => none
    else none

/-- The call that the text begins with. -/
def callAt? (text : List Char) : Option FunctionCall :=
  match afterWord? selectForms text with
  | some (c :: rest) =>
    if Text.isBlank c then nameAndParenthesis? (rest.dropWhile Text.isBlank) else none
  | _ => none

theorem length_dropWhile_le (p : Char → Bool) (text : List Char) :
    (text.dropWhile p).length ≤ text.length :=
  (List.dropWhile_sublist p).length_le

theorem length_lt_of_nameAndParenthesis {text : List Char} {call : FunctionCall}
    (h : nameAndParenthesis? text = some call) : call.rest.length < text.length := by
  unfold nameAndParenthesis? at h
  split at h
  · simp at h
  · next c rest =>
    split at h
    · split at h
      · next tail ht =>
        have hle : ('(' :: tail).length ≤ (c :: rest).length := by
          rw [← ht]
          exact Nat.le_trans (length_dropWhile_le _ _) (length_dropWhile_le _ _)
        simp only [Option.some.injEq] at h
        subst h
        simp only [List.length_cons] at hle ⊢
        omega
      · simp at h
    · simp at h

theorem length_le_of_afterWord {word : List (List Char)} {text rest : List Char}
    (h : afterWord? word text = some rest) : rest.length ≤ text.length := by
  induction word generalizing text with
  | nil => simp only [afterWord?, Option.some.injEq] at h; simp [h]
  | cons forms word ih =>
    cases text with
    | nil => simp [afterWord?] at h
    | cons c tail =>
      simp only [afterWord?] at h
      split at h
      · exact Nat.le_trans (ih h) (by simp)
      · simp at h

theorem length_lt_of_callAt {text : List Char} {call : FunctionCall}
    (h : callAt? text = some call) : call.rest.length < text.length := by
  unfold callAt? at h
  split at h
  · next c rest hw =>
    split at h
    · have h1 := length_lt_of_nameAndParenthesis h
      have h2 := length_dropWhile_le Text.isBlank rest
      have h3 := length_le_of_afterWord hw
      simp only [List.length_cons] at h3
      omega
    · simp at h
  · simp at h

/-- The names called in a text, in order. A call begins where no word character stands before. -/
def calledNames (afterWordChar : Bool) (text : List Char) : List (List Char) :=
  match text with
  | [] => []
  | c :: rest =>
    if afterWordChar then calledNames (Text.isWord c) rest
    else
      match _h : callAt? (c :: rest) with
      | some call => call.name :: calledNames false call.rest
      | none => calledNames (Text.isWord c) rest
termination_by text.length
decreasing_by
  · simp
  · exact length_lt_of_callAt _h
  · simp

end ReplicaRouting.Statement
