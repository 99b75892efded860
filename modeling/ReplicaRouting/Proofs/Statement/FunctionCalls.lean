import Mathlib.Data.List.Forall2
import Mathlib.Data.List.TakeWhile
import Mathlib.Tactic.SplitIfs
import ReplicaRouting.Proofs.Text.Classes

/-!
Function calls as they are written, and the search for them. The search goes on behind each call it
finds, and that skips none: no call begins within another.
-/

namespace ReplicaRouting.Statement

section Written

/-- Each character is a form of the letter in its place. -/
def Spells (word : List (List Char)) (text : List Char) : Prop :=
  List.Forall₂ (fun forms c => c ∈ forms) word text

/-- A character that a name may begin with, and behind it characters that it may go on with. -/
def IsName (name : List Char) : Prop :=
  ∃ first others, name = first :: others ∧ startsName first = true ∧
    ∀ c ∈ others, continuesName c = true

/-- A function call as it is written: the word `select`, white space, a name, perhaps white space
again, and an opening parenthesis. -/
structure WrittenCall where
  word : List Char
  gap : List Char
  name : List Char
  space : List Char
  spelled : Spells selectForms word
  parted : gap ≠ []
  gap_blank : ∀ c ∈ gap, Text.isBlank c = true
  named : IsName name
  space_blank : ∀ c ∈ space, Text.isBlank c = true

def WrittenCall.text (call : WrittenCall) : List Char :=
  call.word ++ (call.gap ++ (call.name ++ (call.space ++ ['('])))

theorem WrittenCall.text_append (call : WrittenCall) (rest : List Char) :
    call.text ++ rest =
      call.word ++ (call.gap ++ (call.name ++ (call.space ++ '(' :: rest))) := by
  simp only [text, List.append_assoc, List.singleton_append]

theorem WrittenCall.text_ne_nil (call : WrittenCall) : call.text ≠ [] := by
  simp [text]

end Written

section Recognising

variable {text rest name space : List Char} {call : FunctionCall}

theorem afterWord?_eq_some_iff {word : List (List Char)} :
    afterWord? word text = some rest ↔ ∃ piece, Spells word piece ∧ text = piece ++ rest := by
  induction word generalizing text with
  | nil => simp [afterWord?, Spells]
  | cons forms word ih =>
    cases text with
    | nil => simp [afterWord?, Spells, List.forall₂_cons_left_iff]
    | cons c text =>
      by_cases hc : c ∈ forms
      · simp only [afterWord?, hc, ↓reduceIte, ih]
        constructor
        · rintro ⟨piece, hpiece, rfl⟩
          exact ⟨c :: piece, .cons hc hpiece, rfl⟩
        · rintro ⟨_, _ | ⟨_, hpiece⟩, h⟩
          obtain ⟨rfl, rfl⟩ := List.cons.inj h
          exact ⟨_, hpiece, rfl⟩
      · simp only [afterWord?, hc, ↓reduceIte, reduceCtorEq, false_iff]
        rintro ⟨_, _ | ⟨hd, -⟩, h⟩
        exact hc ((List.cons.inj h).1 ▸ hd)

theorem IsName.continues (h : IsName name) : ∀ c ∈ name, continuesName c = true := by
  obtain ⟨first, others, rfl, hfirst, hothers⟩ := h
  exact List.forall_mem_cons.mpr ⟨continuesName_of_startsName hfirst, hothers⟩

theorem IsName.head_not_blank (h : IsName name) :
    (name ++ rest).head?.any Text.isBlank = false := by
  obtain ⟨first, others, rfl, hfirst, -⟩ := h
  rw [List.cons_append, List.head?_cons, Option.any_some]
  refine Bool.eq_false_iff.mpr fun hblank => ?_
  have hcontinues := continuesName_of_startsName hfirst
  rw [continuesName_eq_false_of_isBlank hblank] at hcontinues
  cases hcontinues

/-- What follows a name does not continue it. -/
theorem head_not_continuing (hspace : ∀ c ∈ space, Text.isBlank c = true) (rest : List Char) :
    (space ++ '(' :: rest).head?.any continuesName = false := by
  cases space with
  | nil =>
    rw [List.nil_append, List.head?_cons, Option.any_some]
    exact continuesName_parenthesis
  | cons c space =>
    rw [List.cons_append, List.head?_cons, Option.any_some]
    exact continuesName_eq_false_of_isBlank (hspace c List.mem_cons_self)

theorem parenthesis_not_blank (rest : List Char) : ('(' :: rest).head?.any Text.isBlank = false := rfl

theorem nameAndParenthesis?_eq_some_iff :
    nameAndParenthesis? text = some call ↔
      ∃ space, IsName call.name ∧ (∀ c ∈ space, Text.isBlank c = true) ∧
        text = call.name ++ (space ++ '(' :: call.rest) := by
  constructor
  · intro h
    unfold nameAndParenthesis? at h
    split at h
    · cases h
    · next c tail =>
      split_ifs at h with hstarts
      split at h
      · next after hafter =>
        cases h
        refine ⟨((c :: tail).dropWhile continuesName).takeWhile Text.isBlank, ?_, ?_, ?_⟩
        · have hcontinues := continuesName_of_startsName hstarts
          rw [List.takeWhile_cons_of_pos hcontinues]
          exact ⟨c, _, rfl, hstarts, fun _ hd => List.mem_takeWhile_imp hd⟩
        · exact fun _ hd => List.mem_takeWhile_imp hd
        · rw [← hafter, List.takeWhile_append_dropWhile, List.takeWhile_append_dropWhile]
      · cases h
  · rintro ⟨space, hname, hspace, rfl⟩
    have hstop := head_not_continuing hspace call.rest
    have htake := Text.takeWhile_run hname.continues hstop
    have hdrop := Text.dropWhile_run hname.continues hstop
    have hblank := Text.dropWhile_run hspace (parenthesis_not_blank call.rest)
    obtain ⟨first, others, hfirst, hstarts, -⟩ := hname
    have hcons : call.name ++ (space ++ '(' :: call.rest) =
        first :: (others ++ (space ++ '(' :: call.rest)) := by rw [hfirst, List.cons_append]
    rw [hcons] at htake hdrop ⊢
    simp only [nameAndParenthesis?, hstarts, ↓reduceIte, htake, hdrop, hblank]

theorem callAt?_eq_some_iff :
    callAt? text = some call ↔
      ∃ written : WrittenCall, written.name = call.name ∧ text = written.text ++ call.rest := by
  constructor
  · intro h
    unfold callAt? at h
    split at h
    · next c tail hword =>
      split_ifs at h with hblank
      obtain ⟨word, hspelled, rfl⟩ := afterWord?_eq_some_iff.mp hword
      obtain ⟨space, hname, hspace, htail⟩ := nameAndParenthesis?_eq_some_iff.mp h
      let written : WrittenCall :=
        { word, gap := c :: tail.takeWhile Text.isBlank, name := call.name, space
          spelled := hspelled
          parted := List.cons_ne_nil _ _
          gap_blank := List.forall_mem_cons.mpr ⟨hblank, fun _ hd => List.mem_takeWhile_imp hd⟩
          named := hname
          space_blank := hspace }
      refine ⟨written, rfl, ?_⟩
      rw [written.text_append, ← htail, List.cons_append, List.takeWhile_append_dropWhile]
    · cases h
  · rintro ⟨written, hname, rfl⟩
    obtain ⟨word, gap, name, space, hspelled, hparted, hgap, hnamed, hspace⟩ := written
    obtain rfl : name = call.name := hname
    obtain ⟨c, gap, rfl⟩ := List.exists_cons_of_ne_nil hparted
    obtain ⟨hc, hgap⟩ := List.forall_mem_cons.mp hgap
    let tail := call.name ++ (space ++ '(' :: call.rest)
    have hword : afterWord? selectForms (word ++ (c :: gap ++ tail)) = some (c :: (gap ++ tail)) :=
      afterWord?_eq_some_iff.mpr ⟨word, hspelled, rfl⟩
    have hdrop : (gap ++ tail).dropWhile Text.isBlank = tail :=
      Text.dropWhile_run hgap hnamed.head_not_blank
    have htail : nameAndParenthesis? tail = some call :=
      nameAndParenthesis?_eq_some_iff.mpr ⟨space, hnamed, hspace, rfl⟩
    simp only [WrittenCall.text_append, callAt?, hword, hc, ↓reduceIte, hdrop, htail, tail]

theorem WrittenCall.found (call : WrittenCall) (rest : List Char) :
    callAt? (call.text ++ rest) = some { name := call.name, rest } :=
  callAt?_eq_some_iff.mpr ⟨call, rfl, rfl⟩

/-- The forms of the letter that a call begins with. -/
def initialForms : List Char := ['s', 'S', 'ſ']

theorem callAt?_eq_none_of_head {c : Char} (hc : c ∉ initialForms) : callAt? (c :: rest) = none := by
  have hword : afterWord? selectForms (c :: rest) = none := if_neg hc
  rw [callAt?, hword]

theorem Spells.exists_form {word : List (List Char)} {piece : List Char} (h : Spells word piece) :
    ∀ c ∈ piece, ∃ forms ∈ word, c ∈ forms := by
  induction h with
  | nil => exact fun c hc => absurd hc List.not_mem_nil
  | cons hform _ ih =>
    intro c hc
    rcases List.mem_cons.mp hc with rfl | hc
    · exact ⟨_, List.mem_cons_self, hform⟩
    · obtain ⟨forms, hforms, hc⟩ := ih c hc
      exact ⟨forms, List.mem_cons_of_mem _ hforms, hc⟩

theorem isWord_of_spells {piece : List Char} (h : Spells selectForms piece) :
    ∀ c ∈ piece, Text.isWord c = true := by
  intro c hc
  obtain ⟨forms, hforms, hc⟩ := h.exists_form c hc
  have hall : (selectForms.all fun forms => forms.all Text.isWord) = true := by decide +kernel
  exact List.all_eq_true.mp (List.all_eq_true.mp hall forms hforms) c hc

theorem WrittenCall.word_continues (call : WrittenCall) :
    ∀ c ∈ call.word, continuesName c = true := by
  intro c hc
  rw [continuesName, isWord_of_spells call.spelled c hc, Bool.true_or]

theorem WrittenCall.gap_stops (call : WrittenCall) :
    (call.gap ++ rest).head?.any continuesName = false := by
  obtain ⟨b, gap, hb⟩ := List.exists_cons_of_ne_nil call.parted
  rw [hb, List.cons_append, List.head?_cons, Option.any_some]
  exact continuesName_eq_false_of_isBlank (call.gap_blank b (hb ▸ List.mem_cons_self))

/-- No call begins within the name of a call, whatever the name says: what would be its own name
would have to begin with the parenthesis. -/
theorem callAt?_in_name {run : List Char} (hrun : ∀ c ∈ run, continuesName c = true)
    (hspace : ∀ c ∈ space, Text.isBlank c = true) :
    callAt? (run ++ (space ++ '(' :: rest)) = none := by
  rw [Option.eq_none_iff_forall_not_mem]
  intro call hcall
  obtain ⟨inner, -, htext⟩ := callAt?_eq_some_iff.mp hcall
  rw [inner.text_append] at htext
  -- both texts are cut where the characters of a name end, and then where the white space ends
  have hword : run = inner.word := by
    rw [← Text.takeWhile_run hrun (head_not_continuing hspace rest), htext,
      Text.takeWhile_run inner.word_continues inner.gap_stops]
  rw [hword, List.append_cancel_left_eq] at htext
  have hafter : '(' :: rest = inner.name ++ (inner.space ++ '(' :: call.rest) := by
    rw [← Text.dropWhile_run hspace (parenthesis_not_blank rest), htext,
      Text.dropWhile_run inner.gap_blank inner.named.head_not_blank]
  obtain ⟨first, others, hname, hstarts, -⟩ := inner.named
  rw [hname, List.cons_append] at hafter
  obtain ⟨rfl, -⟩ := List.cons.inj hafter
  exact absurd hstarts (by decide)

end Recognising

section Searching

/-- The names called in a text, each place of which is tried in turn. -/
def everyName (afterWordChar : Bool) : List Char → List (List Char)
  | [] => []
  | c :: rest =>
    let here := if afterWordChar then none else callAt? (c :: rest)
    (here.map (·.name)).toList ++ everyName (Text.isWord c) rest

/-- Whether a word character stands before what follows `before`. -/
def endsInWord (afterWordChar : Bool) : List Char → Bool
  | [] => afterWordChar
  | c :: rest => endsInWord (Text.isWord c) rest

variable {run space rest : List Char}

theorem everyName_cons_of_none {c : Char} (afterWordChar : Bool)
    (h : callAt? (c :: rest) = none) :
    everyName afterWordChar (c :: rest) = everyName (Text.isWord c) rest := by
  simp [everyName, h]

theorem everyName_skip (hrun : ∀ c ∈ run, c ∉ initialForms) (afterWordChar : Bool) :
    everyName afterWordChar (run ++ rest) = everyName (endsInWord afterWordChar run) rest := by
  induction run generalizing afterWordChar with
  | nil => rfl
  | cons c run ih =>
    obtain ⟨hc, hrun⟩ := List.forall_mem_cons.mp hrun
    rw [List.cons_append, everyName_cons_of_none _ (callAt?_eq_none_of_head hc), ih hrun]
    rfl

theorem endsInWord_concat (afterWordChar : Bool) (run : List Char) (c : Char) :
    endsInWord afterWordChar (run ++ [c]) = Text.isWord c := by
  induction run generalizing afterWordChar with
  | nil => rfl
  | cons d run ih => exact ih (Text.isWord d)

theorem blank_not_initial (hspace : ∀ c ∈ space, Text.isBlank c = true) :
    ∀ c ∈ space, c ∉ initialForms := by
  intro c hc hinitial
  have hall : (initialForms.all fun c => !Text.isBlank c) = true := by decide
  have hvisible := List.all_eq_true.mp hall c hinitial
  rw [hspace c hc] at hvisible
  cases hvisible

theorem everyName_in_name (hrun : ∀ c ∈ run, continuesName c = true)
    (hspace : ∀ c ∈ space, Text.isBlank c = true) (afterWordChar : Bool) :
    everyName afterWordChar (run ++ (space ++ '(' :: rest)) = everyName false rest := by
  induction run generalizing afterWordChar with
  | nil =>
    have hclose : ∀ c ∈ space ++ ['('], c ∉ initialForms := by
      intro c hc
      rcases List.mem_append.mp hc with hc | hc
      · exact blank_not_initial hspace c hc
      · rw [List.mem_singleton.mp hc]
        decide
    have hparenthesis : Text.isWord '(' = false := by decide +kernel
    rw [List.nil_append, List.append_cons, everyName_skip hclose, endsInWord_concat, hparenthesis]
  | cons c run ih =>
    have hnone : callAt? (c :: (run ++ (space ++ '(' :: rest))) = none :=
      callAt?_in_name hrun hspace
    rw [List.cons_append, everyName_cons_of_none _ hnone]
    exact ih (List.forall_mem_cons.mp hrun).2 _

/-- Behind the first letter of a call there is nothing to be found before its end. -/
theorem everyName_call (call : WrittenCall) (rest : List Char) :
    everyName false (call.text ++ rest) = call.name :: everyName false rest := by
  have hfound := call.found rest
  rw [call.text_append] at hfound ⊢
  obtain ⟨initial, letters, -, hletters, hword⟩ := List.forall₂_cons_left_iff.mp call.spelled
  have hskip : ∀ c ∈ letters, c ∉ initialForms := by
    have hall : (selectForms.tail.all fun forms => forms.all (· ∉ initialForms)) = true := by decide
    intro c hc
    obtain ⟨forms, hforms, hc⟩ := Spells.exists_form hletters c hc
    exact of_decide_eq_true (List.all_eq_true.mp (List.all_eq_true.mp hall forms hforms) c hc)
  rw [hword, List.cons_append] at hfound ⊢
  simp only [everyName, Bool.false_eq_true, ↓reduceIte, hfound, Option.map_some,
    Option.toList_some, List.singleton_append]
  rw [everyName_skip hskip, everyName_skip (blank_not_initial call.gap_blank),
    everyName_in_name call.named.continues call.space_blank]

/-- The search misses no call, although it does not look for one within those it finds. -/
theorem calledNames_eq_everyName (afterWordChar : Bool) (text : List Char) :
    calledNames afterWordChar text = everyName afterWordChar text := by
  fun_induction calledNames afterWordChar text with
  | case1 afterWordChar => rfl
  | case2 c rest ih => simp [everyName, ih]
  | case3 afterWordChar c rest hborder call hfound ih =>
    obtain rfl : afterWordChar = false := by simpa using hborder
    obtain ⟨written, hname, htext⟩ := callAt?_eq_some_iff.mp hfound
    rw [ih, htext, everyName_call, hname]
  | case4 afterWordChar c rest hborder hnone ih => rw [ih, everyName_cons_of_none _ hnone]

theorem mem_everyName_iff {afterWordChar : Bool} {text name : List Char} :
    name ∈ everyName afterWordChar text ↔ ∃ (call : WrittenCall) (before : List Char),
      before ++ call.text <+: text ∧ endsInWord afterWordChar before = false ∧
        call.name = name := by
  induction text generalizing afterWordChar with
  | nil =>
    refine iff_of_false List.not_mem_nil ?_
    rintro ⟨call, before, hplaced, -⟩
    exact call.text_ne_nil (List.append_eq_nil_iff.mp (List.prefix_nil.mp hplaced)).2
  | cons c text ih =>
    rw [everyName, List.mem_append, ih]
    constructor
    · rintro (hhere | ⟨call, before, hplaced, hborder, hname⟩)
      · cases afterWordChar with
        | true => cases hhere
        | false =>
          cases hfound : callAt? (c :: text) with
          | none => simp [hfound] at hhere
          | some found =>
            obtain ⟨call, hname, htext⟩ := callAt?_eq_some_iff.mp hfound
            have hsame : name = found.name := by simpa [hfound] using hhere
            exact ⟨call, [], ⟨found.rest, htext.symm⟩, rfl, hname.trans hsame.symm⟩
      · exact ⟨call, c :: before, List.prefix_cons_inj c |>.mpr hplaced, hborder, hname⟩
    · rintro ⟨call, _ | ⟨d, before⟩, hplaced, hborder, hname⟩
      · left
        obtain rfl : afterWordChar = false := hborder
        obtain ⟨rest, htext⟩ := hplaced
        have hfound : callAt? (c :: text) = some { name := call.name, rest } :=
          callAt?_eq_some_iff.mpr ⟨call, rfl, htext.symm⟩
        simp [hfound, hname]
      · right
        obtain ⟨rfl, hrest⟩ := List.cons_prefix_cons.mp hplaced
        exact ⟨call, before, hrest, hborder, hname⟩

/-- A place between two characters of which one and only one belongs to a word. The ends of a text
count as characters that do not. -/
def AtBorder (before rest : List Char) : Prop :=
  before.getLast?.any Text.isWord ≠ rest.head?.any Text.isWord

/-- The call stands in the text behind `before`, and begins at a word border. -/
structure WrittenCall.Occurs (call : WrittenCall) (before text : List Char) : Prop where
  placed : before ++ call.text <+: text
  border : AtBorder before call.text

theorem endsInWord_eq (afterWordChar : Bool) (before : List Char) :
    endsInWord afterWordChar before = (before.getLast?.map Text.isWord).getD afterWordChar := by
  induction before generalizing afterWordChar with
  | nil => rfl
  | cons c before ih =>
    rw [endsInWord, ih, List.getLast?_cons]
    cases before.getLast? <;> rfl

theorem WrittenCall.atBorder_iff {call : WrittenCall} {before : List Char} :
    AtBorder before call.text ↔ endsInWord false before = false := by
  obtain ⟨initial, letters, -, -, hword⟩ := List.forall₂_cons_left_iff.mp call.spelled
  have hhead : call.text.head?.any Text.isWord = true := by
    rw [text, hword, List.cons_append, List.head?_cons, Option.any_some]
    exact isWord_of_spells call.spelled initial (hword ▸ List.mem_cons_self)
  have hlast : before.getLast?.any Text.isWord = endsInWord false before := by
    rw [endsInWord_eq]
    cases before.getLast? <;> rfl
  rw [AtBorder, hhead, hlast]
  exact Bool.not_eq_true _ |>.to_iff

/-- The names found are those of all calls that occur in the text. -/
theorem mem_calledNames_iff {text name : List Char} :
    name ∈ calledNames false text ↔
      ∃ (call : WrittenCall) (before : List Char), call.Occurs before text ∧ call.name = name := by
  rw [calledNames_eq_everyName, mem_everyName_iff]
  constructor
  · rintro ⟨call, before, hplaced, hborder, hname⟩
    exact ⟨call, before, ⟨hplaced, WrittenCall.atBorder_iff.mpr hborder⟩, hname⟩
  · rintro ⟨call, before, ⟨hplaced, hborder⟩, hname⟩
    exact ⟨call, before, hplaced, WrittenCall.atBorder_iff.mp hborder, hname⟩

-- The word is found behind a point as well, where it is no longer part of the name of a call.
example : calledNames false "SELECT a.select f(1)".toList = ["f".toList] := by decide +kernel

theorem WrittenCall.occurs_take_iff {call : WrittenCall} {before text : List Char} {count : Nat} :
    call.Occurs before (text.take count) ↔
      call.Occurs before text ∧ (before ++ call.text).length ≤ count := by
  constructor
  · rintro ⟨hplaced, hborder⟩
    obtain ⟨hplaced, hlength⟩ := List.prefix_take_iff.mp hplaced
    exact ⟨⟨hplaced, hborder⟩, hlength⟩
  · rintro ⟨⟨hplaced, hborder⟩, hlength⟩
    exact ⟨List.prefix_take_iff.mpr ⟨hplaced, hlength⟩, hborder⟩

end Searching

end ReplicaRouting.Statement
