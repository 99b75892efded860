import Mathlib.Data.List.TakeWhile
import ReplicaRouting.Proofs.Statement.FunctionCalls
import ReplicaRouting.Statement.Classifier

/-!
What makes a statement a write: the word it begins with, or a call near its start of a function that
is not known to only read.
-/

namespace ReplicaRouting

namespace Text

/-- The text begins with the word, apart from the case of ASCII letters. -/
def Begins (word text : List Char) : Prop := ∃ piece, piece <+: text ∧ asciiLower piece = word

theorem beginsWith_iff {word text : List Char} : beginsWith word text = true ↔ Begins word text := by
  rw [beginsWith, List.isPrefixOf_iff_prefix]
  constructor
  · rintro ⟨rest, h⟩
    obtain ⟨piece, after, rfl, hpiece, -⟩ := List.map_eq_append_iff.mp h.symm
    exact ⟨piece, List.prefix_append _ _, hpiece⟩
  · rintro ⟨piece, hplaced, rfl⟩
    exact hplaced.map _

end Text

namespace Classifier

open Text

/-- The part of a name behind its last point. -/
def IsLastPart (part name : List Char) : Prop :=
  '.' ∉ part ∧ ∃ qualifier, name = qualifier ++ '.' :: part

theorem unqualified_of_isLastPart {part name : List Char} (h : IsLastPart part name) :
    unqualified name = part := by
  obtain ⟨hpart, qualifier, rfl⟩ := h
  have hrun : ∀ c ∈ part.reverse, (c != '.') = true := by
    intro c hc
    rw [bne_iff_ne]
    rintro rfl
    exact hpart (List.mem_reverse.mp hc)
  have hstop : ('.' :: qualifier.reverse).head?.any (· != '.') = false := rfl
  rw [unqualified, List.reverse_append, List.reverse_cons, List.append_assoc,
    List.singleton_append, takeWhile_run hrun hstop, List.reverse_reverse]

theorem unqualified_cases (name : List Char) :
    unqualified name = name ∨ IsLastPart (unqualified name) name := by
  have hname : (name.reverse.dropWhile (· != '.')).reverse ++ unqualified name = name := by
    rw [unqualified, ← List.reverse_append, List.takeWhile_append_dropWhile, List.reverse_reverse]
  cases hrest : name.reverse.dropWhile (· != '.') with
  | nil =>
    rw [hrest, List.reverse_nil, List.nil_append] at hname
    exact .inl hname
  | cons c rest =>
    have hpoint := List.head?_dropWhile_not (· != '.') name.reverse
    simp only [hrest, List.head?_cons, bne_eq_false_iff_eq] at hpoint
    rw [hrest, hpoint, List.reverse_cons, List.append_assoc, List.singleton_append] at hname
    refine .inr ⟨fun hmem => ?_, rest.reverse, hname.symm⟩
    have hword := List.mem_takeWhile_imp (List.mem_reverse.mp hmem)
    exact absurd hword (by decide)

variable (classifier : Classifier)

/-- The list of functions that only read has an entry for the name or for its last part. White space
around an entry and the case of ASCII letters do not count. -/
def OnlyReads (name : List Char) : Prop :=
  ∃ entry ∈ classifier.settings.readOnlyFunctions,
    asciiLower (trim entry.toList) = asciiLower name ∨
      IsLastPart (asciiLower (trim entry.toList)) (asciiLower name)

theorem isReadOnly_iff {name : List Char} :
    classifier.isReadOnly name = true ↔ classifier.OnlyReads name := by
  simp only [isReadOnly, readOnlyNames, List.any_map, List.any_eq_true, Function.comp_apply,
    Bool.or_eq_true, beq_iff_eq]
  constructor
  · rintro ⟨entry, hentry, hsame | hpart⟩
    · exact ⟨entry, hentry, .inl hsame⟩
    · refine ⟨entry, hentry, ?_⟩
      rw [hpart]
      exact unqualified_cases (asciiLower name)
  · rintro ⟨entry, hentry, hsame | hpart⟩
    · exact ⟨entry, hentry, .inl hsame⟩
    · exact ⟨entry, hentry, .inr (unqualified_of_isLastPart hpart).symm⟩

theorem callsWriter_iff {text : List Char} :
    classifier.callsWriter text = true ↔
      ∃ (call : Statement.WrittenCall) (before : List Char), call.Occurs before text ∧
        (before ++ call.text).length ≤ classifier.settings.callWindow.toNat ∧
        ¬ classifier.OnlyReads call.name := by
  simp only [callsWriter, List.any_eq_true, Statement.mem_calledNames_iff, Bool.not_eq_true',
    ← isReadOnly_iff, Bool.not_eq_true]
  constructor
  · rintro ⟨_, ⟨call, before, hoccurs, rfl⟩, hwrites⟩
    obtain ⟨hoccurs, hlength⟩ := Statement.WrittenCall.occurs_take_iff.mp hoccurs
    exact ⟨call, before, hoccurs, hlength, hwrites⟩
  · rintro ⟨call, before, hoccurs, hlength, hwrites⟩
    have hwindow := Statement.WrittenCall.occurs_take_iff.mpr ⟨hoccurs, hlength⟩
    exact ⟨call.name, ⟨call, before, hwindow, rfl⟩, hwrites⟩

/-- A statement is a write if it is not blank and begins with one of two words, or calls a function
near its start that does more than read. The names that the search finds are those of all calls
there. -/
theorem isWrite_iff_written (sql : String) :
    let text := sql.toList
    let start := trimStart text
    let window := classifier.settings.callWindow.toNat
    (classifier.isWrite (some sql) = true ↔ (∃ c ∈ text, isBlank c = false) ∧
      (Begins "update".toList start ∨ Begins "delete".toList start ∨
        ∃ (call : Statement.WrittenCall) (before : List Char), call.Occurs before start ∧
          (before ++ call.text).length ≤ window ∧ ¬ classifier.OnlyReads call.name)) ∧
    Statement.calledNames false (start.take window) =
      Statement.everyName false (start.take window) ∧
    ∀ name, name ∈ Statement.calledNames false (start.take window) ↔
      ∃ (call : Statement.WrittenCall) (before : List Char), call.Occurs before start ∧
        (before ++ call.text).length ≤ window ∧ call.name = name := by
  intro text start window
  refine ⟨?_, Statement.calledNames_eq_everyName false _, fun name => ?_⟩
  · have hwrite : classifier.isWrite (some sql) = classifier.isWriteText text := rfl
    rw [hwrite, isWriteText, Bool.and_eq_true, Bool.not_eq_true', isBlankText_eq_false_iff,
      Bool.or_eq_true, Bool.or_eq_true, beginsWith_iff, beginsWith_iff, callsWriter_iff, or_assoc]
  · simp only [Statement.mem_calledNames_iff, Statement.WrittenCall.occurs_take_iff, and_assoc]

end Classifier

end ReplicaRouting
