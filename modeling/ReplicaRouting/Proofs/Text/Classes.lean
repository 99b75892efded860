import Mathlib.Data.List.TakeWhile
import ReplicaRouting.Statement.FunctionCall

/-!
How the classes of characters lie to each other: which are apart, and which is part of another. A
run of one class is read off a text up to the first character that is not of that class.
-/

namespace ReplicaRouting

namespace Text.Ranges

theorem contains_iff {ranges : Ranges} {c : Char} :
    ranges.contains c = true ↔ ∃ range ∈ ranges, range.1 ≤ c.toNat ∧ c.toNat ≤ range.2 := by
  simp only [contains, List.any_eq_true, Bool.and_eq_true, decide_eq_true_eq]

/-- Every range of the one lies before or behind every range of the other. -/
def areApart (ranges others : Ranges) : Bool :=
  ranges.all fun range => others.all fun other => range.2 < other.1 || other.2 < range.1

/-- Every range of the one lies in some range of the other. -/
def areWithin (ranges others : Ranges) : Bool :=
  ranges.all fun range => others.any fun other => other.1 ≤ range.1 && range.2 ≤ other.2

theorem contains_eq_false_of_areApart {ranges others : Ranges} {c : Char}
    (h : areApart ranges others = true) (hc : ranges.contains c = true) :
    others.contains c = false := by
  obtain ⟨range, hrange, hlow, hhigh⟩ := contains_iff.mp hc
  refine Bool.eq_false_iff.mpr fun hother => ?_
  obtain ⟨other, hmem, hlow', hhigh'⟩ := contains_iff.mp hother
  have hapart := List.all_eq_true.mp (List.all_eq_true.mp h range hrange) other hmem
  simp only [Bool.or_eq_true, decide_eq_true_eq] at hapart
  omega

theorem contains_of_areWithin {ranges others : Ranges} {c : Char}
    (h : areWithin ranges others = true) (hc : ranges.contains c = true) :
    others.contains c = true := by
  obtain ⟨range, hrange, hlow, hhigh⟩ := contains_iff.mp hc
  obtain ⟨other, hmem, hwithin⟩ := List.any_eq_true.mp (List.all_eq_true.mp h range hrange)
  simp only [Bool.and_eq_true, decide_eq_true_eq] at hwithin
  exact contains_iff.mpr ⟨other, hmem, by omega, by omega⟩

end Text.Ranges

namespace Text

theorem takeWhile_run {α : Type} {p : α → Bool} {run rest : List α} (hrun : ∀ c ∈ run, p c = true)
    (hrest : rest.head?.any p = false) : (run ++ rest).takeWhile p = run := by
  rw [List.takeWhile_append_of_pos hrun]
  cases rest with
  | nil => exact List.append_nil run
  | cons c rest =>
    have hc : p c = false := hrest
    rw [List.takeWhile_cons_of_neg (by simp [hc]), List.append_nil]

theorem dropWhile_run {α : Type} {p : α → Bool} {run rest : List α} (hrun : ∀ c ∈ run, p c = true)
    (hrest : rest.head?.any p = false) : (run ++ rest).dropWhile p = rest := by
  rw [List.dropWhile_append_of_pos hrun]
  cases rest with
  | nil => rfl
  | cons c rest =>
    have hc : p c = false := hrest
    exact List.dropWhile_cons_of_neg (by simp [hc])

/-- What is left of a text when the white space around it is taken off. -/
structure Stripped (text core : List Char) : Prop where
  around : ∃ before behind, text = before ++ core ++ behind ∧
    (∀ c ∈ before, isBlank c = true) ∧ ∀ c ∈ behind, isBlank c = true
  first : core.head?.any isBlank = false
  last : core.getLast?.any isBlank = false

theorem head?_any_dropWhile {α : Type} (p : α → Bool) (list : List α) :
    (list.dropWhile p).head?.any p = false := by
  cases hrest : list.dropWhile p with
  | nil => rfl
  | cons c rest =>
    have hne : list.dropWhile p ≠ [] := by rw [hrest]; exact List.cons_ne_nil c rest
    have hc := List.head_dropWhile_not p hne
    simpa only [hrest, List.head_cons, List.head?_cons, Option.any_some] using hc

theorem stripped_trim (text : List Char) : Stripped text (trim text) := by
  have hfront : text.takeWhile isBlank ++ trimStart text = text := List.takeWhile_append_dropWhile
  have hend : trimStart text =
      trim text ++ ((trimStart text).reverse.takeWhile isBlank).reverse := by
    rw [trim, trimEnd, ← List.reverse_append, List.takeWhile_append_dropWhile, List.reverse_reverse]
  refine ⟨⟨text.takeWhile isBlank, ((trimStart text).reverse.takeWhile isBlank).reverse, ?_,
    fun c => List.mem_takeWhile_imp,
    fun c hc => List.mem_takeWhile_imp (List.mem_reverse.mp hc)⟩, ?_, ?_⟩
  · rw [List.append_assoc, ← hend, hfront]
  · -- What is left has lost only its end, so it begins as it did before.
    have hstart : (trimStart text).head?.any isBlank = false := head?_any_dropWhile isBlank text
    cases hcore : trim text with
    | nil => rfl
    | cons c rest =>
      rw [hend, hcore] at hstart
      exact hstart
  · rw [trim, trimEnd, List.getLast?_reverse]
    exact head?_any_dropWhile isBlank _

theorem Stripped.eq_trim {text core : List Char} (h : Stripped text core) : trim text = core := by
  obtain ⟨⟨before, behind, rfl, hbefore, hbehind⟩, hfirst, hlast⟩ := h
  cases core with
  | nil =>
    have hblank : ∀ c ∈ before ++ behind, isBlank c = true := fun c hc =>
      (List.mem_append.mp hc).elim (hbefore c) (hbehind c)
    rw [List.append_nil, trim, trimStart, List.dropWhile_eq_nil_iff.mpr hblank]
    rfl
  | cons c rest =>
    have hdrop : trimStart (before ++ (c :: rest) ++ behind) = c :: rest ++ behind := by
      rw [List.append_assoc]
      exact dropWhile_run hbefore hfirst
    have hreverse : ∀ d ∈ behind.reverse, isBlank d = true := fun d hd =>
      hbehind d (List.mem_reverse.mp hd)
    rw [trim, hdrop, trimEnd, List.reverse_append, dropWhile_run hreverse, List.reverse_reverse]
    rw [List.head?_reverse]
    exact hlast

theorem trim_eq_iff {text core : List Char} : trim text = core ↔ Stripped text core :=
  ⟨fun h => h ▸ stripped_trim text, Stripped.eq_trim⟩

theorem isWord_eq_false_of_isBlank {c : Char} (h : isBlank c = true) : isWord c = false :=
  Ranges.contains_eq_false_of_areApart (by decide +kernel) h

theorem toLower_of_isBlank {c : Char} (h : isBlank c = true) : c.toLower = c := by
  unfold Char.toLower
  split
  · next hc =>
    have hlow : 65 ≤ c.toNat := UInt32.le_iff_toNat_le.mp hc.1
    have hhigh : c.toNat ≤ 90 := UInt32.le_iff_toNat_le.mp hc.2
    simp only [isBlank, Ranges.contains, blankRanges, List.any_cons, List.any_nil, Bool.or_eq_true,
      Bool.and_eq_true, decide_eq_true_eq, Bool.false_eq_true, or_false] at h
    omega
  · rfl

theorem isBlankText_eq_false_iff {text : List Char} :
    isBlankText text = false ↔ ∃ c ∈ text, isBlank c = false := by
  rw [isBlankText, List.all_eq_false]
  simp only [Bool.not_eq_true]

end Text

namespace Statement

/-- The characters that a name may begin with. -/
def startRanges : Text.Ranges :=
  [(0x41, 0x5A), (0x61, 0x7A), (0x5F, 0x5F), (0x17F, 0x17F), (0x212A, 0x212A)]

theorem startRanges_contains {c : Char} (h : startsName c = true) :
    startRanges.contains c = true := by
  simp only [startsName, Bool.or_eq_true, Bool.and_eq_true, decide_eq_true_eq, beq_iff_eq] at h
  rcases h with (((⟨hlow, hhigh⟩ | ⟨hlow, hhigh⟩) | rfl) | rfl) | rfl
  · exact Text.Ranges.contains_iff.mpr
      ⟨(0x41, 0x5A), by simp [startRanges], Char.le_def.mp hlow, Char.le_def.mp hhigh⟩
  · exact Text.Ranges.contains_iff.mpr
      ⟨(0x61, 0x7A), by simp [startRanges], Char.le_def.mp hlow, Char.le_def.mp hhigh⟩
  all_goals decide

theorem continuesName_of_startsName {c : Char} (h : startsName c = true) :
    continuesName c = true := by
  have hword : Text.isWord c = true :=
    Text.Ranges.contains_of_areWithin (by decide +kernel) (startRanges_contains h)
  rw [continuesName, hword, Bool.true_or]

theorem continuesName_eq_false_of_isBlank {c : Char} (h : Text.isBlank c = true) :
    continuesName c = false := by
  rw [continuesName, Text.isWord_eq_false_of_isBlank h, Bool.false_or, beq_eq_false_iff_ne]
  rintro rfl
  exact absurd h (by decide)

theorem continuesName_parenthesis : continuesName '(' = false := by decide +kernel

end Statement

end ReplicaRouting
