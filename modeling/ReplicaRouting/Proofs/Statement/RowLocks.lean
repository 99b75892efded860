import ReplicaRouting.Proofs.Text.Classes
import ReplicaRouting.Statement.Classifier

/-!
Row locks are told by a clause among the last characters of a statement, as many of them as the
window has. A window of no characters is the exception: it finds the clause anywhere.
-/

namespace ReplicaRouting

namespace Text

/-- Texts that differ at most in the case of ASCII letters from a word in lower case occur in the
text. -/
def Contains (word text : List Char) : Prop :=
  ∃ before piece after, text = before ++ (piece ++ after) ∧ asciiLower piece = word

/-- The last `count` characters of a text, all of them if there are no more. -/
structure IsEnding (count : Nat) (window text : List Char) : Prop where
  suffix : window <:+ text
  length : window.length = min count text.length

theorem hasPart_iff {part text : List Char} : hasPart part text = true ↔ part <:+: text := by
  induction text with
  | nil => rw [hasPart, List.isEmpty_iff, List.infix_nil]
  | cons c rest ih =>
    rw [hasPart, Bool.or_eq_true, List.isPrefixOf_iff_prefix, ih, List.infix_cons_iff]

theorem hasPart_asciiLower_iff {word text : List Char} :
    hasPart word (asciiLower text) = true ↔ Contains word text := by
  rw [hasPart_iff]
  constructor
  · rintro ⟨before, after, h⟩
    rw [List.append_assoc] at h
    obtain ⟨before', rest, rfl, -, hrest⟩ := List.map_eq_append_iff.mp h.symm
    obtain ⟨piece, after', rfl, hpiece, -⟩ := List.map_eq_append_iff.mp hrest
    exact ⟨before', piece, after', rfl, hpiece⟩
  · rintro ⟨before, piece, after, rfl, rfl⟩
    refine ⟨asciiLower before, asciiLower after, ?_⟩
    simp only [asciiLower, List.map_append, List.append_assoc]

theorem Contains.of_eq {word text : List Char} (h : asciiLower text = word) : Contains word text :=
  ⟨[], text, [], (List.append_nil _).symm, h⟩

theorem Contains.mono {word text more : List Char} (h : Contains word text) (hs : text <:+ more) :
    Contains word more := by
  obtain ⟨before, piece, after, rfl, hpiece⟩ := h
  obtain ⟨front, rfl⟩ := hs
  exact ⟨front ++ before, piece, after, (List.append_assoc ..).symm, hpiece⟩

theorem Contains.length_le {word text : List Char} (h : Contains word text) :
    word.length ≤ text.length := by
  obtain ⟨before, piece, after, rfl, rfl⟩ := h
  simp only [asciiLower, List.length_map, List.length_append]
  omega

theorem lastChars_isEnding (count : Nat) (text : List Char) :
    IsEnding count (lastChars count text) text where
  suffix := List.drop_suffix _ text
  length := by
    rw [lastChars, List.length_drop]
    omega

/-- There is only one ending of a given length. -/
theorem IsEnding.eq {count : Nat} {window window' text : List Char} (h : IsEnding count window text)
    (h' : IsEnding count window' text) : window = window' := by
  have hlength : window.length = window'.length := h.length.trans h'.length.symm
  have hsuffix : window <:+ window' :=
    List.suffix_of_suffix_length_le h.suffix h'.suffix (Nat.le_of_eq hlength)
  exact hsuffix.eq_of_length hlength

theorem IsEnding.exists_iff {count : Nat} {window text : List Char} (h : IsEnding count window text)
    {P : List Char → Prop} : (∃ ending, IsEnding count ending text ∧ P ending) ↔ P window :=
  ⟨fun ⟨_, hending, hp⟩ => hending.eq h ▸ hp, fun hp => ⟨window, h, hp⟩⟩

theorem IsEnding.suffix_of_le {count more : Nat} {window window' text : List Char}
    (h : IsEnding count window text) (h' : IsEnding more window' text) (hle : count ≤ more) :
    window <:+ window' := by
  have hlength : window.length ≤ window'.length := by
    rw [h.length, h'.length]
    omega
  exact List.suffix_of_suffix_length_le h.suffix h'.suffix hlength

end Text

namespace Classifier

open Text

variable (classifier : Classifier)

/-- How many characters at the end of a text are searched for a row lock. -/
def lockReach (text : List Char) : Nat :=
  if classifier.settings.lockWindow = 0 then text.length
  else classifier.settings.lockWindow.toNat

theorem lockReach_of_ne (hne : classifier.settings.lockWindow ≠ 0) (text : List Char) :
    classifier.lockReach text = classifier.settings.lockWindow.toNat := if_neg hne

theorem lockWindow_isEnding (text : List Char) :
    IsEnding (classifier.lockReach text) (classifier.lockWindow text) text := by
  unfold lockReach lockWindow
  by_cases hz : classifier.settings.lockWindow = 0
  · rw [if_pos hz, if_pos hz]
    exact ⟨List.suffix_refl text, (Nat.min_self _).symm⟩
  · rw [if_neg hz, if_neg hz]
    exact lastChars_isEnding _ text

theorem isLockText_iff {text : List Char} :
    classifier.isLockText text = true ↔ (∃ c ∈ text, isBlank c = false) ∧
      Contains "for update".toList (classifier.lockWindow text) := by
  rw [isLockText, Bool.and_eq_true, Bool.not_eq_true', isBlankText_eq_false_iff,
    hasPart_asciiLower_iff]
  rfl

/-- A text with the clause in it is not blank. -/
theorem exists_not_blank_of_contains {text : List Char}
    (h : Contains "for update".toList text) : ∃ c ∈ text, isBlank c = false := by
  obtain ⟨before, piece, after, rfl, hpiece⟩ := h
  obtain ⟨c, rest, rfl, hc, -⟩ := List.map_eq_cons_iff.mp hpiece
  refine ⟨c, by simp, Bool.eq_false_iff.mpr fun hblank => ?_⟩
  rw [toLower_of_isBlank hblank] at hc
  rw [hc] at hblank
  exact absurd hblank (by decide)

/-- A wider window finds no fewer row locks, unless the narrow one is empty. -/
theorem isLockText_of_le {wider : Classifier} {text : List Char}
    (hne : classifier.settings.lockWindow ≠ 0)
    (hle : classifier.settings.lockWindow ≤ wider.settings.lockWindow)
    (h : classifier.isLockText text = true) : wider.isLockText text = true := by
  rw [isLockText_iff] at h ⊢
  have hle : classifier.settings.lockWindow.toNat ≤ wider.settings.lockWindow.toNat :=
    UInt64.le_iff_toNat_le.mp hle
  have hne' : wider.settings.lockWindow ≠ 0 := by
    intro hz
    rw [hz, UInt64.toNat_zero, Nat.le_zero] at hle
    exact hne (UInt64.toNat_inj.mp hle)
  have hreach : classifier.lockReach text ≤ wider.lockReach text := by
    rw [classifier.lockReach_of_ne hne, wider.lockReach_of_ne hne']
    exact hle
  have hsuffix : classifier.lockWindow text <:+ wider.lockWindow text :=
    (classifier.lockWindow_isEnding text).suffix_of_le (wider.lockWindow_isEnding text) hreach
  exact ⟨h.1, h.2.mono hsuffix⟩

/-- A statement that ends with the clause is a row lock if the window has room for the clause. -/
theorem isLock_of_trailing {sql : String} {ending : List Char}
    (hroom : Settings.lockClause.length ≤ classifier.settings.lockWindow.toNat)
    (hending : IsEnding 10 ending sql.toList) (hclause : asciiLower ending = "for update".toList) :
    classifier.isLock (some sql) = true := by
  have hroom : 10 ≤ classifier.settings.lockWindow.toNat := hroom
  have hne : classifier.settings.lockWindow ≠ 0 := by
    rintro hz
    rw [hz] at hroom
    exact absurd hroom (by decide)
  have hreach : 10 ≤ classifier.lockReach sql.toList := by
    rw [classifier.lockReach_of_ne hne]
    exact hroom
  have hwindow : Contains "for update".toList (classifier.lockWindow sql.toList) :=
    (Contains.of_eq hclause).mono
      (hending.suffix_of_le (classifier.lockWindow_isEnding sql.toList) hreach)
  have htext := hwindow.mono (classifier.lockWindow_isEnding sql.toList).suffix
  exact classifier.isLockText_iff.mpr ⟨exists_not_blank_of_contains htext, hwindow⟩

/-- The search for a row lock begins where a character begins. -/
theorem exists_splits_lockWindow (sql : String) : ∃ (cut : sql.Pos) (front : String),
    cut.Splits front (String.ofList (classifier.lockWindow sql.toList)) := by
  obtain ⟨front, hfront⟩ := (classifier.lockWindow_isEnding sql.toList).suffix
  have hsql : sql = String.ofList front ++ String.ofList (classifier.lockWindow sql.toList) := by
    rw [← String.ofList_append, hfront, String.ofList_toList]
  have hcut : (String.ofList front).rawEndPos.IsValid sql :=
    String.Pos.Raw.isValid_iff_exists_append.mpr ⟨_, _, hsql, rfl⟩
  exact ⟨String.Pos.mk _ hcut, String.ofList front, hsql, rfl⟩

theorem isLock_iff (sql : String) :
    classifier.isLock (some sql) = true ↔ (∃ c ∈ sql.toList, isBlank c = false) ∧
      ∃ ending, IsEnding (classifier.lockReach sql.toList) ending sql.toList ∧
        Contains "for update".toList ending := by
  have hlock : classifier.isLock (some sql) = classifier.isLockText sql.toList := rfl
  rw [hlock, isLockText_iff, IsEnding.exists_iff (classifier.lockWindow_isEnding sql.toList)]

/-- Among the last zero characters there is no clause. -/
theorem not_contains_of_isEnding_zero {ending text : List Char} (h : IsEnding 0 ending text) :
    ¬ Contains "for update".toList ending := fun hclause =>
  absurd hclause.length_le (by simp [h.length])

/-- A statement is a row lock if the clause stands in its last characters, as many as the window
has. A window of no characters finds the clause in the whole statement, and only that is not what
the last characters would say. A wider window finds no fewer row locks, and the search begins where
a character begins. -/
theorem lock_clause_near_end (sql : String) :
    let text := sql.toList
    let window := classifier.settings.lockWindow
    let lock := classifier.isLock (some sql)
    (lock = true ↔ (∃ c ∈ text, isBlank c = false) ∧
      ∃ ending, IsEnding (if window = 0 then text.length else window.toNat) ending text ∧
        Contains "for update".toList ending) ∧
    ((lock = true ↔ (∃ c ∈ text, isBlank c = false) ∧
        ∃ ending, IsEnding window.toNat ending text ∧ Contains "for update".toList ending) ↔
      (window = 0 → ¬ Contains "for update".toList text)) ∧
    (∀ wider : Classifier, window ≠ 0 → window ≤ wider.settings.lockWindow → lock = true →
      wider.isLock (some sql) = true) ∧
    ∃ (cut : sql.Pos) (front : String),
      cut.Splits front (String.ofList (classifier.lockWindow text)) := by
  intro text window lock
  have hlock : lock = true ↔ (∃ c ∈ text, isBlank c = false) ∧
      ∃ ending, IsEnding (classifier.lockReach text) ending text ∧
        Contains "for update".toList ending := classifier.isLock_iff sql
  refine ⟨hlock, ?_, fun wider hne hle h => classifier.isLockText_of_le hne hle h,
    classifier.exists_splits_lockWindow sql⟩
  rw [hlock]
  by_cases hz : window = 0
  · -- the last zero characters hold nothing, so only a statement without the clause agrees
    have hreach : classifier.lockReach text = text.length := if_pos hz
    have hnone : ¬ ∃ ending, IsEnding window.toNat ending text ∧
        Contains "for update".toList ending := by
      rintro ⟨ending, hending, hclause⟩
      rw [hz] at hending
      exact not_contains_of_isEnding_zero hending hclause
    rw [hreach, IsEnding.exists_iff ⟨List.suffix_refl text, (Nat.min_self _).symm⟩]
    constructor
    · intro hiff _ hclause
      exact hnone (hiff.mp ⟨exists_not_blank_of_contains hclause, hclause⟩).2
    · intro habsent
      exact iff_of_false (fun h => habsent hz h.2) (fun h => hnone h.2)
  · rw [classifier.lockReach_of_ne hz]
    exact iff_of_true Iff.rfl fun h => absurd h hz

theorem lock_clause_near_end_of_two_windows :
    let narrow : Classifier := { settings := { lockWindow := 10 } }
    let wider : Classifier := { settings := { lockWindow := 11 } }
    narrow.isLock (some "SELECT 'é' For Update") = true ∧
      wider.isLock (some "SELECT 'é' For Update") = true := by
  intro narrow wider
  have hlock : narrow.isLock (some "SELECT 'é' For Update") = true := by decide +kernel
  exact ⟨hlock, (lock_clause_near_end narrow "SELECT 'é' For Update").2.2.1 wider (by decide)
    (by decide) hlock⟩

-- With no characters to search the clause is found; with a few it is not.
example : ({ settings := { lockWindow := 0 } } : Classifier).isLock
    (some "SELECT 1 FOR UPDATE") = true := by decide +kernel

example : ({ settings := { lockWindow := 9 } } : Classifier).isLock
    (some "SELECT 1 FOR UPDATE") = false := by decide +kernel

end Classifier

end ReplicaRouting
