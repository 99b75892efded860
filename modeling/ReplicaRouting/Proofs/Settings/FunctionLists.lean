import Mathlib.Data.List.Forall2
import ReplicaRouting.Proofs.Settings
import ReplicaRouting.Proofs.Text.Classes
import ReplicaRouting.Settings.Variables

/-!
Lists of function names in a variable. The names that are read from it are those written between its
commas, however much white space and however many blank pieces stand around them, and settings with
such a list are never refused on its account.
-/

namespace ReplicaRouting

namespace Text

/-- The pieces of a text between its commas. -/
structure Pieces (text : List Char) (pieces : List (List Char)) : Prop where
  joined : [','].intercalate pieces = text
  apart : ∀ piece ∈ pieces, ',' ∉ piece
  ne_nil : pieces ≠ []

theorem commaPieces_eq_splitOn (text : List Char) : commaPieces text = text.splitOn ',' := by
  induction text with
  | nil => rw [List.splitOn_nil, commaPieces]
  | cons c rest ih =>
    rw [List.splitOn_cons_eq_if_modifyHead, ← ih, commaPieces]
    by_cases hc : c = ','
    · rw [if_pos hc, if_pos (beq_iff_eq.mpr hc)]
    · rw [if_neg hc, if_neg (fun h => hc (beq_iff_eq.mp h))]
      have hne : commaPieces rest ≠ [] := by rw [ih]; exact List.splitOn_ne_nil ',' rest
      cases hpieces : commaPieces rest with
      | nil => exact absurd hpieces hne
      | cons piece pieces => rfl

theorem comma_not_mem_of_mem_commaPieces {text piece : List Char} (h : piece ∈ commaPieces text) :
    ',' ∉ piece := by
  induction text generalizing piece with
  | nil =>
    rw [List.mem_singleton.mp h]
    exact List.not_mem_nil
  | cons c rest ih =>
    rw [commaPieces] at h
    split at h
    · rcases List.mem_cons.mp h with rfl | h
      · exact List.not_mem_nil
      · exact ih h
    · rename_i hc
      split at h
      · rw [List.mem_singleton.mp h, List.mem_singleton]
        exact fun heq => hc heq.symm
      · rename_i first others hrest
        rw [hrest] at ih
        rcases List.mem_cons.mp h with rfl | h
        · rw [List.mem_cons, not_or]
          exact ⟨fun heq => hc heq.symm, ih (List.mem_cons_self ..)⟩
        · exact ih (List.mem_cons_of_mem _ h)

theorem commaPieces_eq_iff {text : List Char} {pieces : List (List Char)} :
    commaPieces text = pieces ↔ Pieces text pieces := by
  constructor
  · rintro rfl
    refine ⟨?_, fun piece => comma_not_mem_of_mem_commaPieces, ?_⟩
    · rw [commaPieces_eq_splitOn]
      exact List.intercalate_splitOn ','
    · rw [commaPieces_eq_splitOn]
      exact List.splitOn_ne_nil ',' text
  · rintro ⟨rfl, hapart, hne⟩
    rw [commaPieces_eq_splitOn]
    exact List.splitOn_intercalate ',' hapart hne

theorem comma_not_mem_of_isBlankText {text : List Char} (h : isBlankText text = true) :
    ',' ∉ text :=
  fun hcomma => absurd (List.all_eq_true.mp h ',' hcomma) (by decide)

theorem trim_eq_nil_iff {text : List Char} : trim text = [] ↔ isBlankText text = true := by
  rw [trim_eq_iff, isBlankText, List.all_eq_true]
  constructor
  · rintro ⟨⟨before, behind, rfl, hbefore, hbehind⟩, -, -⟩ c hc
    rw [List.append_nil] at hc
    exact (List.mem_append.mp hc).elim (hbefore c) (hbehind c)
  · intro hblank
    exact ⟨⟨text, [], by rw [List.append_nil, List.append_nil], hblank, by simp⟩, rfl, rfl⟩

/-- The entries of a list are its pieces without the blank ones, and without the white space around
them. -/
theorem commaList_of_pieces {text : List Char} {pieces : List (List Char)}
    (h : Pieces text pieces) :
    commaList text = (pieces.filter (!isBlankText ·)).map trim := by
  have hfilter : (fun piece => !isBlankText piece) = (!·.isEmpty) ∘ trim := by
    funext piece
    have hiff : (trim piece).isEmpty = isBlankText piece := by
      rw [Bool.eq_iff_iff, List.isEmpty_iff, trim_eq_nil_iff]
    simp only [Function.comp_apply, hiff]
  rw [commaList, commaPieces_eq_iff.mpr h, List.filter_map, hfilter]

/-- A name as it stands in a list: neither blank nor with a comma in it, and without white space at
its ends. -/
structure IsEntry (name : List Char) : Prop where
  not_blank : isBlankText name = false
  no_comma : ',' ∉ name
  first : name.head?.any isBlank = false
  last : name.getLast?.any isBlank = false

theorem isEntry_of_mem_commaList {text name : List Char} (h : name ∈ commaList text) :
    IsEntry name := by
  obtain ⟨hname, hne⟩ := List.mem_filter.mp h
  obtain ⟨piece, hpiece, rfl⟩ := List.mem_map.mp hname
  obtain ⟨⟨before, behind, hwhole, -, -⟩, hfirst, hlast⟩ := stripped_trim piece
  refine ⟨?_, fun hcomma => ?_, hfirst, hlast⟩
  · cases hcore : trim piece with
    | nil =>
      rw [hcore] at hne
      cases hne
    | cons c rest =>
      rw [hcore] at hfirst
      exact isBlankText_eq_false_iff.mpr ⟨c, List.mem_cons_self .., hfirst⟩
  · -- what is taken off at the ends of a piece brings no comma into it
    apply comma_not_mem_of_mem_commaPieces hpiece
    rw [hwhole]
    exact List.mem_append_left _ (List.mem_append_right _ hcomma)

/-- The pieces hold the names in order, each with white space around it, and are blank otherwise. -/
inductive Holds : List (List Char) → List (List Char) → Prop where
  | nil : Holds [] []
  | blank {piece : List Char} {pieces names : List (List Char)}
      (hpiece : isBlankText piece = true) (h : Holds pieces names) : Holds (piece :: pieces) names
  | name {before behind name : List Char} {pieces names : List (List Char)}
      (hbefore : isBlankText before = true) (hbehind : isBlankText behind = true)
      (h : Holds pieces names) : Holds ((before ++ name ++ behind) :: pieces) (name :: names)

namespace Holds

variable {pieces names : List (List Char)}

theorem apart (h : Holds pieces names) (hnames : ∀ name ∈ names, IsEntry name) :
    ∀ piece ∈ pieces, ',' ∉ piece := by
  induction h with
  | nil => exact fun _ hpiece => absurd hpiece List.not_mem_nil
  | blank hpiece h ih =>
    exact List.forall_mem_cons.mpr ⟨comma_not_mem_of_isBlankText hpiece, ih hnames⟩
  | name hbefore hbehind h ih =>
    obtain ⟨hname, hnames⟩ := List.forall_mem_cons.mp hnames
    refine List.forall_mem_cons.mpr ⟨?_, ih hnames⟩
    rw [List.mem_append, List.mem_append, not_or, not_or]
    exact ⟨⟨comma_not_mem_of_isBlankText hbefore, hname.no_comma⟩,
      comma_not_mem_of_isBlankText hbehind⟩

theorem trimmed_eq (h : Holds pieces names) (hnames : ∀ name ∈ names, IsEntry name) :
    (pieces.filter (!isBlankText ·)).map trim = names := by
  induction h with
  | nil => rfl
  | blank hpiece h ih =>
    rw [List.filter_cons_of_neg (by rw [hpiece]; decide)]
    exact ih hnames
  | @name before behind name pieces names hbefore hbehind h ih =>
    obtain ⟨hname, hnames⟩ := List.forall_mem_cons.mp hnames
    have htrim : trim (before ++ name ++ behind) = name :=
      Stripped.eq_trim ⟨⟨before, behind, rfl, List.all_eq_true.mp hbefore,
        List.all_eq_true.mp hbehind⟩, hname.first, hname.last⟩
    have hvisible : isBlankText (before ++ name ++ behind) = false := by
      rw [Bool.eq_false_iff, ne_eq, ← trim_eq_nil_iff, htrim]
      rintro rfl
      exact absurd hname.not_blank (by decide)
    rw [List.filter_cons_of_pos (by rw [hvisible]; decide), List.map_cons, htrim, ih hnames]

/-- Names that are written with commas between them are read back, whatever white space stands
around them and whatever blank pieces between them. -/
theorem commaList_intercalate (h : Holds pieces names) (hnames : ∀ name ∈ names, IsEntry name) :
    commaList ([','].intercalate pieces) = names := by
  by_cases hne : pieces = []
  · subst hne
    cases h
    rfl
  · rw [commaList_of_pieces ⟨rfl, h.apart hnames, hne⟩]
    exact h.trimmed_eq hnames

end Holds

end Text

namespace Settings

/-- The variable that holds the list of functions. -/
def functionsVariable : String := "TANDEM_READ_ONLY_FUNCTIONS"

section Lists

variable (lookup : Variables)

theorem readOnlyFunctions_ofVariables :
    (ofVariables lookup).routing.readOnlyFunctions =
      (Text.commaList ((lookup functionsVariable).getD "").toList).map String.ofList := by
  unfold ofVariables functionsVariable
  dsimp only
  cases lookup "TANDEM_READ_ONLY_FUNCTIONS" with
  | some value => rfl
  | none => rfl

theorem toList_readOnlyFunctions_ofVariables :
    (ofVariables lookup).routing.readOnlyFunctions.map String.toList =
      Text.commaList ((lookup functionsVariable).getD "").toList := by
  rw [readOnlyFunctions_ofVariables, List.map_map, String.toList_comp_ofList, List.map_id]

theorem checkFunctions_ofVariables : (ofVariables lookup).checkFunctions = .ok () := by
  rw [checkFunctions_eq_ok_iff]
  intro name hname
  have hentry := List.mem_map_of_mem (f := String.toList) hname
  rw [toList_readOnlyFunctions_ofVariables] at hentry
  exact (Text.isEntry_of_mem_commaList hentry).not_blank

/-- The names that settings take from a variable are what is left of the pieces between its commas,
in order, when blank pieces are left out and white space is taken off at the ends of the others; a
variable that is not set has none. They are clean names: written with commas between them, with any
white space around them and any blank pieces in between, they are read back as they are. And the
list is never what settings are refused for: the check comes out as it does with no names at all. -/
theorem functions_of_variables_clean :
    let settings := ofVariables lookup
    let names := settings.routing.readOnlyFunctions.map String.toList
    (∃ pieces, Text.Pieces ((lookup functionsVariable).getD "").toList pieces ∧
      List.Forall₂ Text.Stripped (pieces.filter (!Text.isBlankText ·)) names) ∧
    (∀ name ∈ names, Text.IsEntry name) ∧
    (∀ pieces other, Text.Holds pieces names →
      other functionsVariable = some (String.ofList ([','].intercalate pieces)) →
        (ofVariables other).routing.readOnlyFunctions = settings.routing.readOnlyFunctions) ∧
    (∀ value reason,
      settings.validate ≠ .error (.invalidSetting "read_only_functions" value reason)) ∧
    settings.validate =
      validate { settings with routing := { settings.routing with readOnlyFunctions := [] } } := by
  intro settings names
  have hnames : names = Text.commaList ((lookup functionsVariable).getD "").toList :=
    toList_readOnlyFunctions_ofVariables lookup
  have hclean : ∀ name ∈ names, Text.IsEntry name := fun name hname =>
    Text.isEntry_of_mem_commaList (hnames ▸ hname)
  have hchecked : settings.checkFunctions = .ok () := checkFunctions_ofVariables lookup
  have hpieces := Text.commaPieces_eq_iff.mp (Eq.refl
    (Text.commaPieces ((lookup functionsVariable).getD "").toList))
  refine ⟨⟨_, hpieces, ?_⟩, hclean, ?_, ?_, ?_⟩
  · rw [hnames, Text.commaList_of_pieces hpieces, List.forall₂_map_right_iff]
    exact List.forall₂_same.mpr fun piece _ => Text.stripped_trim piece
  · intro pieces other hholds hother
    rw [readOnlyFunctions_ofVariables, hother, Option.getD_some, String.toList_ofList,
      hholds.commaList_intercalate hclean, List.map_map, String.ofList_comp_toList, List.map_id]
  · intro value reason hfault
    obtain ⟨field, -, hblames, hlist⟩ := validate_blames hfault
    have hrefused := hlist (hblames.eq_of_both ⟨value, reason, rfl⟩)
    rw [hchecked] at hrefused
    cases hrefused
  · unfold validate
    rw [hchecked]
    rfl

end Lists

/-- Of a list with blank pieces, one of them a no-break space, two names are left. They are read
back from another text that has white space and blank pieces elsewhere. -/
theorem spaced_functions_read_back :
    let reading := fun value name => if name = functionsVariable then some value else none
    let lookup : Variables := reading " now,\u00a0,pg_catalog.version ,"
    let other : Variables := reading ",\tnow\u2003,  ,pg_catalog.version"
    let pieces := ["".toList, "\t".toList ++ "now".toList ++ "\u2003".toList, "  ".toList,
      "".toList ++ "pg_catalog.version".toList ++ "".toList]
    (ofVariables lookup).routing.readOnlyFunctions = ["now", "pg_catalog.version"] ∧
      Text.IsEntry "pg_catalog.version".toList ∧
      Text.Holds pieces ["now".toList, "pg_catalog.version".toList] ∧
      other functionsVariable = some (String.ofList ([','].intercalate pieces)) ∧
      (ofVariables other).routing.readOnlyFunctions = ["now", "pg_catalog.version"] ∧
      (ofVariables lookup).validate = .ok () := by
  intro reading lookup other pieces
  have hnames : (ofVariables lookup).routing.readOnlyFunctions = ["now", "pg_catalog.version"] := by
    decide +kernel
  have hholds : Text.Holds pieces ["now".toList, "pg_catalog.version".toList] :=
    .blank rfl (.name (by decide) (by decide) (.blank (by decide) (.name rfl rfl .nil)))
  have hother : other functionsVariable = some (String.ofList ([','].intercalate pieces)) := by
    decide +kernel
  obtain ⟨-, hclean, hread, -, hvalidate⟩ := functions_of_variables_clean lookup
  rw [hnames] at hclean hread
  refine ⟨hnames, hclean _ (by decide), hholds, hother, hread pieces other hholds hother, ?_⟩
  rw [hvalidate]
  decide +kernel

end Settings

end ReplicaRouting
