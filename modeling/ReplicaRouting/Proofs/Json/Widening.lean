import Mathlib.Data.List.Forall2
import ReplicaRouting.Proofs.Json.Values

/-!
Texts of a value, and records to whose objects members were added under keys that are not theirs.
The fields of a record are found among them all the same.
-/

namespace ReplicaRouting.Json

/-- The text is a JSON text of the value: its tokens stand in it one after the other, each written
as a token can be, and there is nothing but white space around them. -/
structure IsTextOf (text : String) (value : Value) : Prop where
  lexical : value.IsWellFormed
  spaced : Spaced value.tokens text.toList

theorem IsTextOf.parse? {text : String} {value : Value} (h : IsTextOf text value) :
    parse? text = some value := parse?_of_spaced h.lexical h.spaced

/-- A member of an object, its key as it is written. -/
abbrev Member := List Char × Value

/-- The second row is the first with each value changed as `R` allows, and with members in between
whose keys are none of `known`. -/
inductive Interspersed (R : Value → Value → Prop) :
    List Member → List Member → List String → Prop where
  | nil {known : List String} : Interspersed R [] [] known
  | keep {members members' : List Member} {known : List String} {key : List Char}
      {value value' : Value} (hvalue : R value value')
      (hrest : Interspersed R members members' known) :
      Interspersed R ((key, value) :: members) ((key, value') :: members') known
  | add (name : String) {members members' : List Member} {known : List String} {key : List Char}
      {value : Value} (hkey : unescape? key = some name) (hname : name ∉ known)
      (hrest : Interspersed R members members' known) :
      Interspersed R members ((key, value) :: members') known

def names (members : List Member) : List String := members.filterMap (unescape? ·.1)

/-- The keys of a length of time. -/
def spanKeys : List (List Char) := [escape "secs", escape "nanos"]

/-- The second value is the first with members added, under keys that are not there, to any of its
objects but lengths of time. -/
inductive Widened : Value → Value → Prop where
  | same (value : Value) : Widened value value
  | object {members members' : List Member} (hspan : members.map Prod.fst ≠ spanKeys)
      (hmembers : Interspersed Widened members members' (names members)) :
      Widened (.object members) (.object members')

/-! ### Well-formed values -/

section WellFormed

open Value

theorem isWellFormed_ofText (text : String) : (ofText text).IsWellFormed := by
  rw [IsWellFormed, ofText, tokens, List.forall_mem_singleton]
  exact isQuotable_escape text

theorem isWellFormed_ofNat (n : Nat) : (ofNat n).IsWellFormed := by
  rw [IsWellFormed, ofNat, tokens, List.forall_mem_singleton]
  exact isNumber_toDigits n

theorem isWellFormed_null : null.IsWellFormed := by
  rw [IsWellFormed, tokens, List.forall_mem_singleton]
  trivial

theorem isWellFormed_bool (value : Bool) : (bool value).IsWellFormed := by
  rw [IsWellFormed, tokens, List.forall_mem_singleton]
  trivial

theorem isWellFormed_array {items : List Value} (h : ∀ item ∈ items, item.IsWellFormed) :
    (array items).IsWellFormed := by
  have hitems : ∀ items : List Value, (∀ item ∈ items, item.IsWellFormed) →
      ∀ token ∈ itemTokens items, token.IsLexical := fun items => by
    induction items with
    | nil => exact fun _ => by rw [itemTokens]; exact List.forall_mem_nil _
    | cons item items ih =>
      intro h
      obtain ⟨hitem, hrest⟩ := List.forall_mem_cons.mp h
      rw [itemTokens, List.forall_mem_append, List.forall_mem_cons]
      exact ⟨⟨trivial, hitem⟩, ih hrest⟩
  cases items with
  | nil =>
    rw [IsWellFormed, tokens, List.forall_mem_cons, List.forall_mem_singleton]
    exact ⟨trivial, trivial⟩
  | cons item items =>
    obtain ⟨hitem, hrest⟩ := List.forall_mem_cons.mp h
    rw [IsWellFormed, tokens, List.forall_mem_append, List.forall_mem_append, List.forall_mem_cons,
      List.forall_mem_singleton]
    exact ⟨⟨⟨trivial, hitem⟩, hitems items hrest⟩, trivial⟩

theorem isWellFormed_record {fields : List (String × Value)}
    (h : ∀ field ∈ fields, field.2.IsWellFormed) : (record fields).IsWellFormed := by
  have hfields : ∀ fields : List (String × Value), (∀ field ∈ fields, field.2.IsWellFormed) →
      ∀ token ∈ memberTokens (fields.map fun field => (escape field.1, field.2)),
        token.IsLexical := fun fields => by
    induction fields with
    | nil => exact fun _ => by rw [List.map_nil, memberTokens]; exact List.forall_mem_nil _
    | cons field fields ih =>
      intro h
      obtain ⟨hfield, hrest⟩ := List.forall_mem_cons.mp h
      rw [List.map_cons, memberTokens]
      simp only [List.forall_mem_append, List.forall_mem_cons]
      exact ⟨⟨trivial, isQuotable_escape field.1, trivial, hfield⟩, ih hrest⟩
  cases fields with
  | nil =>
    rw [record, List.map_nil, IsWellFormed, tokens, List.forall_mem_cons, List.forall_mem_singleton]
    exact ⟨trivial, trivial⟩
  | cons field fields =>
    obtain ⟨hfield, hrest⟩ := List.forall_mem_cons.mp h
    rw [record, List.map_cons, IsWellFormed, tokens, List.forall_mem_append, List.forall_mem_append,
      List.forall_mem_singleton]
    simp only [List.forall_mem_cons]
    exact ⟨⟨⟨trivial, isQuotable_escape field.1, trivial, hfield⟩, hfields fields hrest⟩, trivial⟩

/-- A value is rendered as a text of it. -/
theorem isTextOf_render {value : Value} (h : value.IsWellFormed) : IsTextOf value.render value :=
  ⟨h, spaced_render value⟩

end WellFormed

/-! ### Records -/

section Records

variable {R : Value → Value → Prop} {fields kept decoded : List (String × Value)}
  {members members' : List Member} {known : List String} {name : String}

/-- What a record is read as, apart from unknown members: its fields with their values changed. -/
abbrev Kept (R : Value → Value → Prop) (fields kept : List (String × Value)) : Prop :=
  List.Forall₂ (fun field field' => field.1 = field'.1 ∧ R field.2 field'.2) fields kept

theorem Interspersed.members?_eq (h : Interspersed R members members' known)
    (hfields : members = fields.map fun field => (escape field.1, field.2))
    (hknown : ∀ field ∈ fields, field.1 ∈ known) :
    ∃ kept decoded, Kept R fields kept ∧ (Value.object members').members? = some decoded ∧
      decoded.filter (fun member => known.contains member.1) = kept := by
  -- on how the members came to stand there: the fields go down only where one is kept
  induction h generalizing fields with
  | nil =>
    obtain rfl := List.map_eq_nil_iff.mp hfields.symm
    exact ⟨[], [], .nil, rfl, rfl⟩
  | @keep members members' known key value value' hvalue hrest ih =>
    cases fields with
    | nil => exact nomatch hfields
    | cons field fields =>
      obtain ⟨hhead, htail⟩ := List.cons.inj hfields
      obtain ⟨rfl, rfl⟩ := Prod.mk.inj hhead
      obtain ⟨hfield, hknown⟩ := List.forall_mem_cons.mp hknown
      obtain ⟨kept, decoded, hkept, hread, hfilter⟩ := ih htail hknown
      refine ⟨(field.1, value') :: kept, (field.1, value') :: decoded, .cons ⟨rfl, hvalue⟩ hkept,
        ?_, ?_⟩
      · rw [Value.members?] at hread ⊢
        rw [List.mapM_cons, unescape?_escape, hread]
        rfl
      · rw [List.filter_cons_of_pos (by simpa using hfield), hfilter]
  | @add name members members' known key value hkey hname hrest ih =>
    obtain ⟨kept, decoded, hkept, hread, hfilter⟩ := ih hfields hknown
    refine ⟨kept, (name, value) :: decoded, hkept, ?_, ?_⟩
    · rw [Value.members?] at hread ⊢
      rw [List.mapM_cons, hkey, hread]
      rfl
    · rw [List.filter_cons_of_neg (by simpa using hname), hfilter]

/-- Members under other names do not matter for a field. -/
theorem once?_filter (hname : name ∈ known) :
    Value.once? (decoded.filter fun member => known.contains member.1) name =
      Value.once? decoded name := by
  have hsame : (decoded.filter fun member => known.contains member.1).filter (·.1 == name) =
      decoded.filter (·.1 == name) := by
    rw [List.filter_filter]
    refine List.filter_congr fun member _ => ?_
    by_cases heq : member.1 = name
    · simp [heq, hname]
    · simp [heq]
  rw [Value.once?, Value.once?, hsame]

theorem filter_key {field : String × Value} (hnodup : (kept.map Prod.fst).Nodup)
    (hfield : field ∈ kept) : kept.filter (·.1 == field.1) = [field] := by
  induction kept with
  | nil => exact nomatch hfield
  | cons head rest ih =>
    obtain ⟨hhead, hrest⟩ := List.nodup_cons.mp hnodup
    rcases List.mem_cons.mp hfield with rfl | hmem
    · have hnone : rest.filter (·.1 == field.1) = [] :=
        List.filter_eq_nil_iff.mpr fun other hother heq =>
          hhead (beq_iff_eq.mp heq ▸ List.mem_map_of_mem hother)
      rw [List.filter_cons_of_pos (by simp), hnone]
    · have hne : head.1 ≠ field.1 := fun heq => hhead (heq ▸ List.mem_map_of_mem hmem)
      rw [List.filter_cons_of_neg (by simpa using hne), ih hrest hmem]

theorem mapM_eq_some_map {α β : Type} {read : α → Option β} (value : α → β) {list : List α}
    (h : ∀ a ∈ list, read a = some (value a)) : list.mapM read = some (list.map value) := by
  induction list with
  | nil => rfl
  | cons a list ih =>
    obtain ⟨ha, hlist⟩ := List.forall_mem_cons.mp h
    rw [List.mapM_cons, ha, ih hlist]
    rfl

theorem mapM_once? (hnodup : (kept.map Prod.fst).Nodup)
    (hdecoded : decoded.filter (fun member => (kept.map Prod.fst).contains member.1) = kept) :
    (kept.map Prod.fst).mapM (Value.once? decoded) =
      some ((kept.map Prod.snd).map some) := by
  have honce : ∀ field ∈ kept, Value.once? decoded field.1 = some (some field.2) :=
    fun field hfield => by
      rw [← once?_filter (List.mem_map_of_mem (f := Prod.fst) hfield), hdecoded, Value.once?,
        filter_key hnodup hfield]
  rw [List.mapM_map, List.map_map]
  exact mapM_eq_some_map _ honce

theorem Interspersed.refl (members : List Member) (known : List String) :
    Interspersed Widened members members known := by
  induction members with
  | nil => exact .nil
  | cons member members ih => exact .keep (.same _) ih

theorem names_record (fields : List (String × Value)) :
    names (fields.map fun field => (escape field.1, field.2)) = fields.map Prod.fst := by
  rw [names, List.filterMap_map, ← List.filterMap_eq_map]
  exact List.filterMap_congr fun field _ => unescape?_escape field.1

/-- A widened record has a value for each of its fields, and the value is that of the field, itself
widened. -/
theorem fields?_of_widened {w : Value} (h : Widened (.record fields) w)
    (hnodup : (fields.map Prod.fst).Nodup) :
    ∃ values, List.Forall₂ Widened (fields.map Prod.snd) values ∧
      w.fields? (fields.map Prod.fst) true = some (values.map some) := by
  have hmembers : ∃ members, w = .object members ∧
      Interspersed Widened (fields.map fun field => (escape field.1, field.2)) members
        (fields.map Prod.fst) := by
    generalize hrecord : Value.record fields = record at h
    cases h with
    | same => exact ⟨_, hrecord.symm, .refl _ _⟩
    | @object members members' hspan hmembers =>
      obtain rfl := Value.object.inj hrecord
      exact ⟨members', rfl, names_record fields ▸ hmembers⟩
  obtain ⟨members, rfl, hmembers⟩ := hmembers
  obtain ⟨kept, decoded, hkept, hread, hfilter⟩ :=
    hmembers.members?_eq rfl fun field hfield => List.mem_map_of_mem hfield
  have hnames : fields.map Prod.fst = kept.map Prod.fst := by
    rw [← List.forall₂_eq_eq_eq, List.forall₂_map_left_iff, List.forall₂_map_right_iff]
    exact hkept.imp fun _ _ h => h.1
  have hvalues : List.Forall₂ Widened (fields.map Prod.snd) (kept.map Prod.snd) := by
    rw [List.forall₂_map_left_iff, List.forall₂_map_right_iff]
    exact hkept.imp fun _ _ h => h.2
  refine ⟨kept.map Prod.snd, hvalues, ?_⟩
  rw [hnames] at hnodup hfilter ⊢
  rw [Value.fields?, hread]
  · exact mapM_once? hnodup hfilter
  · exact nofun

end Records

end ReplicaRouting.Json
