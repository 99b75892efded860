import ReplicaRouting.Position
import ReplicaRouting.Proofs.Text.Classes
import ReplicaRouting.Proofs.Text.Numerals

/-!
Which texts write a position, what is wrong with all others, and which of the texts of one position
is displayed.
-/

namespace ReplicaRouting.Position

/-- One half: an optional plus sign, then hexadecimal digits of a number of 32 bits. -/
def WritesHalf (text : List Char) (value : Nat) : Prop :=
  value < 2 ^ 32 ∧ ∃ digits, (text = digits ∨ text = '+' :: digits) ∧ Text.Writes 16 digits value

/-- Two texts with a slash between them, the first in the whole. -/
structure Splits (core high low : List Char) : Prop where
  whole : core = high ++ '/' :: low
  first : '/' ∉ high

/-- The text writes the position. -/
def Writes (core : List Char) (position : Position) : Prop :=
  ∃ high low h l, Splits core high low ∧ WritesHalf high h ∧ WritesHalf low l ∧
    position.offset.toNat = h * 2 ^ 32 + l

/-- What is wrong with the text: the first of the things that can be wrong. -/
inductive Lacks (core : List Char) : Defect → Prop where
  | slash (h : '/' ∉ core) : Lacks core .noSlash
  | high {high low : List Char} (hsplits : Splits core high low)
      (hhigh : ∀ value, ¬ WritesHalf high value) : Lacks core .badHigh
  | low {high low : List Char} {value : Nat} (hsplits : Splits core high low)
      (hhigh : WritesHalf high value) (hlow : ∀ value, ¬ WritesHalf low value) :
      Lacks core .badLow

section Reading

variable {text core high low : List Char} {value : Nat} {position : Position} {defect : Defect}

theorem half?_eq_some_iff : half? text = some value ↔ WritesHalf text value :=
  Text.numeral?_eq_some_iff (by decide)

theorem half?_eq_none_iff : half? text = none ↔ ∀ value, ¬ WritesHalf text value := by
  simp only [Option.eq_none_iff_forall_ne_some, ne_eq, half?_eq_some_iff]

theorem ofTrimmed_of_no_slash (h : '/' ∉ core) : ofTrimmed core = .error .noSlash := by
  have hrun : ∀ c ∈ core, (c != '/') = true := fun c hc =>
    bne_iff_ne.mpr fun heq => h (heq ▸ hc)
  rw [ofTrimmed, List.dropWhile_eq_nil_iff.mpr hrun]

theorem ofTrimmed_of_splits (h : Splits core high low) :
    ofTrimmed core =
      match half? high with
      | none => .error .badHigh
      | some h =>
        match half? low with
        | none => .error .badLow
        | some l => .ok ⟨UInt64.ofNat (h * UInt32.size + l)⟩ := by
  have hrun : ∀ c ∈ high, (c != '/') = true := fun c hc =>
    bne_iff_ne.mpr fun heq => h.first (heq ▸ hc)
  have hstop : ('/' :: low).head?.any (· != '/') = false := by simp
  have hdrop := Text.dropWhile_run hrun hstop
  have htake := Text.takeWhile_run hrun hstop
  cases hhigh : half? high with
  | none => simp only [ofTrimmed, h.whole, hdrop, htake, hhigh]
  | some value =>
    cases hlow : half? low <;> simp only [ofTrimmed, h.whole, hdrop, htake, hhigh, hlow]

theorem no_slash_or_splits (core : List Char) :
    '/' ∉ core ∨ ∃ high low, Splits core high low := by
  by_cases hslash : '/' ∈ core
  · obtain ⟨high, low, hwhole, hfirst⟩ := List.eq_append_cons_of_mem hslash
    exact .inr ⟨high, low, hwhole, hfirst⟩
  · exact .inl hslash

theorem toNat_ofNat_halves {h l : Nat} (hh : h < 2 ^ 32) (hl : l < 2 ^ 32) :
    (UInt64.ofNat (h * UInt32.size + l)).toNat = h * 2 ^ 32 + l := by
  rw [show UInt32.size = 2 ^ 32 from rfl, UInt64.toNat_ofNat', Nat.mod_eq_of_lt]
  omega

/-- What a text is read as, in each of the four ways. -/
theorem ofTrimmed_spec (core : List Char) :
    (∃ position, ofTrimmed core = .ok position ∧ Writes core position) ∨
      ∃ defect, ofTrimmed core = .error defect ∧ Lacks core defect := by
  rcases no_slash_or_splits core with hslash | ⟨high, low, hsplits⟩
  · exact .inr ⟨_, ofTrimmed_of_no_slash hslash, .slash hslash⟩
  · have hread := ofTrimmed_of_splits hsplits
    cases hhigh : half? high with
    | none =>
      rw [hhigh] at hread
      exact .inr ⟨_, hread, .high hsplits (half?_eq_none_iff.mp hhigh)⟩
    | some h =>
      have hh := half?_eq_some_iff.mp hhigh
      cases hlow : half? low with
      | none =>
        rw [hhigh, hlow] at hread
        exact .inr ⟨_, hread, .low hsplits hh (half?_eq_none_iff.mp hlow)⟩
      | some l =>
        have hl := half?_eq_some_iff.mp hlow
        rw [hhigh, hlow] at hread
        exact .inl ⟨_, hread, high, low, h, l, hsplits, hh, hl, toNat_ofNat_halves hh.1 hl.1⟩

theorem Writes.ofTrimmed_eq (h : Writes core position) : ofTrimmed core = .ok position := by
  obtain ⟨high, low, h, l, hsplits, hh, hl, hoffset⟩ := h
  rw [ofTrimmed_of_splits hsplits, half?_eq_some_iff.mpr hh]
  simp only [half?_eq_some_iff.mpr hl, Except.ok.injEq]
  have hsame := (toNat_ofNat_halves hh.1 hl.1).trans hoffset.symm
  exact congrArg Position.mk (UInt64.toNat_inj.mp hsame)

theorem Lacks.ofTrimmed_eq (h : Lacks core defect) : ofTrimmed core = .error defect := by
  cases h with
  | slash h => exact ofTrimmed_of_no_slash h
  | high hsplits hhigh => rw [ofTrimmed_of_splits hsplits, half?_eq_none_iff.mpr hhigh]
  | low hsplits hhigh hlow =>
    rw [ofTrimmed_of_splits hsplits, half?_eq_some_iff.mpr hhigh]
    simp only [half?_eq_none_iff.mpr hlow]

theorem ofTrimmed_eq_ok_iff : ofTrimmed core = .ok position ↔ Writes core position := by
  refine ⟨fun h => ?_, Writes.ofTrimmed_eq⟩
  rcases ofTrimmed_spec core with ⟨other, hread, hwrites⟩ | ⟨defect, hread, -⟩
  · rw [Except.ok.inj (h.symm.trans hread)]
    exact hwrites
  · exact nomatch h.symm.trans hread

theorem ofTrimmed_eq_error_iff : ofTrimmed core = .error defect ↔ Lacks core defect := by
  refine ⟨fun h => ?_, Lacks.ofTrimmed_eq⟩
  rcases ofTrimmed_spec core with ⟨position, hread, -⟩ | ⟨other, hread, hlacks⟩
  · exact nomatch h.symm.trans hread
  · rw [Except.error.inj (h.symm.trans hread)]
    exact hlacks

end Reading

section Parsing

variable {text : String} {position : Position}

theorem parse_eq_ok_iff :
    parse text = .ok position ↔ ∃ core, Text.Stripped text.toList core ∧ Writes core position := by
  simp only [← Text.trim_eq_iff, exists_eq_left', ← ofTrimmed_eq_ok_iff, parse]
  split
  · next read hread => rw [hread, Except.ok.injEq, Except.ok.injEq]
  · next defect hread => rw [hread]; exact ⟨nofun, nofun⟩

theorem parse_eq_error_iff {fault : Fault} :
    parse text = .error fault ↔ ∃ core defect, Text.Stripped text.toList core ∧
      Lacks core defect ∧ fault = .invalidPosition text defect.reason := by
  simp only [← Text.trim_eq_iff, ← ofTrimmed_eq_error_iff, exists_and_left, exists_eq_left', parse]
  split
  · next read hread => rw [hread]; exact ⟨nofun, nofun⟩
  · next defect hread =>
    rw [hread, Except.error.injEq]
    constructor
    · rintro rfl
      exact ⟨defect, rfl, rfl⟩
    · rintro ⟨other, hother, rfl⟩
      rw [Except.error.inj hother]

end Parsing

/-! ### The text that is displayed -/

section Display

variable {position : Position}

theorem high_lt (position : Position) : position.high < 2 ^ 32 := by
  have hoffset : position.offset.toNat < 2 ^ 32 * 2 ^ 32 := position.offset.toNat_lt
  exact Nat.div_lt_of_lt_mul hoffset

theorem low_lt (position : Position) : position.low < 2 ^ 32 := Nat.mod_lt _ (by decide)

theorem high_low (position : Position) :
    position.high * 2 ^ 32 + position.low = position.offset.toNat := Nat.div_add_mod' _ _

theorem eq_of_halves {p q : Position} (hhigh : p.high = q.high) (hlow : p.low = q.low) : p = q := by
  have hoffset : p.offset.toNat = q.offset.toNat := by rw [← high_low, ← high_low, hhigh, hlow]
  exact congrArg Position.mk (UInt64.toNat_inj.mp hoffset)

/-- Two rows of capital digits without leading zeros, with a slash between them and nothing else. -/
def IsCanonical (text : List Char) : Prop :=
  ∃ high low, text = high ++ '/' :: low ∧ Text.IsCapital high ∧ Text.IsCapital low

theorem text_toList (position : Position) :
    position.text.toList = Text.upperHex position.high ++ '/' :: Text.upperHex position.low := by
  rw [text, String.toList_ofList, List.append_assoc, List.singleton_append]

theorem isCanonical_text (position : Position) : IsCanonical position.text.toList :=
  ⟨_, _, position.text_toList, Text.isCapital_upperHex _, Text.isCapital_upperHex _⟩

theorem slash_notMem {digits : List Char} (h : Text.IsCapital digits) : '/' ∉ digits := fun hmem =>
  absurd (h.capital '/' hmem) (by decide)

theorem isBlank_of_mem_capitalRow : ∀ c ∈ Text.capitalRow, Text.isBlank c = false :=
  List.all_iff_forall_prop.mp (by decide)

theorem stripped_of_isCanonical {text : List Char} (h : IsCanonical text) :
    Text.Stripped text text := by
  obtain ⟨high, low, rfl, hhigh, hlow⟩ := h
  refine ⟨⟨[], [], by simp, List.forall_mem_nil _, List.forall_mem_nil _⟩, ?_, ?_⟩
  · rw [List.head?_append_of_ne_nil _ hhigh.nonempty, List.head?_eq_some_head hhigh.nonempty]
    exact isBlank_of_mem_capitalRow _ (hhigh.capital _ (List.head_mem hhigh.nonempty))
  · rw [List.getLast?_append_of_ne_nil _ (List.cons_ne_nil _ _),
      List.getLast?_cons_of_ne_nil hlow.nonempty, List.getLast?_eq_some_getLast hlow.nonempty]
    exact isBlank_of_mem_capitalRow _ (hlow.capital _ (List.getLast_mem hlow.nonempty))

theorem writes_text (position : Position) : Writes position.text.toList position :=
  ⟨_, _, position.high, position.low,
    ⟨position.text_toList, slash_notMem (Text.isCapital_upperHex _)⟩,
    ⟨position.high_lt, _, .inl rfl, Text.writes_upperHex _⟩,
    ⟨position.low_lt, _, .inl rfl, Text.writes_upperHex _⟩, position.high_low.symm⟩

theorem parse_text (position : Position) : parse position.text = .ok position :=
  parse_eq_ok_iff.mpr ⟨_, stripped_of_isCanonical position.isCanonical_text, position.writes_text⟩

theorem Splits.eq_of_splits {core high low high' low' : List Char} (h : Splits core high low)
    (h' : Splits core high' low') : high = high' ∧ low = low' := by
  have htake : ∀ {high low : List Char}, Splits core high low →
      core.takeWhile (· != '/') = high := fun {high low} h => by
    have hrun : ∀ c ∈ high, (c != '/') = true := fun c hc =>
      bne_iff_ne.mpr fun heq => h.first (heq ▸ hc)
    rw [h.whole, Text.takeWhile_run hrun (by simp)]
  obtain rfl : high = high' := (htake h).symm.trans (htake h')
  have hrest := List.append_cancel_left (h.whole.symm.trans h'.whole)
  exact ⟨rfl, (List.cons.inj hrest).2⟩

/-- A row of capital digits has no sign, so it is all digits. -/
theorem WritesHalf.upperHex_eq {digits : List Char} {value : Nat} (h : WritesHalf digits value)
    (hcapital : Text.IsCapital digits) : digits = Text.upperHex value := by
  obtain ⟨-, row, rfl | rfl, hwrites⟩ := h
  · rw [← hwrites.value_eq]
    exact hcapital.eq_upperHex
  · exact absurd (hcapital.capital '+' List.mem_cons_self) (by decide)

theorem Writes.eq_text {text : List Char} (h : Writes text position)
    (hcanonical : IsCanonical text) : text = position.text.toList := by
  obtain ⟨high, low, h, l, hsplits, hh, hl, hoffset⟩ := h
  obtain ⟨high', low', hwhole, hhigh, hlow⟩ := hcanonical
  obtain ⟨rfl, rfl⟩ := hsplits.eq_of_splits ⟨hwhole, slash_notMem hhigh⟩
  have hhigh_eq : position.high = h := by
    rw [Position.high, hoffset]
    exact Nat.div_eq_of_lt_le (Nat.le_add_right _ _) (by have := hl.1; simp [UInt32.size]; omega)
  have hlow_eq : position.low = l := by
    have hparts := position.high_low
    rw [hhigh_eq] at hparts
    omega
  calc text = high ++ '/' :: low := hsplits.whole
    _ = Text.upperHex h ++ '/' :: Text.upperHex l := by
      rw [← hh.upperHex_eq hhigh, ← hl.upperHex_eq hlow]
    _ = position.text.toList := by rw [position.text_toList, hhigh_eq, hlow_eq]

/-- Among the texts of a position one is canonical, the one that is displayed. -/
theorem parse_canonical_iff {text : String} :
    parse text = .ok position ∧ IsCanonical text.toList ↔ text = position.text := by
  constructor
  · rintro ⟨hparse, hcanonical⟩
    obtain ⟨core, hstripped, hwrites⟩ := parse_eq_ok_iff.mp hparse
    obtain rfl : text.toList = core :=
      (stripped_of_isCanonical hcanonical).eq_trim.symm.trans hstripped.eq_trim
    exact String.toList_inj.mp (hwrites.eq_text hcanonical)
  · rintro rfl
    exact ⟨parse_text position, isCanonical_text position⟩

theorem text_inj {p q : Position} : p.text = q.text ↔ p = q := by
  refine ⟨fun h => ?_, congrArg text⟩
  have hp := parse_text p
  rw [h, parse_text q] at hp
  exact (Except.ok.inj hp).symm

end Display

/-! ### The order of positions -/

section Order

variable {p q : Position}

theorem compare_of_lt (h : p.offset.toNat < q.offset.toNat) : compare p q = .lt :=
  if_pos (UInt64.lt_iff_toNat_lt.mpr h)

theorem compare_of_gt (h : q.offset.toNat < p.offset.toNat) : compare p q = .gt := by
  have hlt : ¬ p.offset < q.offset := fun hlt => Nat.lt_asymm h (UInt64.lt_iff_toNat_lt.mp hlt)
  have hne : p.offset ≠ q.offset := fun heq => Nat.lt_irrefl _ (heq ▸ h)
  exact (if_neg hlt).trans (if_neg hne)

theorem compare_self (p : Position) : compare p p = .eq :=
  (if_neg (UInt64.lt_irrefl p.offset)).trans (if_pos rfl)

theorem compare_eq_halves (p q : Position) :
    compare p q = (compare p.high q.high).then (compare p.low q.low) := by
  have hp := p.high_low
  have hq := q.high_low
  have hplow := p.low_lt
  have hqlow := q.low_lt
  rcases Nat.lt_trichotomy p.high q.high with hlt | heq | hgt
  · rw [Nat.compare_eq_lt.mpr hlt, compare_of_lt (by omega)]
    rfl
  · -- the high halves are the same, so the low halves decide
    rw [heq, Nat.compare_eq_eq.mpr rfl, Ordering.eq_then]
    rcases Nat.lt_trichotomy p.low q.low with hlt | hlow | hgt
    · rw [Nat.compare_eq_lt.mpr hlt, compare_of_lt (by omega)]
    · rw [eq_of_halves heq hlow, compare_self, Nat.compare_eq_eq.mpr rfl]
    · rw [Nat.compare_eq_gt.mpr hgt, compare_of_gt (by omega)]
  · rw [Nat.compare_eq_gt.mpr hgt, compare_of_gt (by omega)]
    rfl

theorem lt_iff_compare : p < q ↔ compare p q = .lt := by
  rcases Nat.lt_or_ge p.offset.toNat q.offset.toNat with h | h
  · exact iff_of_true (UInt64.lt_iff_toNat_lt.mpr h) (compare_of_lt h)
  · refine iff_of_false (fun hlt => Nat.not_lt.mpr h (UInt64.lt_iff_toNat_lt.mp hlt)) fun hlt => ?_
    rcases Nat.lt_or_eq_of_le h with hgt | heq
    · exact nomatch (compare_of_gt hgt).symm.trans hlt
    · obtain rfl : p = q := congrArg Position.mk (UInt64.toNat_inj.mp heq.symm)
      exact nomatch (compare_self p).symm.trans hlt

end Order

/-- A text is read exactly when its halves are two numerals with a slash between, and what is wrong
with any other is told. The text displayed is read back and is the canonical one of its position,
and positions are ordered by their halves. -/
theorem parse_text_laws :
    (∀ text position, parse text = .ok position ↔
      ∃ core, Text.Stripped text.toList core ∧ Writes core position) ∧
    (∀ text fault, parse text = .error fault ↔
      ∃ core defect, Text.Stripped text.toList core ∧ Lacks core defect ∧
        fault = .invalidPosition text defect.reason) ∧
    (∀ offset : UInt64, parse (Position.mk offset).text = .ok ⟨offset⟩) ∧
    (∀ p q : Position, p.text = q.text ↔ p = q) ∧
    (∀ text position, parse text = .ok position ∧ IsCanonical text.toList ↔
      text = position.text) ∧
    ∀ p q : Position, compare p q = (compare p.high q.high).then (compare p.low q.low) ∧
      (p < q ↔ p.high < q.high ∨ p.high = q.high ∧ p.low < q.low) := by
  refine ⟨fun _ _ => parse_eq_ok_iff, fun _ _ => parse_eq_error_iff, fun _ => parse_text _,
    fun _ _ => text_inj, fun _ _ => parse_canonical_iff, fun p q => ⟨compare_eq_halves p q, ?_⟩⟩
  rw [lt_iff_compare, compare_eq_halves, Ordering.then_eq_lt, Nat.compare_eq_lt, Nat.compare_eq_lt,
    Nat.compare_eq_eq]

end ReplicaRouting.Position
