import Mathlib.Data.Bool.AllAny
import Mathlib.Data.Nat.Digits.Lemmas
import ReplicaRouting.Text.Numeral

/-!
Which number a numeral writes. Each character stands for its place in the row of digits, whatever
its case, and a numeral without leading zeros is the only one of its number.
-/

namespace ReplicaRouting.Text

/-- The digits in the order of their values. -/
def digitRow : List Char := "0123456789abcdefghijklmnopqrstuvwxyz".toList

/-- The value of a digit of either case. What is no digit comes behind all of them. -/
def digitRank (c : Char) : Nat := digitRow.idxOf c.toLower

theorem toLower_of_not_ascii {c : Char} (hc : 128 ≤ c.toNat) : c.toLower = c := by
  unfold Char.toLower
  split
  · next hupper =>
    have hhigh : c.toNat ≤ 90 := UInt32.le_iff_toNat_le.mp hupper.2
    omega
  · rfl

theorem digitRank_of_not_ascii {c : Char} (hc : 128 ≤ c.toNat) : digitRank c = 36 := by
  have hrow : ∀ d ∈ digitRow, d.toNat < 128 := List.all_iff_forall_prop.mp (by decide)
  have hnot : c ∉ digitRow := fun hmem => absurd (hrow c hmem) (by omega)
  rw [digitRank, toLower_of_not_ascii hc]
  exact List.idxOf_eq_length hnot

theorem digitValue?_of_not_ascii {c : Char} (hc : 128 ≤ c.toNat) : digitValue? c = none := by
  have hbeyond : ∀ d : Char, d.toNat < 128 → ¬ c ≤ d := fun d hd hle => by
    have : c.toNat ≤ d.toNat := Char.le_def.mp hle
    omega
  rw [digitValue?, if_neg fun h => hbeyond '9' (by decide) h.2,
    if_neg fun h => hbeyond 'z' (by decide) h.2, if_neg fun h => hbeyond 'Z' (by decide) h.2]

theorem digitValue?_eq_some_iff {c : Char} {value : Nat} :
    digitValue? c = some value ↔ digitRank c = value ∧ value < 36 := by
  have hall : digitValue? c = if digitRank c < 36 then some (digitRank c) else none := by
    rcases Nat.lt_or_ge c.toNat 128 with hc | hc
    · -- the row is compared character by character
      have hrow : ∀ n : Fin 128, digitValue? (Char.ofNat n) =
          if digitRank (Char.ofNat n) < 36 then some (digitRank (Char.ofNat n)) else none := by
        decide +kernel
      simpa only [Char.ofNat_toNat] using hrow ⟨c.toNat, hc⟩
    · rw [digitValue?_of_not_ascii hc, digitRank_of_not_ascii hc, if_neg (by omega)]
  rw [hall, Option.ite_none_right_eq_some, Option.some.injEq]
  constructor
  · rintro ⟨hlt, rfl⟩
    exact ⟨rfl, hlt⟩
  · rintro ⟨rfl, hlt⟩
    exact ⟨hlt, rfl⟩

section Reading

variable {base bound value : Nat} {text digits : List Char}

theorem digitOf?_eq_some_iff {c : Char} (hbase : base ≤ 36) :
    digitOf? base c = some value ↔ digitRank c = value ∧ value < base := by
  rw [digitOf?, Option.filter_eq_some_iff, digitValue?_eq_some_iff, decide_eq_true_eq]
  constructor
  · rintro ⟨⟨hrank, -⟩, hlt⟩
    exact ⟨hrank, hlt⟩
  · rintro ⟨hrank, hlt⟩
    exact ⟨⟨hrank, by omega⟩, hlt⟩

/-- The number of a row of digits, most significant first. -/
def worth (base : Nat) (digits : List Char) : Nat :=
  Nat.ofDigits base (digits.reverse.map digitRank)

theorem worth_append_singleton (c : Char) :
    worth base (digits ++ [c]) = worth base digits * base + digitRank c := by
  rw [worth, List.reverse_append, List.reverse_singleton, List.singleton_append, List.map_cons,
    Nat.ofDigits_cons, worth, Nat.mul_comm, Nat.add_comm]

theorem worth_cons (c : Char) :
    worth base (c :: digits) = digitRank c * base ^ digits.length + worth base digits := by
  rw [worth, List.reverse_cons, List.map_append, Nat.ofDigits_append, List.length_map,
    List.length_reverse, List.map_singleton, Nat.ofDigits_singleton, worth, Nat.mul_comm,
    Nat.add_comm]

/-- The digits that come are worth less, one place each, than what has been read before. -/
theorem digits?_eq_some_iff (hbase : base ≤ 36) {start : Nat} :
    digits? base start digits = some value ↔
      (∀ c ∈ digits, digitRank c < base) ∧
        start * base ^ digits.length + worth base digits = value := by
  induction digits generalizing start with
  | nil => simp [digits?, worth]
  | cons c rest ih =>
    have hplace : ∀ digit, (start * base + digit) * base ^ rest.length + worth base rest =
        start * base ^ (rest.length + 1) + (digit * base ^ rest.length + worth base rest) :=
      fun digit => by ring
    simp only [digits?, Option.bind_eq_bind, Option.bind_eq_some_iff, digitOf?_eq_some_iff hbase,
      ih, hplace, List.length_cons, worth_cons, List.forall_mem_cons]
    constructor
    · rintro ⟨digit, ⟨rfl, hlt⟩, hrest, hvalue⟩
      exact ⟨⟨hlt, hrest⟩, hvalue⟩
    · rintro ⟨⟨hlt, hrest⟩, hvalue⟩
      exact ⟨digitRank c, ⟨rfl, hlt⟩, hrest, hvalue⟩

/-- One or more digits of the base, of either case and with any number of leading zeros, and the
number that they write. -/
structure Writes (base : Nat) (digits : List Char) (value : Nat) : Prop where
  nonempty : digits ≠ []
  digit : ∀ c ∈ digits, digitRank c < base
  value_eq : worth base digits = value

theorem digits?_zero_eq_some_iff (hbase : base ≤ 36) (hdigits : digits ≠ []) :
    digits? base 0 digits = some value ↔ Writes base digits value := by
  rw [digits?_eq_some_iff hbase, Nat.zero_mul, Nat.zero_add]
  constructor
  · rintro ⟨hdigit, hvalue⟩
    exact ⟨hdigits, hdigit, hvalue⟩
  · rintro ⟨-, hdigit, hvalue⟩
    exact ⟨hdigit, hvalue⟩

/-- A sign is no digit, so at most one is taken off. -/
theorem not_writes_plus (hbase : base ≤ 36) {rest : List Char} :
    ¬ Writes base ('+' :: rest) value := fun h => by
  have hlt := h.digit '+' List.mem_cons_self
  have hrank : digitRank '+' = 36 := by decide
  omega

theorem numeral?_eq_some_iff (hbase : base ≤ 36) :
    numeral? base bound text = some value ↔
      value < bound ∧ ∃ digits, (text = digits ∨ text = '+' :: digits) ∧
        Writes base digits value := by
  have hread : ∀ digits : List Char,
      (if digits.isEmpty then none else (digits? base 0 digits).filter (· < bound)) = some value ↔
        value < bound ∧ Writes base digits value := fun digits => by
    cases digits with
    | nil =>
      simp only [List.isEmpty_nil, if_true, reduceCtorEq, false_iff]
      exact fun h => h.2.nonempty rfl
    | cons c rest =>
      rw [if_neg (by simp), Option.filter_eq_some_iff,
        digits?_zero_eq_some_iff hbase (List.cons_ne_nil c rest), decide_eq_true_eq, and_comm]
  unfold numeral?
  split
  · next rest =>
    rw [hread]
    constructor
    · rintro ⟨hlt, hwrites⟩
      exact ⟨hlt, rest, .inr rfl, hwrites⟩
    · rintro ⟨hlt, digits, rfl | hplus, hwrites⟩
      · exact absurd hwrites (not_writes_plus hbase)
      · obtain rfl := (List.cons.inj hplus).2
        exact ⟨hlt, hwrites⟩
  · next hsign =>
    rw [hread]
    constructor
    · rintro ⟨hlt, hwrites⟩
      exact ⟨hlt, text, .inl rfl, hwrites⟩
    · rintro ⟨hlt, digits, rfl | rfl, hwrites⟩
      · exact ⟨hlt, hwrites⟩
      · exact absurd rfl (hsign digits)

end Reading

/-! ### Hexadecimal numerals with capital letters -/

section Hexadecimal

variable {n : Nat} {digits : List Char}

/-- The row of digits as they are displayed. -/
def capitalRow : List Char := "0123456789ABCDEF".toList

/-- Digits as they are displayed, without leading zeros; zero has one digit. -/
structure IsCapital (digits : List Char) : Prop where
  nonempty : digits ≠ []
  capital : ∀ c ∈ digits, c ∈ capitalRow
  leading : digits = ['0'] ∨ digits.head? ≠ some '0'

def capitalDigit (n : Nat) : Char := (Nat.digitChar n).toUpper

theorem capitalDigit_mem (hn : n < 16) : capitalDigit n ∈ capitalRow :=
  (show ∀ k : Fin 16, capitalDigit k ∈ capitalRow by decide) ⟨n, hn⟩

theorem digitRank_capitalDigit (hn : n < 16) : digitRank (capitalDigit n) = n :=
  (show ∀ k : Fin 16, digitRank (capitalDigit k) = k by decide) ⟨n, hn⟩

theorem capitalDigit_digitRank {c : Char} (hc : c ∈ capitalRow) :
    capitalDigit (digitRank c) = c :=
  have hrow : ∀ d ∈ capitalRow, capitalDigit (digitRank d) = d :=
    List.all_iff_forall_prop.mp (by decide)
  hrow c hc

theorem upperHex_of_lt (hn : n < 16) : upperHex n = [capitalDigit n] := by
  rw [upperHex, Nat.toDigits_of_lt_base hn, List.map_singleton, capitalDigit]

theorem upperHex_of_le (hn : 16 ≤ n) :
    upperHex n = upperHex (n / 16) ++ [capitalDigit (n % 16)] := by
  rw [upperHex, Nat.toDigits_of_base_le (by decide) hn, List.map_append, List.map_singleton,
    upperHex, capitalDigit]

theorem writes_upperHex (n : Nat) : Writes 16 (upperHex n) n := by
  induction n using Nat.strong_induction_on with
  | _ n ih =>
    rcases Nat.lt_or_ge n 16 with hn | hn
    · rw [upperHex_of_lt hn]
      have hrank := digitRank_capitalDigit hn
      refine ⟨List.cons_ne_nil _ _, ?_, by simp [worth, hrank]⟩
      intro c hc
      obtain rfl := List.mem_singleton.mp hc
      omega
    · have hinit := ih (n / 16) (by omega)
      have hrank := digitRank_capitalDigit (Nat.mod_lt n (by decide : 0 < 16))
      rw [upperHex_of_le hn]
      refine ⟨by simp, ?_, ?_⟩
      · rw [List.forall_mem_append, List.forall_mem_singleton]
        exact ⟨hinit.digit, by omega⟩
      · rw [worth_append_singleton, hinit.value_eq, hrank]
        omega

theorem head?_toDigits_ne_zero (base : Nat) (hbase : 1 < base) (hn : 0 < n) :
    (Nat.toDigits base n).head? ≠ some '0' := by
  induction n using Nat.strong_induction_on with
  | _ n ih =>
    rcases Nat.lt_or_ge n base with hlt | hge
    · rw [Nat.toDigits_of_lt_base hlt, List.head?_cons, ne_eq, Option.some.injEq,
        Nat.digitChar_eq_zero]
      omega
    · have hquotient : 0 < n / base := Nat.div_pos hge (by omega)
      rw [Nat.toDigits_of_base_le hbase hge, List.head?_append_of_ne_nil _ Nat.toDigits_ne_nil]
      exact ih (n / base) (Nat.div_lt_self hn hbase) hquotient

/-- Only letters have capitals. -/
theorem eq_zero_of_toUpper {c : Char} (h : c.toUpper = '0') : c = '0' := by
  unfold Char.toUpper at h
  split at h
  · next hlower =>
    have hlow : 97 ≤ c.toNat := UInt32.le_iff_toNat_le.mp hlower.1
    have hhigh : c.toNat ≤ 122 := UInt32.le_iff_toNat_le.mp hlower.2
    have hval := congrArg Char.val h
    have hnat : (c.val + ('A'.val - 'a'.val)).toNat = 48 := congrArg UInt32.toNat hval
    rw [UInt32.toNat_add, show ('A'.val - 'a'.val).toNat = 2 ^ 32 - 32 by decide] at hnat
    change (c.toNat + (2 ^ 32 - 32)) % 2 ^ 32 = 48 at hnat
    omega
  · exact h

theorem head?_upperHex_ne_zero (hn : 0 < n) : (upperHex n).head? ≠ some '0' := by
  rw [upperHex, List.head?_map]
  intro hzero
  obtain ⟨c, hc, hupper⟩ := Option.map_eq_some_iff.mp hzero
  exact head?_toDigits_ne_zero 16 (by decide) hn (eq_zero_of_toUpper hupper ▸ hc)

theorem isCapital_upperHex (n : Nat) : IsCapital (upperHex n) where
  nonempty := (writes_upperHex n).nonempty
  capital := by
    induction n using Nat.strong_induction_on with
    | _ n ih =>
      rcases Nat.lt_or_ge n 16 with hn | hn
      · rw [upperHex_of_lt hn, List.forall_mem_singleton]
        exact capitalDigit_mem hn
      · rw [upperHex_of_le hn, List.forall_mem_append, List.forall_mem_singleton]
        exact ⟨ih (n / 16) (by omega), capitalDigit_mem (Nat.mod_lt n (by decide))⟩
  leading := by
    rcases Nat.eq_zero_or_pos n with rfl | hn
    · exact .inl (by decide)
    · exact .inr (head?_upperHex_ne_zero hn)

theorem digits_worth (hcapital : IsCapital digits) (hzero : digits ≠ ['0']) :
    Nat.digits 16 (worth 16 digits) = digits.reverse.map digitRank := by
  have hhead := hcapital.leading.resolve_left hzero
  have hrank : ∀ c ∈ capitalRow, digitRank c < 16 := List.all_iff_forall_prop.mp (by decide)
  refine Nat.digits_ofDigits 16 (by decide) _ ?_ fun hne hlast => ?_
  · simp only [List.mem_map, List.mem_reverse]
    rintro _ ⟨c, hc, rfl⟩
    exact hrank c (hcapital.capital c hc)
  · -- the last of the reversed row is the leading digit, and only the digit zero has the value zero
    have hzeros : ∀ c ∈ capitalRow, digitRank c = 0 → c = '0' :=
      List.all_iff_forall_prop.mp (by decide)
    cases digits with
    | nil => exact hcapital.nonempty rfl
    | cons c rest =>
      simp only [List.reverse_cons, List.map_append, List.map_singleton,
        List.getLast_append_singleton] at hlast
      refine hhead ?_
      rw [List.head?_cons, hzeros c (hcapital.capital c List.mem_cons_self) hlast]

theorem worth_eq_zero_iff (hcapital : IsCapital digits) : worth 16 digits = 0 ↔ digits = ['0'] := by
  refine ⟨fun hworth => ?_, fun hzero => by rw [hzero]; decide⟩
  by_contra hzero
  have hdigits := digits_worth hcapital hzero
  rw [hworth, Nat.digits_zero, eq_comm, List.map_eq_nil_iff, List.reverse_eq_nil_iff] at hdigits
  exact hcapital.nonempty hdigits

theorem map_capitalDigit (hcapital : IsCapital digits) :
    (digits.reverse.map digitRank).map capitalDigit = digits.reverse := by
  rw [List.map_map]
  refine (List.map_congr_left fun c hc => ?_).trans (List.map_id _)
  exact capitalDigit_digitRank (hcapital.capital c (List.mem_reverse.mp hc))

/-- Without leading zeros there is one row of digits for each number. -/
theorem IsCapital.eq_upperHex (hcapital : IsCapital digits) :
    digits = upperHex (worth 16 digits) := by
  have hother := isCapital_upperHex (worth 16 digits)
  have hworth := (writes_upperHex (worth 16 digits)).value_eq
  by_cases hzero : digits = ['0']
  · rw [(worth_eq_zero_iff hcapital).mpr hzero, hzero]
    decide
  · have hzero' : upperHex (worth 16 digits) ≠ ['0'] := fun h =>
      hzero ((worth_eq_zero_iff hcapital).mp (hworth.symm.trans ((worth_eq_zero_iff hother).mpr h)))
    -- the digits of a number are its own, and each capital is told from its value
    have hranks : digits.reverse.map digitRank =
        (upperHex (worth 16 digits)).reverse.map digitRank := by
      rw [← digits_worth hcapital hzero, ← digits_worth hother hzero', hworth]
    have hreverse := congrArg (List.map capitalDigit) hranks
    rw [map_capitalDigit hcapital, map_capitalDigit hother] at hreverse
    exact List.reverse_injective hreverse

end Hexadecimal

end ReplicaRouting.Text
