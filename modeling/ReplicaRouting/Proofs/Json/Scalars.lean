import ReplicaRouting.Json.Record
import ReplicaRouting.Json.Render
import ReplicaRouting.Proofs.Text.Classes
import ReplicaRouting.Proofs.Text.Numerals

/-!
Strings and numbers of a JSON text: what is written for a text or a number is read back as it, and
can be told from what stands around it.
-/

namespace ReplicaRouting.Json

/-! ### Strings -/

section Strings

variable {raw : List Char}

/-- Whether no quote ends the string within the row, and no backslash is left over at its end. -/
def staysOpen : List Char → Bool
  | [] => true
  | '\\' :: _ :: rest => staysOpen rest
  | c :: rest => c != '"' && c != '\\' && staysOpen rest

/-- The row can stand between quotes. -/
structure IsQuotable (raw : List Char) : Prop where
  stays : staysOpen raw = true
  codes : (codes? raw).isSome = true

/-- A character is written by a letter after a backslash, by its number, or as itself. -/
inductive Escaped (c : Char) : Prop where
  | letter (letter : Char) (hletter : letter ≠ 'u') (hcode : shortEscape? letter = some c.toNat)
      (h : escapeChar c = ['\\', letter])
  | unit (hcontrol : c.toNat < 0x20) (h : escapeChar c =
      ['\\', 'u', '0', '0', Nat.digitChar (c.toNat / 16), Nat.digitChar (c.toNat % 16)])
  | plain (hquote : c ≠ '"') (hbackslash : c ≠ '\\') (hcontrol : 0x20 ≤ c.toNat)
      (h : escapeChar c = [c])

theorem escaped (c : Char) : Escaped c := by
  have h := escapeChar.eq_def c
  split at h
  · exact .letter '"' (by decide) rfl h
  · exact .letter '\\' (by decide) rfl h
  · exact .letter 'b' (by decide) rfl h
  · exact .letter 'f' (by decide) rfl h
  · exact .letter 'n' (by decide) rfl h
  · exact .letter 'r' (by decide) rfl h
  · exact .letter 't' (by decide) rfl h
  · next hquote hbackslash _ _ _ _ _ =>
    split at h
    · next hcontrol => exact .unit hcontrol h
    · next hcontrol => exact .plain hquote hbackslash (Nat.not_lt.mp hcontrol) h

theorem codes?_letter {letter : Char} (hletter : letter ≠ 'u') (rest : List Char) :
    codes? ('\\' :: letter :: rest) =
      (shortEscape? letter).bind fun code => (codes? rest).map (code :: ·) := by
  rw [codes?]
  · simp only [Option.map_eq_bind]
    rfl
  · exact fun _ _ _ _ _ hu => absurd hu hletter

theorem codes?_plain {c : Char} (hbackslash : c ≠ '\\') (hcontrol : 0x20 ≤ c.toNat)
    (rest : List Char) : codes? (c :: rest) = (codes? rest).map (c.toNat :: ·) := by
  rw [codes?, if_neg]
  · exact not_or.mpr ⟨hbackslash, Nat.not_lt.mpr hcontrol⟩
  · exact fun _ _ _ _ _ hc => absurd hc hbackslash
  · exact fun _ _ hc => absurd hc hbackslash

theorem hexUnit?_control {n : Nat} (hn : n < 0x20) :
    hexUnit? '0' '0' (Nat.digitChar (n / 16)) (Nat.digitChar (n % 16)) = some n :=
  have hall : ∀ k : Fin 0x20,
      hexUnit? '0' '0' (Nat.digitChar (k / 16)) (Nat.digitChar (k % 16)) = some k.val := by decide
  hall ⟨n, hn⟩

theorem codes?_escapeChar (c : Char) (rest : List Char) :
    codes? (escapeChar c ++ rest) = (codes? rest).map (c.toNat :: ·) := by
  cases escaped c with
  | letter letter hletter hcode h =>
    have hread := codes?_letter hletter rest
    rw [hcode, Option.bind_some] at hread
    rwa [h]
  | unit hcontrol h =>
    have hread : codes? (['\\', 'u', '0', '0', Nat.digitChar (c.toNat / 16),
        Nat.digitChar (c.toNat % 16)] ++ rest) =
        (hexUnit? '0' '0' (Nat.digitChar (c.toNat / 16)) (Nat.digitChar (c.toNat % 16))).bind
          fun code => (codes? rest).map (code :: ·) := by
      simp only [Option.map_eq_bind]
      rfl
    rw [h, hread, hexUnit?_control hcontrol, Option.bind_some]
  | plain hquote hbackslash hcontrol h =>
    rw [h]
    exact codes?_plain hbackslash hcontrol rest

theorem codes?_escape (text : List Char) :
    codes? (text.flatMap escapeChar) = some (text.map Char.toNat) := by
  induction text with
  | nil => rfl
  | cons c rest ih => rw [List.flatMap_cons, codes?_escapeChar, ih, Option.map_some, List.map_cons]

/-- The halves of a pair are the codes of no character. -/
theorem not_half (c : Char) : isLeading c.toNat = false ∧ isTrailing c.toNat = false := by
  simp only [isLeading, isTrailing, Bool.and_eq_false_iff, decide_eq_false_iff_not]
  have hvalid : c.toNat < 0xD800 ∨ 0xDFFF < c.toNat ∧ c.toNat < 0x110000 := c.valid
  omega

theorem characters?_toNat (text : List Char) : characters? (text.map Char.toNat) = some text := by
  induction text with
  | nil => rfl
  | cons c rest ih =>
    obtain ⟨hleading, htrailing⟩ := not_half c
    cases rest with
    | nil =>
      rw [List.map_singleton, characters?, hleading, htrailing, Char.ofNat_toNat]
      rfl
    | cons d rest =>
      rw [List.map_cons] at ih
      rw [List.map_cons, List.map_cons, characters?, hleading, htrailing, ih, Char.ofNat_toNat]
      rfl

/-- What is written for a text is read as the text. -/
@[simp]
theorem unescape?_escape (text : String) : unescape? (escape text) = some text := by
  rw [unescape?, escape, codes?_escape, Option.bind_some, characters?_toNat, Option.map_some,
    String.ofList_toList]

theorem staysOpen_plain {c : Char} (hquote : c ≠ '"') (hbackslash : c ≠ '\\') (rest : List Char) :
    staysOpen (c :: rest) = staysOpen rest := by
  rw [staysOpen, bne_iff_ne.mpr hquote, bne_iff_ne.mpr hbackslash]
  · rfl
  · exact fun _ _ hc => absurd hc hbackslash

theorem staysOpen_escapeChar (c : Char) (rest : List Char) :
    staysOpen (escapeChar c ++ rest) = staysOpen rest := by
  cases escaped c with
  | letter letter hletter hcode h => rw [h]; rfl
  | unit hcontrol h =>
    have hdigit : ∀ k : Fin 16, Nat.digitChar k ≠ '"' ∧ Nat.digitChar k ≠ '\\' := by decide
    have hhigh := hdigit ⟨c.toNat / 16, by omega⟩
    have hlow := hdigit ⟨c.toNat % 16, Nat.mod_lt _ (by decide)⟩
    rw [h]
    calc staysOpen ('\\' :: 'u' :: '0' :: '0' :: Nat.digitChar (c.toNat / 16) ::
          Nat.digitChar (c.toNat % 16) :: rest)
        = staysOpen ('0' :: '0' :: Nat.digitChar (c.toNat / 16) ::
            Nat.digitChar (c.toNat % 16) :: rest) := rfl
      _ = staysOpen rest := by
        rw [staysOpen_plain (by decide) (by decide), staysOpen_plain (by decide) (by decide),
          staysOpen_plain hhigh.1 hhigh.2, staysOpen_plain hlow.1 hlow.2]
  | plain hquote hbackslash hcontrol h =>
    rw [h]
    exact staysOpen_plain hquote hbackslash rest

theorem isQuotable_escape (text : String) : IsQuotable (escape text) where
  stays := by
    rw [escape]
    induction text.toList with
    | nil => rfl
    | cons c rest ih => rw [List.flatMap_cons, staysOpen_escapeChar, ih]
  codes := by rw [escape, codes?_escape]; rfl

@[simp]
theorem Value.text?_ofText (text : String) : (Value.ofText text).text? = some text :=
  unescape?_escape text

end Strings

/-! ### Numbers -/

section Numbers

theorem all_isDigit_toDigits (n : Nat) : ∀ c ∈ Nat.toDigits 10 n, c.isDigit = true :=
  fun _ hc => Nat.isDigit_of_mem_toDigits (by decide) (by decide) hc

theorem isWholePart_toDigits (n : Nat) : isWholePart (Nat.toDigits 10 n) = true := by
  rcases Nat.eq_zero_or_pos n with rfl | hn
  · rfl
  · have hhead := Text.head?_toDigits_ne_zero 10 (by decide) hn
    cases hdigits : Nat.toDigits 10 n with
    | nil => exact absurd hdigits Nat.toDigits_ne_nil
    | cons c rest =>
      rw [hdigits, List.head?_cons, ne_eq, Option.some.injEq] at hhead
      rw [isWholePart]
      · exact nofun
      · exact fun hc => hhead (List.cons.inj hc).1
      · exact fun _ hc => hhead (List.cons.inj hc).1

theorem isNumber_toDigits (n : Nat) : isNumber (Nat.toDigits 10 n) = true := by
  have hdigits := all_isDigit_toDigits n
  have hsign : ∀ rest, Nat.toDigits 10 n ≠ '-' :: rest := fun rest h =>
    absurd (hdigits '-' (h ▸ List.mem_cons_self)) (by decide)
  rw [isNumber, List.takeWhile_eq_self_iff.mpr hdigits, List.dropWhile_eq_nil_iff.mpr hdigits,
    isWholePart_toDigits]
  · rfl
  · exact hsign

/-- What is written for a number is read as the number. -/
theorem Value.natural?_ofNat {n bound : Nat} (hn : n < bound) :
    (Value.ofNat n).natural? bound = some n := by
  have hall : (Nat.toDigits 10 n).all Char.isDigit = true :=
    List.all_eq_true.mpr (all_isDigit_toDigits n)
  rw [Value.ofNat, Value.natural?, if_pos hall, Nat.ofDigitChars_ten_toDigits]
  exact Option.filter_some_pos (decide_eq_true hn)

variable {literal : List Char}

/-- The literal is not empty, begins like a number and consists of characters of numbers. -/
structure IsLiteral (literal : List Char) : Prop where
  first : ∃ c rest, literal = c :: rest ∧ (c.isDigit = true ∨ c = '-')
  continues : ∀ c ∈ literal, continuesNumber c = true

theorem continuesNumber_of_isDigit {c : Char} (h : c.isDigit = true) :
    continuesNumber c = true := by
  simp only [continuesNumber, h, Bool.true_or]

theorem continues_of_isExponentPart (h : isExponentPart literal = true) :
    ∀ c ∈ literal, continuesNumber c = true := by
  unfold isExponentPart at h
  split at h
  · exact List.forall_mem_nil _
  · next e rest =>
    simp only [Bool.and_eq_true, Bool.or_eq_true, beq_iff_eq] at h
    obtain ⟨⟨hletter, -⟩, hdigits⟩ := h
    refine List.forall_mem_cons.mpr ⟨by rcases hletter with rfl | rfl <;> rfl, ?_⟩
    have hall : ∀ {digits : List Char}, digits.all Char.isDigit = true →
        ∀ c ∈ digits, continuesNumber c = true := fun h c hc =>
      continuesNumber_of_isDigit (List.all_eq_true.mp h c hc)
    split at hdigits
    · exact List.forall_mem_cons.mpr ⟨rfl, hall hdigits⟩
    · exact List.forall_mem_cons.mpr ⟨rfl, hall hdigits⟩
    · exact hall hdigits

theorem continues_takeWhile (text : List Char) :
    ∀ c ∈ text.takeWhile Char.isDigit, continuesNumber c = true := fun _ hc =>
  continuesNumber_of_isDigit (List.mem_takeWhile_imp hc)

theorem continues_of_isFractionAndExponent (h : isFractionAndExponent literal = true) :
    ∀ c ∈ literal, continuesNumber c = true := by
  unfold isFractionAndExponent at h
  split at h
  · next rest =>
    rw [Bool.and_eq_true] at h
    have hparts := List.takeWhile_append_dropWhile (p := Char.isDigit) (l := rest)
    rw [List.forall_mem_cons, ← hparts, List.forall_mem_append]
    exact ⟨rfl, continues_takeWhile rest, continues_of_isExponentPart h.2⟩
  · exact continues_of_isExponentPart h

theorem isLiteral_of_unsigned
    (h : (isWholePart (literal.takeWhile Char.isDigit) &&
      isFractionAndExponent (literal.dropWhile Char.isDigit)) = true) :
    ∃ c rest, literal = c :: rest ∧ c.isDigit = true ∧ ∀ c ∈ literal, continuesNumber c = true := by
  rw [Bool.and_eq_true] at h
  obtain ⟨hwhole, hrest⟩ := h
  have hparts := List.takeWhile_append_dropWhile (p := Char.isDigit) (l := literal)
  have hall : ∀ c ∈ literal, continuesNumber c = true := by
    rw [← hparts, List.forall_mem_append]
    exact ⟨continues_takeWhile literal, continues_of_isFractionAndExponent hrest⟩
  cases htake : literal.takeWhile Char.isDigit with
  | nil =>
    rw [htake] at hwhole
    exact absurd hwhole (by decide)
  | cons c rest =>
    have hmem : c ∈ literal.takeWhile Char.isDigit := by
      rw [htake]
      exact List.mem_cons_self
    have hdigit : c.isDigit = true := List.mem_takeWhile_imp hmem
    rw [htake] at hparts
    exact ⟨c, _, hparts.symm, hdigit, hall⟩

theorem isLiteral_of_isNumber (h : isNumber literal = true) : IsLiteral literal := by
  unfold isNumber at h
  split at h
  · next rest =>
    obtain ⟨-, -, -, -, hall⟩ := isLiteral_of_unsigned h
    exact ⟨⟨_, _, rfl, .inr rfl⟩, List.forall_mem_cons.mpr ⟨rfl, hall⟩⟩
  · obtain ⟨c, rest, hliteral, hdigit, hall⟩ := isLiteral_of_unsigned h
    exact ⟨⟨c, rest, hliteral, .inl hdigit⟩, hall⟩

end Numbers

end ReplicaRouting.Json
