import ReplicaRouting.Proofs.Json.Scalars

/-!
Tokens are read back from a text in which they stand one after the other with any white space around
them. Numbers and words end only where something else begins, so two of them must not touch.
-/

namespace ReplicaRouting.Json

namespace Token

/-- The token is written as the tokens of its kind are. -/
def IsLexical : Token → Prop
  | number literal => isNumber literal = true
  | string raw => IsQuotable raw
  | _ => True

/-- Whether nothing in the token itself shows where it ends. -/
def isLoose : Token → Bool
  | null | bool _ | number _ => true
  | _ => false

def isMark : Token → Bool
  | openBracket | closeBracket | openBrace | closeBrace | comma | colon => true
  | _ => false

/-- Whether a character behind the token would be taken for a part of it. -/
def continues (token : Token) (c : Char) : Bool :=
  match token with
  | null | bool _ => c.isLower
  | number _ => continuesNumber c
  | _ => false

theorem not_continues_of_not_isLoose {token : Token} (h : token.isLoose = false) (c : Char) :
    token.continues c = false := by
  cases token with
  | null | bool _ | number _ => exact nomatch h
  | _ => rfl

theorem not_continues_space (token : Token) {c : Char} (h : isSpace c = true) :
    token.continues c = false := by
  simp only [isSpace, Bool.or_eq_true, beq_iff_eq] at h
  rcases h with ((rfl | rfl) | rfl) | rfl <;> cases token <;> rfl

theorem text_of_isMark {mark : Token} (h : mark.isMark = true) :
    ∃ c, mark.text = [c] ∧ ∀ token : Token, token.continues c = false := by
  cases mark with
  | null | bool _ | number _ | string _ => exact nomatch h
  | _ => exact ⟨_, rfl, fun token => by cases token <;> rfl⟩

end Token

/-! ### One token -/

section Reading

variable {c : Char} {run rest seen : List Char} {tokens : List Token} {token : Token}

theorem tokensFrom?_cons (pending : Pending) {next : Pending}
    (h : advance? pending c = some (tokens, next)) :
    tokensFrom? pending (c :: rest) = (tokensFrom? next rest).map (tokens ++ ·) := by
  rw [tokensFrom?, h, Option.map_eq_bind]
  rfl

theorem tokensFrom?_aside (pending : Pending) {next : Pending}
    (h : advance? pending c = some ([], next)) :
    tokensFrom? pending (c :: rest) = tokensFrom? next rest :=
  (tokensFrom?_cons pending h).trans Option.map_id_apply

/-- What ends a token without belonging to it is read as it would be without the token. -/
theorem tokensFrom?_close {pending : Pending} (hclose : pending.close? = some tokens)
    (hoff : ∀ d ∈ rest.head?, advance? pending d = closeAndBegin? pending d) :
    tokensFrom? pending rest = (tokensFrom? .nothing rest).map (tokens ++ ·) := by
  cases rest with
  | nil =>
    rw [tokensFrom?, tokensFrom?, hclose]
    exact congrArg some (List.append_nil tokens).symm
  | cons d rest =>
    have hadvance : advance? pending d =
        (begin? d).map fun begun => (tokens ++ begun.1, begun.2) := by
      rw [hoff d rfl, closeAndBegin?, hclose, Option.map_eq_bind]
      rfl
    cases hbegin : begin? d with
    | none =>
      rw [tokensFrom?, tokensFrom?, hadvance, advance?, hbegin]
      rfl
    | some begun =>
      rw [hbegin] at hadvance
      rw [tokensFrom?_cons _ hadvance, tokensFrom?_cons .nothing hbegin, Option.map_map]
      exact congrArg (Option.map · _) (funext fun more => List.append_assoc _ _ _)

/-- While a token goes on, its characters are put aside. -/
theorem tokensFrom?_run {pending : List Char → Pending} {continues : Char → Bool}
    (hon : ∀ seen d, continues d = true →
      advance? (pending seen) d = some ([], pending (d :: seen)))
    (hrun : ∀ d ∈ run, continues d = true) :
    tokensFrom? (pending seen) (run ++ rest) =
      tokensFrom? (pending (run.reverse ++ seen)) rest := by
  induction run generalizing seen with
  | nil => rfl
  | cons d run ih =>
    obtain ⟨hd, hrun⟩ := List.forall_mem_cons.mp hrun
    rw [List.cons_append, tokensFrom?_aside _ (hon seen d hd), ih hrun, List.reverse_cons,
      List.append_assoc, List.singleton_append]

/-- A number or a word is read up to the first character that does not continue it. -/
theorem tokensFrom?_loose (pending : List Char → Pending) (continues : Char → Bool)
    (hbegin : begin? c = some ([], pending [c]))
    (hon : ∀ seen d, continues d = true →
      advance? (pending seen) d = some ([], pending (d :: seen)))
    (hoff : ∀ seen d, continues d = false →
      advance? (pending seen) d = closeAndBegin? (pending seen) d)
    (hclose : (pending (c :: run).reverse).close? = some [token])
    (hrun : ∀ d ∈ run, continues d = true) (hrest : rest.head?.any continues = false) :
    tokensFrom? .nothing (c :: run ++ rest) = (tokensFrom? .nothing rest).map (token :: ·) := by
  have hstop : ∀ d ∈ rest.head?, advance? (pending (c :: run).reverse) d =
      closeAndBegin? (pending (c :: run).reverse) d := fun d hd => by
    rw [Option.mem_def.mp hd] at hrest
    exact hoff _ d hrest
  calc tokensFrom? .nothing (c :: run ++ rest)
      = tokensFrom? (pending [c]) (run ++ rest) := tokensFrom?_aside .nothing hbegin
    _ = tokensFrom? (pending (run.reverse ++ [c])) rest := tokensFrom?_run hon hrun
    _ = (tokensFrom? .nothing rest).map (token :: ·) := by
      rw [← List.reverse_cons]
      exact tokensFrom?_close hclose hstop

theorem ne_of_class {p : Char → Bool} {c d : Char} (hc : p c = true) (hd : p d = false) : c ≠ d :=
  fun h => Bool.false_ne_true (hd.symm.trans (h ▸ hc))

theorem isSpace_of_class {p : Char → Bool} (hc : p c = true)
    (hspaces : p ' ' = false ∧ p '\t' = false ∧ p '\n' = false ∧ p '\r' = false) :
    isSpace c = false := by
  obtain ⟨hblank, htab, hnewline, hreturn⟩ := hspaces
  simp only [isSpace, Bool.or_eq_false_iff, beq_eq_false_iff_ne]
  exact ⟨⟨⟨ne_of_class hc hblank, ne_of_class hc htab⟩, ne_of_class hc hnewline⟩,
    ne_of_class hc hreturn⟩

theorem begin?_number (h : c.isDigit = true ∨ c = '-') : begin? c = some ([], .number [c]) := by
  rcases h with hdigit | rfl
  · have hspace : isSpace c = false := isSpace_of_class hdigit ⟨rfl, rfl, rfl, rfl⟩
    rw [begin?, hspace, if_neg Bool.false_ne_true, if_neg (ne_of_class hdigit rfl), hdigit]
    rfl
  · rfl

theorem begin?_word (h : c.isLower = true) : begin? c = some ([], .word [c]) := by
  have hspace : isSpace c = false := isSpace_of_class h ⟨rfl, rfl, rfl, rfl⟩
  have hdigit : c.isDigit = false := by
    -- the digits stand before the letters
    refine Bool.eq_false_iff.mpr fun hd => ?_
    have hletter : (decide (97 ≤ c.val) && decide (c.val ≤ 122)) = true := h
    have hrange : (decide (48 ≤ c.val) && decide (c.val ≤ 57)) = true := hd
    have hlow : 97 ≤ c.val := of_decide_eq_true (Bool.and_eq_true_iff.mp hletter).1
    have hhigh : c.val ≤ 57 := of_decide_eq_true (Bool.and_eq_true_iff.mp hrange).2
    exact absurd (UInt32.le_trans hlow hhigh) (by decide)
  have hnumber : (c.isDigit || c == '-') = false :=
    Bool.or_eq_false_iff.mpr ⟨hdigit, beq_eq_false_iff_ne.mpr (ne_of_class h rfl)⟩
  rw [begin?, hspace, if_neg Bool.false_ne_true, if_neg (ne_of_class h rfl), hnumber,
    if_neg Bool.false_ne_true, if_pos h]

theorem tokensFrom?_number {literal : List Char} (h : isNumber literal = true)
    (hrest : rest.head?.any continuesNumber = false) :
    tokensFrom? .nothing (literal ++ rest) =
      (tokensFrom? .nothing rest).map (.number literal :: ·) := by
  obtain ⟨⟨c, run, rfl, hfirst⟩, hcontinues⟩ := isLiteral_of_isNumber h
  refine tokensFrom?_loose .number continuesNumber (begin?_number hfirst)
    (fun seen d hd => if_pos hd) (fun seen d hd => if_neg (by simp [hd])) ?_
    (List.forall_mem_cons.mp hcontinues).2 hrest
  rw [Pending.close?, List.reverse_reverse, if_pos h]

theorem tokensFrom?_word (word : List Char) (hword : word? (c :: word) = some token)
    (hlower : ∀ d ∈ c :: word, d.isLower = true) (hrest : rest.head?.any Char.isLower = false) :
    tokensFrom? .nothing (c :: word ++ rest) = (tokensFrom? .nothing rest).map (token :: ·) := by
  obtain ⟨hfirst, hword'⟩ := List.forall_mem_cons.mp hlower
  refine tokensFrom?_loose .word Char.isLower (begin?_word hfirst)
    (fun seen d hd => if_pos hd) (fun seen d hd => if_neg (by simp [hd])) ?_ hword' hrest
  rw [Pending.close?, List.reverse_reverse, hword, Option.map_some]

/-- Within a string everything is put aside up to the quote that ends it. -/
theorem tokensFrom?_raw {raw : List Char} (h : staysOpen raw = true) :
    tokensFrom? (.string seen) (raw ++ rest) =
      tokensFrom? (.string (raw.reverse ++ seen)) rest := by
  induction raw using staysOpen.induct generalizing seen with
  | case1 => rfl
  | case2 d raw ih =>
    have hraw : staysOpen raw = true := h
    have hescape : advance? (.string seen) '\\' = some ([], .escape ('\\' :: seen)) := rfl
    have hpass : advance? (.escape ('\\' :: seen)) d = some ([], .string (d :: '\\' :: seen)) := rfl
    calc tokensFrom? (.string seen) ('\\' :: d :: raw ++ rest)
        = tokensFrom? (.escape ('\\' :: seen)) (d :: raw ++ rest) := tokensFrom?_aside _ hescape
      _ = tokensFrom? (.string (d :: '\\' :: seen)) (raw ++ rest) := tokensFrom?_aside _ hpass
      _ = tokensFrom? (.string ((('\\' :: d :: raw).reverse) ++ seen)) rest := by
          rw [ih hraw, List.reverse_cons, List.reverse_cons, List.append_assoc, List.append_assoc]
          rfl
  | case3 d raw hd ih =>
    rw [staysOpen, Bool.and_eq_true, Bool.and_eq_true, bne_iff_ne, bne_iff_ne] at h
    · obtain ⟨⟨hquote, hbackslash⟩, hraw⟩ := h
      have hadvance : advance? (.string seen) d = some ([], .string (d :: seen)) := by
        rw [advance?, if_neg hquote, if_neg hbackslash]
      rw [List.cons_append, tokensFrom?_aside _ hadvance, ih hraw, List.reverse_cons,
        List.append_assoc, List.singleton_append]
    · exact hd

theorem tokensFrom?_string {raw : List Char} (h : IsQuotable raw) (rest : List Char) :
    tokensFrom? .nothing ('"' :: raw ++ '"' :: rest) =
      (tokensFrom? .nothing rest).map (.string raw :: ·) := by
  have hclose : advance? (.string raw.reverse) '"' = some ([.string raw], .nothing) := by
    rw [advance?, if_pos rfl, List.reverse_reverse, if_pos h.codes]
  calc tokensFrom? .nothing ('"' :: raw ++ '"' :: rest)
      = tokensFrom? (.string []) (raw ++ '"' :: rest) := tokensFrom?_aside .nothing rfl
    _ = tokensFrom? (.string raw.reverse) ('"' :: rest) := by
      rw [tokensFrom?_raw h.stays, List.append_nil]
    _ = (tokensFrom? .nothing rest).map (.string raw :: ·) := tokensFrom?_cons _ hclose

theorem tokensFrom?_token (h : token.IsLexical) (hrest : rest.head?.any token.continues = false) :
    tokensFrom? .nothing (token.text ++ rest) = (tokensFrom? .nothing rest).map (token :: ·) := by
  cases token with
  | openBracket | closeBracket | openBrace | closeBrace | comma | colon =>
    exact tokensFrom?_cons _ (show advance? .nothing _ = some ([_], .nothing) from rfl)
  | null => exact tokensFrom?_word "ull".toList rfl (List.all_eq_true.mp rfl) hrest
  | bool value =>
    cases value with
    | true => exact tokensFrom?_word "rue".toList rfl (List.all_eq_true.mp rfl) hrest
    | false => exact tokensFrom?_word "alse".toList rfl (List.all_eq_true.mp rfl) hrest
  | number literal => exact tokensFrom?_number h hrest
  | string raw =>
    have hread := tokensFrom?_string h rest
    rw [Token.text, List.append_assoc, List.append_assoc]
    exact hread

theorem tokensFrom?_blank {blank : List Char} (h : ∀ c ∈ blank, isSpace c = true)
    (rest : List Char) :
    tokensFrom? .nothing (blank ++ rest) = tokensFrom? .nothing rest := by
  induction blank with
  | nil => rfl
  | cons c blank ih =>
    obtain ⟨hc, hblank⟩ := List.forall_mem_cons.mp h
    have hadvance : advance? .nothing c = some ([], .nothing) := if_pos hc
    rw [List.cons_append, tokensFrom?_aside _ hadvance, ih hblank]

end Reading

/-! ### Rows of tokens -/

/-- The tokens stand in the text one after the other, with white space or nothing around them. -/
inductive Spaced : List Token → List Char → Prop where
  | nil (blank : List Char) (hblank : ∀ c ∈ blank, isSpace c = true) : Spaced [] blank
  | cons (blank : List Char) {token : Token} {tokens : List Token} {rest : List Char}
      (hblank : ∀ c ∈ blank, isSpace c = true) (hrest : Spaced tokens rest) :
      Spaced (token :: tokens) (blank ++ (token.text ++ rest))

/-- Each token may have white space of its own before it. -/
theorem spaced_flatMap (blank : Token → List Char)
    (hblank : ∀ token, ∀ c ∈ blank token, isSpace c = true) (tokens : List Token) :
    Spaced tokens (tokens.flatMap fun token => blank token ++ token.text) := by
  induction tokens with
  | nil => exact .nil [] (List.forall_mem_nil _)
  | cons token tokens ih =>
    rw [List.flatMap_cons, List.append_assoc]
    exact .cons (blank token) (hblank token) ih

/-- Behind a number or a word comes a mark, if anything. -/
def AreApart (tokens : List Token) : Prop :=
  tokens.IsChain fun token next => token.isLoose = true → next.isMark = true

theorem Spaced.head_not_continues {token : Token} {tokens : List Token} {text : List Char}
    (h : Spaced tokens text) (hapart : AreApart (token :: tokens)) :
    text.head?.any token.continues = false := by
  by_cases hloose : token.isLoose = true
  · -- behind a number or a word there is white space, a mark or nothing, and none of them goes on
    have hspace : ∀ blank rest : List Char, (∀ c ∈ blank, isSpace c = true) →
        rest.head?.any token.continues = false →
        (blank ++ rest).head?.any token.continues = false := fun blank rest hblank hrest => by
      cases blank with
      | nil => exact hrest
      | cons c blank => exact token.not_continues_space (hblank c List.mem_cons_self)
    cases h with
    | nil _ hblank => simpa using hspace _ [] hblank rfl
    | @cons blank next tokens rest hblank hrest =>
      have hmark := (List.isChain_cons_cons.mp hapart).1 hloose
      obtain ⟨c, htext, hc⟩ := Token.text_of_isMark hmark
      exact hspace blank _ hblank (by rw [htext]; exact hc token)
  · have hnone := token.not_continues_of_not_isLoose (Bool.eq_false_iff.mpr hloose)
    cases text with
    | nil => rfl
    | cons c rest => exact hnone c

theorem tokens?_of_spaced {tokens : List Token} {text : List Char} (h : Spaced tokens text)
    (hlexical : ∀ token ∈ tokens, token.IsLexical) (hapart : AreApart tokens) :
    tokens? text = some tokens := by
  rw [tokens?]
  induction h with
  | @nil blank hblank =>
    have hread := tokensFrom?_blank hblank []
    rwa [List.append_nil] at hread
  | @cons blank token tokens rest hblank hrest ih =>
    obtain ⟨htoken, htokens⟩ := List.forall_mem_cons.mp hlexical
    rw [tokensFrom?_blank hblank, tokensFrom?_token htoken (hrest.head_not_continues hapart),
      ih htokens hapart.tail]
    rfl

end ReplicaRouting.Json
