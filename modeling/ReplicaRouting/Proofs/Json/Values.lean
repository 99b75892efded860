import ReplicaRouting.Proofs.Json.Tokens

/-!
A value is read back from its tokens, by recursion on the value: with whatever arrays and objects
around, its tokens complete it. So every text is read in which its tokens stand one after the other.
-/

namespace ReplicaRouting.Json

variable {around : List Frame} {rest : List Token} {value item : Value} {items : List Value}
  {key : List Char} {members : List (List Char × Value)}

/-! ### The tokens of a value and what comes behind them -/

namespace Value

theorem array_tokens_append :
    (array (item :: items)).tokens ++ rest =
      .openBracket :: (item.tokens ++ (itemTokens items ++ .closeBracket :: rest)) := by
  simp only [tokens, List.cons_append, List.append_assoc, List.nil_append]

theorem object_tokens_append :
    (object ((key, value) :: members)).tokens ++ rest =
      .openBrace :: .string key :: .colon ::
        (value.tokens ++ (memberTokens members ++ .closeBrace :: rest)) := by
  simp only [tokens, List.cons_append, List.append_assoc, List.nil_append]

theorem itemTokens_append :
    itemTokens (item :: items) ++ rest = .comma :: (item.tokens ++ (itemTokens items ++ rest)) := by
  simp only [itemTokens, List.cons_append, List.append_assoc]

theorem memberTokens_append :
    memberTokens ((key, value) :: members) ++ rest =
      .comma :: .string key :: .colon :: (value.tokens ++ (memberTokens members ++ rest)) := by
  simp only [memberTokens, List.cons_append, List.append_assoc]

theorem head_tokens (value : Value) : ∃ token rest, value.tokens = token :: rest ∧
    token ≠ .closeBracket := by
  cases value with
  | null | bool _ | number _ | string _ => exact ⟨_, _, rfl, nofun⟩
  | array items =>
    cases items with
    | nil => exact ⟨.openBracket, _, by rw [tokens], nofun⟩
    | cons item items => exact ⟨.openBracket, _, by rw [tokens]; rfl, nofun⟩
  | object members =>
    rcases members with _ | ⟨⟨key, value⟩, members⟩
    · exact ⟨.openBrace, _, by rw [tokens], nofun⟩
    · exact ⟨.openBrace, _, by rw [tokens]; rfl, nofun⟩

end Value

/-! ### Reading tokens -/

theorem Progress.steps?_cons (progress : Progress) (token : Token) (rest : List Token) :
    progress.steps? (token :: rest) = (progress.step? token).bind (·.steps? rest) :=
  List.foldlM_cons

/-- An array that is not closed at once has its first item like any other. -/
theorem steps?_firstItem :
    (Progress.firstItem around).steps? (value.tokens ++ rest) =
      (Progress.anyValue (.array [] :: around)).steps? (value.tokens ++ rest) := by
  obtain ⟨token, more, htokens, hclose⟩ := value.head_tokens
  rw [htokens, List.cons_append, Progress.steps?_cons, Progress.steps?_cons]
  cases token with
  | closeBracket => exact absurd rfl hclose
  | _ => rfl

mutual

theorem steps?_tokens (value : Value) (around : List Frame) (rest : List Token) :
    (Progress.anyValue around).steps? (value.tokens ++ rest) =
      (Progress.complete value around).steps? rest := by
  match value with
  | .null | .bool _ | .number _ | .string _ | .array [] | .object [] =>
    rw [Value.tokens]
    rfl
  | .array (item :: items) =>
    calc (Progress.anyValue around).steps? ((Value.array (item :: items)).tokens ++ rest)
        = (Progress.firstItem around).steps?
            (item.tokens ++ (Value.itemTokens items ++ .closeBracket :: rest)) := by
          rw [Value.array_tokens_append]
          rfl
      _ = (Progress.complete item (.array [] :: around)).steps?
            (Value.itemTokens items ++ .closeBracket :: rest) := by
          rw [steps?_firstItem, steps?_tokens item]
      _ = (Progress.complete (.array (item :: items)) around).steps? rest :=
          steps?_itemTokens items item [] around rest
  | .object ((key, value) :: members) =>
    calc (Progress.anyValue around).steps? ((Value.object ((key, value) :: members)).tokens ++ rest)
        = (Progress.anyValue (.object [] key :: around)).steps?
            (value.tokens ++ (Value.memberTokens members ++ .closeBrace :: rest)) := by
          rw [Value.object_tokens_append]
          rfl
      _ = (Progress.complete value (.object [] key :: around)).steps?
            (Value.memberTokens members ++ .closeBrace :: rest) := steps?_tokens value _ _
      _ = (Progress.complete (.object ((key, value) :: members)) around).steps? rest :=
          steps?_memberTokens members key value [] around rest

/-- Behind an item come the other items, and the array is closed. -/
theorem steps?_itemTokens (items : List Value) (item : Value) (done : List Value)
    (around : List Frame) (rest : List Token) :
    (Progress.complete item (.array done :: around)).steps?
        (Value.itemTokens items ++ .closeBracket :: rest) =
      (Progress.complete (.array (done.reverse ++ item :: items)) around).steps? rest := by
  match items with
  | [] =>
    rw [Value.itemTokens, ← List.reverse_cons]
    rfl
  | next :: items =>
    calc (Progress.complete item (.array done :: around)).steps?
          (Value.itemTokens (next :: items) ++ .closeBracket :: rest)
        = (Progress.anyValue (.array (item :: done) :: around)).steps?
            (next.tokens ++ (Value.itemTokens items ++ .closeBracket :: rest)) := by
          rw [Value.itemTokens_append]
          rfl
      _ = (Progress.complete (.array ((item :: done).reverse ++ next :: items)) around).steps?
            rest := by
          rw [steps?_tokens next, steps?_itemTokens items next]
      _ = (Progress.complete (.array (done.reverse ++ item :: next :: items)) around).steps?
            rest := by
          rw [List.reverse_cons, List.append_assoc, List.singleton_append]

/-- Behind a member come the other members, and the object is closed. -/
theorem steps?_memberTokens (members : List (List Char × Value)) (key : List Char) (value : Value)
    (done : List (List Char × Value)) (around : List Frame) (rest : List Token) :
    (Progress.complete value (.object done key :: around)).steps?
        (Value.memberTokens members ++ .closeBrace :: rest) =
      (Progress.complete (.object (done.reverse ++ (key, value) :: members)) around).steps?
        rest := by
  match members with
  | [] =>
    rw [Value.memberTokens, ← List.reverse_cons]
    rfl
  | (nextKey, next) :: members =>
    calc (Progress.complete value (.object done key :: around)).steps?
          (Value.memberTokens ((nextKey, next) :: members) ++ .closeBrace :: rest)
        = (Progress.anyValue (.object ((key, value) :: done) nextKey :: around)).steps?
            (next.tokens ++ (Value.memberTokens members ++ .closeBrace :: rest)) := by
          rw [Value.memberTokens_append]
          rfl
      _ = (Progress.complete
            (.object (((key, value) :: done).reverse ++ (nextKey, next) :: members)) around).steps?
            rest := by
          rw [steps?_tokens next, steps?_memberTokens members nextKey next]
      _ = (Progress.complete
            (.object (done.reverse ++ (key, value) :: (nextKey, next) :: members)) around).steps?
            rest := by
          rw [List.reverse_cons, List.append_assoc, List.singleton_append]

end

theorem ofTokens?_tokens (value : Value) : ofTokens? value.tokens = some value := by
  have hsteps := steps?_tokens value [] []
  rw [List.append_nil] at hsteps
  rw [ofTokens?, hsteps]
  rfl

/-! ### Reading texts -/

theorem areApart_cons {token : Token} (htoken : token.isLoose = false) (hrest : AreApart rest) :
    AreApart (token :: rest) :=
  List.isChain_cons.mpr ⟨fun _ _ hloose => absurd hloose (by simp [htoken]), hrest⟩

theorem areApart_scalar (token : Token) (hnext : ∀ next ∈ rest.head?, next.isMark = true)
    (hrest : AreApart rest) : AreApart (token :: rest) :=
  List.isChain_cons.mpr ⟨fun next hnext' _ => hnext next hnext', hrest⟩

mutual

/-- Of two numbers or words in a value there is a mark between. -/
theorem areApart_tokens (value : Value) (rest : List Token)
    (hnext : ∀ next ∈ rest.head?, next.isMark = true) (hrest : AreApart rest) :
    AreApart (value.tokens ++ rest) := by
  match value with
  | .null | .bool _ | .number _ | .string _ =>
    rw [Value.tokens]
    exact areApart_scalar _ hnext hrest
  | .array [] | .object [] =>
    rw [Value.tokens]
    exact areApart_cons rfl (areApart_cons rfl hrest)
  | .array (item :: items) =>
    obtain ⟨hitems, hmark⟩ := areApart_itemTokens items (.closeBracket :: rest)
      (by rintro _ ⟨⟩; rfl) (areApart_cons rfl hrest)
    rw [Value.array_tokens_append]
    exact areApart_cons rfl (areApart_tokens item _ hmark hitems)
  | .object ((key, value) :: members) =>
    obtain ⟨hmembers, hmark⟩ := areApart_memberTokens members (.closeBrace :: rest)
      (by rintro _ ⟨⟩; rfl) (areApart_cons rfl hrest)
    rw [Value.object_tokens_append]
    exact areApart_cons rfl (areApart_cons rfl (areApart_cons rfl
      (areApart_tokens value _ hmark hmembers)))

theorem areApart_itemTokens (items : List Value) (rest : List Token)
    (hnext : ∀ next ∈ rest.head?, next.isMark = true) (hrest : AreApart rest) :
    AreApart (Value.itemTokens items ++ rest) ∧
      ∀ next ∈ (Value.itemTokens items ++ rest).head?, next.isMark = true := by
  match items with
  | [] =>
    rw [Value.itemTokens]
    exact ⟨hrest, hnext⟩
  | item :: items =>
    obtain ⟨hitems, hmark⟩ := areApart_itemTokens items rest hnext hrest
    rw [Value.itemTokens_append]
    exact ⟨areApart_cons rfl (areApart_tokens item _ hmark hitems), by rintro _ ⟨⟩; rfl⟩

theorem areApart_memberTokens (members : List (List Char × Value)) (rest : List Token)
    (hnext : ∀ next ∈ rest.head?, next.isMark = true) (hrest : AreApart rest) :
    AreApart (Value.memberTokens members ++ rest) ∧
      ∀ next ∈ (Value.memberTokens members ++ rest).head?, next.isMark = true := by
  match members with
  | [] =>
    rw [Value.memberTokens]
    exact ⟨hrest, hnext⟩
  | (key, value) :: members =>
    obtain ⟨hmembers, hmark⟩ := areApart_memberTokens members rest hnext hrest
    rw [Value.memberTokens_append]
    exact ⟨areApart_cons rfl (areApart_cons rfl (areApart_cons rfl
      (areApart_tokens value _ hmark hmembers))), by rintro _ ⟨⟩; rfl⟩

end

/-- Each of its numbers, strings and keys is written as a JSON text writes them. -/
def Value.IsWellFormed (value : Value) : Prop := ∀ token ∈ value.tokens, token.IsLexical

/-- A value is read from every text in which its tokens stand one after the other. -/
theorem parse?_of_spaced {text : String} (hvalue : value.IsWellFormed)
    (htext : Spaced value.tokens text.toList) : parse? text = some value := by
  have hapart : AreApart value.tokens := by
    have h := areApart_tokens value [] nofun .nil
    rwa [List.append_nil] at h
  rw [parse?, tokens?_of_spaced htext hvalue hapart, Option.bind_some, ofTokens?_tokens]

theorem spaced_render (value : Value) : Spaced value.tokens value.render.toList := by
  rw [Value.render, String.toList_ofList]
  exact spaced_flatMap (fun _ => []) (fun _ => List.forall_mem_nil _) value.tokens

end ReplicaRouting.Json
