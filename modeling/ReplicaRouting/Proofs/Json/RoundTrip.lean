import ReplicaRouting.Decision.Json
import ReplicaRouting.Proofs.Json.Widening
import ReplicaRouting.Settings.Json

/-!
Settings and decisions are read back from the texts of their JSON values, also when members were
added that they do not have.
-/

namespace ReplicaRouting

open Json

namespace Json

theorem Widened.eq_of_not_object {value w : Value} (h : Widened value w)
    (hvalue : ∀ members, value ≠ .object members) : w = value := by
  cases h with
  | same => rfl
  | object => exact absurd rfl (hvalue _)

theorem members?_record (fields : List (String × Value)) :
    (Value.record fields).members? = some fields := by
  rw [Value.record, Value.members?, List.mapM_map]
  refine (mapM_eq_some_map id fun field _ => ?_).trans (by rw [List.map_id])
  simp

/-- A record as it is written has its own fields and no others. -/
theorem fields?_record (fields : List (String × Value)) (hnodup : (fields.map Prod.fst).Nodup) :
    (Value.record fields).fields? (fields.map Prod.fst) false =
      some ((fields.map Prod.snd).map some) := by
  have hown : ∀ member ∈ fields, (fields.map Prod.fst).contains member.1 = true :=
    fun member h => by simpa using ⟨member.2, h⟩
  rw [Value.fields?, members?_record]
  · rw [Option.bind_eq_bind, Option.bind_some, Bool.false_or, if_pos (List.all_eq_true.mpr hown)]
    exact mapM_once? hnodup (List.filter_eq_self.mpr hown)
  · rintro _ ⟨⟩

end Json

/-! ### Settings -/

namespace Span

theorem seconds_subseconds (span : Span) :
    span.seconds * 1_000_000_000 + span.subseconds = span.nanos := by
  rw [seconds, subseconds]
  omega

theorem ofNanos?_nanos (span : Span) : ofNanos? span.nanos = some span := dif_pos span.nanos_lt

theorem ofParts?_parts (span : Span) : ofParts? span.seconds span.subseconds = some span := by
  rw [ofParts?, seconds_subseconds, ofNanos?_nanos]

theorem ofJson?_eq_of_fields {value seconds nanos : Value}
    (h : value.fields? ["secs", "nanos"] false = some [some seconds, some nanos]) :
    ofJson? value = (seconds.natural? UInt64.size).bind fun seconds =>
      (nanos.natural? UInt32.size).bind fun nanos => ofParts? seconds nanos := by
  rw [ofJson?, h]
  rfl

theorem ofJson?_toJson (span : Span) : ofJson? span.toJson = some span := by
  have hseconds : span.seconds < UInt64.size := by
    have hnanos := span.nanos_lt
    rw [seconds, show UInt64.size = 18446744073709551616 from rfl]
    omega
  have hnanos : span.subseconds < UInt32.size := by
    rw [subseconds, show UInt32.size = 4294967296 from rfl]
    omega
  have hfields : span.toJson.fields? ["secs", "nanos"] false =
      some [some (.ofNat span.seconds), some (.ofNat span.subseconds)] :=
    fields?_record [("secs", .ofNat span.seconds), ("nanos", .ofNat span.subseconds)]
      (show ["secs", "nanos"].Nodup by decide)
  rw [ofJson?_eq_of_fields hfields, Value.natural?_ofNat hseconds, Option.bind_some,
    Value.natural?_ofNat hnanos, Option.bind_some, ofParts?_parts]

theorem eq_of_widened {span : Span} {w : Value} (h : Widened span.toJson w) : w = span.toJson := by
  generalize hvalue : span.toJson = value at h
  cases h with
  | same => rfl
  | object hspan =>
    obtain rfl := Value.object.inj hvalue
    exact absurd (by simp only [List.map_cons, List.map_nil, spanKeys]) hspan

theorem isWellFormed_toJson (span : Span) : span.toJson.IsWellFormed :=
  isWellFormed_record (by
    simp only [List.forall_mem_cons]
    exact ⟨isWellFormed_ofNat _, isWellFormed_ofNat _, List.forall_mem_nil _⟩)

end Span

namespace RoutingSettings

variable {settings : RoutingSettings} {w : Value}

theorem list?_texts (texts : List String) :
    (Value.array (texts.map .ofText)).list? Value.text? = some texts := by
  rw [Value.list?, List.mapM_map]
  refine (mapM_eq_some_map id fun text _ => ?_).trans (by rw [List.map_id])
  exact Value.text?_ofText text

theorem ofJson?_of_widened (h : Widened settings.toJson w) : ofJson? w = some settings := by
  obtain ⟨values, hvalues, hfields⟩ := fields?_of_widened h
    (show ["function_call_prefix", "select_for_update_suffix", "read_only_functions"].Nodup
      by decide)
  obtain _ | ⟨hcall, _ | ⟨hlock, _ | ⟨hnames, _ | _⟩⟩⟩ := hvalues
  obtain rfl := hcall.eq_of_not_object nofun
  obtain rfl := hlock.eq_of_not_object nofun
  obtain rfl := hnames.eq_of_not_object nofun
  simp only [List.map_cons, List.map_nil] at hfields
  rw [ofJson?, hfields]
  simp only [Option.bind_eq_bind, Option.bind_some,
    Value.natural?_ofNat settings.callWindow.toNat_lt,
    Value.natural?_ofNat settings.lockWindow.toNat_lt, list?_texts, UInt64.ofNat_toNat]
  rfl

theorem isWellFormed_toJson (settings : RoutingSettings) : settings.toJson.IsWellFormed := by
  have hnames : (Value.array (settings.readOnlyFunctions.map .ofText)).IsWellFormed := by
    refine isWellFormed_array fun item hitem => ?_
    obtain ⟨name, -, rfl⟩ := List.mem_map.mp hitem
    exact isWellFormed_ofText name
  refine isWellFormed_record ?_
  simp only [List.forall_mem_cons]
  exact ⟨isWellFormed_ofNat _, isWellFormed_ofNat _, hnames, List.forall_mem_nil _⟩

end RoutingSettings

namespace ConsistencySettings

variable {settings : ConsistencySettings} {w : Value}

theorem ofJson?_of_widened (h : Widened settings.toJson w) : ofJson? w = some settings := by
  obtain ⟨values, hvalues, hfields⟩ := fields?_of_widened h
    (show ["clock_lag", "max_propagation", "refresh_timeout", "fall_back_to_consistency"].Nodup
      by decide)
  obtain _ | ⟨hlag, _ | ⟨hpropagation, _ | ⟨htimeout, _ | ⟨hfallBack, _ | _⟩⟩⟩⟩ := hvalues
  obtain rfl := Span.eq_of_widened hlag
  obtain rfl := Span.eq_of_widened hpropagation
  obtain rfl := Span.eq_of_widened htimeout
  obtain rfl := hfallBack.eq_of_not_object nofun
  simp only [List.map_cons, List.map_nil] at hfields
  rw [ofJson?, hfields]
  simp only [Option.bind_eq_bind, Option.bind_some, Span.ofJson?_toJson]
  rfl

theorem isWellFormed_toJson (settings : ConsistencySettings) : settings.toJson.IsWellFormed := by
  refine isWellFormed_record ?_
  simp only [List.forall_mem_cons]
  exact ⟨Span.isWellFormed_toJson _, Span.isWellFormed_toJson _, Span.isWellFormed_toJson _,
    isWellFormed_bool _, List.forall_mem_nil _⟩

end ConsistencySettings

namespace Settings

variable {settings : Settings} {w : Value}

theorem ofJson?_of_widened (h : Widened settings.toJson w) : ofJson? w = some settings := by
  obtain ⟨values, hvalues, hfields⟩ := fields?_of_widened h
    (show ["routing", "consistency"].Nodup by decide)
  obtain _ | ⟨hrouting, _ | ⟨hconsistency, _ | _⟩⟩ := hvalues
  simp only [List.map_cons, List.map_nil] at hfields
  rw [ofJson?, hfields]
  simp only [Option.bind_eq_bind, Option.bind_some, RoutingSettings.ofJson?_of_widened hrouting,
    ConsistencySettings.ofJson?_of_widened hconsistency]
  rfl

theorem isWellFormed_toJson (settings : Settings) : settings.toJson.IsWellFormed := by
  refine isWellFormed_record ?_
  simp only [List.forall_mem_cons]
  exact ⟨settings.routing.isWellFormed_toJson, settings.consistency.isWellFormed_toJson,
    List.forall_mem_nil _⟩

end Settings

/-! ### Decisions -/

namespace Reason

theorem ofName?_name (reason : Reason) : ofName? reason.name = some reason := by
  cases reason <;> decide

theorem ofJson?_ofText (reason : Reason) (levels : Nat) :
    ofJson? levels (.ofText reason.name) = some reason := by
  have htext : ofJson? levels (.ofText reason.name) =
      (Value.ofText reason.name).text?.bind ofName? := rfl
  rw [htext, Value.text?_ofText, Option.bind_some, ofName?_name]

end Reason

theorem Json.option?_ofOption (text : Option String) :
    (Value.ofOption .ofText text).option? Value.text? = some text := by
  cases text with
  | none => rfl
  | some text => exact congrArg (Option.map some) (Value.text?_ofText text)

namespace Decision

variable {decision cause : Decision} {w : Value}

theorem causes_of_cause? (h : decision.cause? = some cause) :
    decision.causes = cause.toGrounds :: cause.causes := by
  unfold cause? at h
  split at h
  · exact nomatch h
  · next nearest earlier hcauses =>
    obtain rfl := Option.some.inj h
    exact hcauses

theorem causes_of_cause?_none (h : decision.cause? = none) : decision.causes = [] := by
  unfold cause? at h
  split at h
  · next hcauses => exact hcauses
  · exact nomatch h

/-- The cause of a decision is null or again a decision. -/
theorem option?_of_widened {read : Value → Option Decision}
    (h : Widened (Grounds.causesToJson decision.causes) w)
    (hread : ∀ cause, decision.cause? = some cause → Widened cause.toJson w →
      read w = some cause) :
    w.option? read = some decision.cause? := by
  cases hcause : decision.cause? with
  | none =>
    rw [causes_of_cause?_none hcause] at h
    obtain rfl := h.eq_of_not_object nofun
    rfl
  | some cause =>
    rw [causes_of_cause? hcause] at h
    have hw := hread cause hcause h
    cases w with
    | null => cases h
    | _ => exact congrArg (Option.map some) hw

/-- A widened decision is read with as many levels as it is nested, by recursion on the levels. -/
theorem ofJson?_of_widened {levels : Nat} (h : Widened decision.toJson w)
    (hlevels : decision.depth < levels) : ofJson? levels w = some decision := by
  induction levels generalizing decision w with
  | zero => exact absurd hlevels (Nat.not_lt_zero _)
  | succ levels ih =>
    obtain ⟨values, hvalues, hfields⟩ := fields?_of_widened h
      (show ["sql", "reason", "cause"].Nodup by decide)
    obtain _ | @⟨_, sql, _, _, hsql, _ | @⟨_, reason, _, _, hreason,
      _ | @⟨_, causes, _, _, hcause, _ | _⟩⟩⟩ := hvalues
    obtain rfl := hsql.eq_of_not_object (by cases decision.sql <;> exact nofun)
    obtain rfl := hreason.eq_of_not_object nofun
    have hcauses : causes.option? (ofJson? levels) = some decision.cause? :=
      option?_of_widened hcause fun cause hcause' hw => by
        have hdepth : decision.depth = cause.depth + 1 :=
          congrArg List.length (causes_of_cause? hcause')
        exact ih hw (by omega)
    simp only [List.map_cons, List.map_nil] at hfields
    rw [ofJson?, hfields]
    simp only [Option.bind_eq_bind, Option.bind_some, Option.getD_some, option?_ofOption,
      Reason.ofJson?_ofText, hcauses]
    have hsame : ∀ {causes}, decision.causes = causes →
        some { decision with causes } = some decision := fun h => by rw [← h]
    cases hnearest : decision.cause? with
    | none => exact hsame (causes_of_cause?_none hnearest)
    | some cause => exact hsame (causes_of_cause? hnearest)

theorem isWellFormed_toJson (decision : Decision) : decision.toJson.IsWellFormed := by
  have hgrounds : ∀ (grounds : Grounds) (cause : Value), cause.IsWellFormed →
      (grounds.toJson cause).IsWellFormed := fun grounds cause hcause => by
    refine isWellFormed_record ?_
    simp only [List.forall_mem_cons]
    refine ⟨?_, isWellFormed_ofText _, hcause, List.forall_mem_nil _⟩
    cases grounds.sql with
    | none => exact isWellFormed_null
    | some sql => exact isWellFormed_ofText sql
  refine hgrounds _ _ ?_
  induction decision.causes with
  | nil => exact isWellFormed_null
  | cons nearest earlier ih => exact hgrounds nearest _ ih

end Decision

/-- Settings and decisions are read from every JSON text of their values, with any white space
between the tokens and with any members added that they do not have. What is rendered for them is
such a text. -/
theorem read_of_isTextOf_widened :
    (∀ (settings : Settings) (w : Value) (text : String), Widened settings.toJson w →
      IsTextOf text w → Settings.read? text = some settings) ∧
    (∀ (decision : Decision) (w : Value) (text : String) (levels : Nat),
      Widened decision.toJson w → IsTextOf text w → decision.depth < levels →
      (Json.parse? text).bind (Decision.ofJson? levels) = some decision) ∧
    (∀ settings : Settings, IsTextOf settings.toJson.render settings.toJson) ∧
    ∀ decision : Decision, IsTextOf decision.toJson.render decision.toJson := by
  refine ⟨fun settings w text hw htext => ?_, fun decision w text levels hw htext hlevels => ?_,
    fun settings => isTextOf_render settings.isWellFormed_toJson,
    fun decision => isTextOf_render decision.isWellFormed_toJson⟩
  · rw [Settings.read?, htext.parse?, Option.bind_some, Settings.ofJson?_of_widened hw]
  · rw [htext.parse?, Option.bind_some, Decision.ofJson?_of_widened hw hlevels]

/-- A read that is kept on main by an earlier write. Both statements have characters that are
escaped, both records a member more than decisions have, and there is some white space. -/
theorem read_of_isTextOf_widened_note :
    Decision.read? ("\x7b \"note\":[], \"sql\": \"SELECT '\\\\' AS \\\"é\\\"\", " ++
        "\"reason\": \"main_reuse\", \"cause\":\x7b \"sql\": \"DELETE\\nFROM t\", " ++
        "\"reason\": \"write_operation\", \"cause\": null, \"note\": \"\\u0007\"\x7d\x7d") =
      some { sql := some "SELECT '\\' AS \"é\"", reason := .mainReuse
             causes := [{ sql := some "DELETE\nFROM t", reason := .writeOperation }] } := by
  let noted : Value := .record
    [("note", .array []), ("sql", .ofText "SELECT '\\' AS \"é\""), ("reason", .ofText "main_reuse"),
     ("cause", .record
       [("sql", .ofText "DELETE\nFROM t"), ("reason", .ofText "write_operation"),
        ("cause", .null), ("note", .ofText "\x07")])]
  let blank (token : Token) : List Char := if token.isMark then [] else [' ']
  have hblank : ∀ token, ∀ c ∈ blank token, isSpace c = true := fun token => by
    dsimp only [blank]
    split
    · exact List.forall_mem_nil _
    · exact List.all_eq_true.mp rfl
  refine read_of_isTextOf_widened.2.1 _ noted _ _ ?_ ⟨?_, ?_⟩ (by decide)
  · refine .object (by decide) (.add "note" (by decide) (by decide) ?_)
    refine .keep (.same _) (.keep (.same _) (.keep (.object (by decide) ?_) .nil))
    exact .keep (.same _) (.keep (.same _) (.keep (.same _)
      (.add "note" (by decide) (by decide) .nil)))
  · refine isWellFormed_record ?_
    simp only [List.forall_mem_cons]
    refine ⟨isWellFormed_array (List.forall_mem_nil _), isWellFormed_ofText _,
      isWellFormed_ofText _, isWellFormed_record ?_, List.forall_mem_nil _⟩
    simp only [List.forall_mem_cons]
    exact ⟨isWellFormed_ofText _, isWellFormed_ofText _, isWellFormed_null, isWellFormed_ofText _,
      List.forall_mem_nil _⟩
  · convert spaced_flatMap blank hblank noted.tokens using 1
    decide +kernel

end ReplicaRouting
