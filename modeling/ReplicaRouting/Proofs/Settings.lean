import Mathlib.Tactic.SplitIfs
import ReplicaRouting.Settings

/-!
Which settings pass the check, and what the fault says where they do not.
-/

namespace ReplicaRouting.Settings

variable (settings : Settings)

/-- Every limit leaves something to search, and no time is zero. -/
structure Usable : Prop where
  callWindow : settings.routing.callWindow ≠ 0
  lockWindow : lockClause.length ≤ settings.routing.lockWindow.toNat
  functions : ∀ name ∈ settings.routing.readOnlyFunctions, Text.isBlankText name.toList = false
  clockLag : settings.consistency.clockLag.isZero = false
  maxPropagation : settings.consistency.maxPropagation.isZero = false
  refreshTimeout : settings.consistency.refreshTimeout.isZero = false

theorem checkCallWindow_eq_ok_iff :
    settings.checkCallWindow = .ok () ↔ settings.routing.callWindow ≠ 0 := by
  unfold checkCallWindow
  split_ifs with hz <;> simp [hz]

theorem checkLockWindow_eq_ok_iff :
    settings.checkLockWindow = .ok () ↔
      lockClause.length ≤ settings.routing.lockWindow.toNat := by
  unfold checkLockWindow
  split_ifs with hlt
  · exact iff_of_false (by simp) (by omega)
  · exact iff_of_true rfl (by omega)

theorem checkFunctions_eq_ok_iff :
    settings.checkFunctions = .ok () ↔
      ∀ name ∈ settings.routing.readOnlyFunctions, Text.isBlankText name.toList = false := by
  unfold checkFunctions
  cases hf : settings.routing.readOnlyFunctions.find? (Text.isBlankText ·.toList) with
  | none =>
    rw [List.find?_eq_none] at hf
    exact iff_of_true rfl fun name hname => Bool.eq_false_iff.mpr (hf name hname)
  | some name =>
    refine iff_of_false (by simp) fun h => ?_
    have hblank := List.find?_some hf
    have hclean := h name (List.mem_of_find?_eq_some hf)
    exact absurd (hblank.symm.trans hclean) (by simp)

theorem checkSpan_eq_ok_iff (field : String) (span : Span) :
    checkSpan field span = .ok () ↔ span.isZero = false := by
  unfold checkSpan
  split_ifs with hz <;> simp [hz]

theorem bind_eq_ok_iff {first second : Except Fault Unit} :
    (first >>= fun _ => second) = .ok () ↔ first = .ok () ∧ second = .ok () := by
  cases first <;> simp [bind, Except.bind]

/-- The check lets exactly the usable settings pass. -/
theorem validate_eq_ok_iff : settings.validate = .ok () ↔ settings.Usable := by
  unfold validate
  simp only [bind_eq_ok_iff, checkCallWindow_eq_ok_iff, checkLockWindow_eq_ok_iff,
    checkFunctions_eq_ok_iff, checkSpan_eq_ok_iff]
  constructor
  · rintro ⟨hcall, hlock, hfunctions, hlag, hpropagation, hrefresh⟩
    exact ⟨hcall, hlock, hfunctions, hlag, hpropagation, hrefresh⟩
  · rintro ⟨hcall, hlock, hfunctions, hlag, hpropagation, hrefresh⟩
    exact ⟨hcall, hlock, hfunctions, hlag, hpropagation, hrefresh⟩

/-- The fault says that one setting cannot be used. -/
def Blames (field : String) (fault : Fault) : Prop :=
  ∃ value reason, fault = .invalidSetting field value reason

section Faults

variable {settings} {fault : Fault}

theorem checkCallWindow_blames (h : settings.checkCallWindow = .error fault) :
    Blames "function_call_prefix" fault := by
  unfold checkCallWindow at h
  split_ifs at h
  cases h
  exact ⟨_, _, rfl⟩

theorem checkLockWindow_blames (h : settings.checkLockWindow = .error fault) :
    Blames "select_for_update_suffix" fault := by
  unfold checkLockWindow at h
  split_ifs at h
  cases h
  exact ⟨_, _, rfl⟩

theorem checkFunctions_blames (h : settings.checkFunctions = .error fault) :
    Blames "read_only_functions" fault := by
  unfold checkFunctions at h
  split at h
  · cases h
    exact ⟨_, _, rfl⟩
  · cases h

theorem checkSpan_blames {field : String} {span : Span} (h : checkSpan field span = .error fault) :
    Blames field fault := by
  unfold checkSpan at h
  split_ifs at h
  cases h
  exact ⟨_, _, rfl⟩

theorem bind_eq_error_iff {first second : Except Fault Unit} :
    (first >>= fun _ => second) = .error fault ↔
      first = .error fault ∨ first = .ok () ∧ second = .error fault := by
  cases first <;> simp [bind, Except.bind]

/-- A fault of the check names what it looked at, and the list of functions only if that is what is
refused. -/
theorem validate_blames (h : settings.validate = .error fault) :
    ∃ field ∈ ["function_call_prefix", "select_for_update_suffix", "read_only_functions",
        "clock_lag", "max_propagation", "refresh_timeout"],
      Blames field fault ∧
        (field = "read_only_functions" → settings.checkFunctions = .error fault) := by
  unfold validate at h
  simp only [bind_eq_error_iff] at h
  rcases h with h | ⟨-, h | ⟨-, h | ⟨-, h | ⟨-, h | ⟨-, h⟩⟩⟩⟩⟩
  · exact ⟨_, by simp, checkCallWindow_blames h, by simp⟩
  · exact ⟨_, by simp, checkLockWindow_blames h, by simp⟩
  · exact ⟨_, by simp, checkFunctions_blames h, fun _ => h⟩
  all_goals exact ⟨_, by simp, checkSpan_blames h, by simp⟩

theorem Blames.eq_of_both {field other : String} (h : Blames field fault)
    (ho : Blames other fault) : field = other := by
  obtain ⟨value, reason, rfl⟩ := h
  obtain ⟨_, _, hsame⟩ := ho
  cases hsame
  rfl

end Faults

end ReplicaRouting.Settings
