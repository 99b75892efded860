import Mathlib.Data.List.Perm.Basic
import ReplicaRouting.Cache.Newest

/-!
What a cache that only grows stores: of the values put in since the last reset, the earliest one
among the greatest. The order may take values for equal that are not the same.
-/

namespace ReplicaRouting

/-- A greatest of the values, or nothing if there are none. -/
def Greatest {α : Type} [Ord α] (values : List α) : Option α → Prop
  | none => values = []
  | some value => value ∈ values ∧ ∀ other ∈ values, (compare value other).isGE = true

/-- The earliest among the greatest of the values, or nothing if there are none. -/
def EarliestGreatest {α : Type} [Ord α] (values : List α) : Option α → Prop
  | none => values = []
  | some value => Greatest values (some value) ∧
    ∃ before after, values = before ++ value :: after ∧
      ∀ other ∈ before, ¬ Greatest values (some other)

/-- A greater value takes the place of the one that is there, and any other is passed over. -/
inductive KeepsGreater {α : Type} [Ord α] (candidate : α) : Option α → Option α → Prop where
  | taken {before : Option α} (beyond : ∀ current ∈ before, compare candidate current = .gt) :
    KeepsGreater candidate before (some candidate)
  | left {current : α} (behind : (compare current candidate).isGE = true) :
    KeepsGreater candidate (some current) (some current)

section Order

variable {α : Type} [Ord α]

theorem EarliestGreatest.greatest {values : List α} {content : Option α}
    (h : EarliestGreatest values content) : Greatest values content := by
  cases content with
  | none => exact h
  | some value => exact h.1

variable [Std.TransOrd α] {values others : List α} {candidate : α}
  {before after first second : Option α}

theorem isGE_self (value : α) : (compare value value).isGE = true :=
  Ordering.isGE_of_eq_eq Std.compare_self

theorem earliestGreatest_toList (content : Option α) : EarliestGreatest content.toList content := by
  cases content with
  | none => rfl
  | some value =>
    refine ⟨⟨List.mem_singleton_self _, fun other ho => ?_⟩, [], [], rfl, nofun⟩
    rw [List.mem_singleton.mp ho]
    exact isGE_self value

/-- Greatest ones of the same values are equal in the order. -/
theorem Greatest.rel_of_perm (h : Greatest values first) (ho : Greatest others second)
    (hp : values.Perm others) :
    Option.Rel (fun value other => compare value other = .eq) first second := by
  cases first with
  | none =>
    obtain rfl : values = [] := h
    cases second with
    | none => exact .none
    | some other => exact absurd (hp.mem_iff.mpr ho.1) List.not_mem_nil
  | some value =>
    cases second with
    | none =>
      obtain rfl : others = [] := ho
      exact absurd (hp.mem_iff.mp h.1) List.not_mem_nil
    | some other =>
      have hge := h.2 other (hp.mem_iff.mpr ho.1)
      have hle := ho.2 value (hp.mem_iff.mp h.1)
      exact .some (Std.OrientedCmp.isGE_antisymm hge hle)

namespace KeepsGreater

variable (h : KeepsGreater candidate before after)
include h

/-- A greatest value stays in place. -/
theorem greatest (hg : Greatest values before) : Greatest (values ++ [candidate]) after := by
  cases h with
  | taken beyond =>
    refine ⟨by simp, fun other ho => ?_⟩
    rcases List.mem_append.mp ho with ho | ho
    · cases before with
      | none =>
        obtain rfl : values = [] := hg
        cases ho
      | some current =>
        -- beyond the value in place, it is beyond all that came before
        have hcandidate : (compare candidate current).isGE = true :=
          Ordering.isGE_of_eq_gt (beyond current rfl)
        exact Std.TransOrd.isGE_trans hcandidate (hg.2 other ho)
    · rw [List.mem_singleton.mp ho]
      exact isGE_self candidate
  | left behind =>
    refine ⟨List.mem_append_left _ hg.1, fun other ho => ?_⟩
    rcases List.mem_append.mp ho with ho | ho
    · exact hg.2 other ho
    · rw [List.mem_singleton.mp ho]
      exact behind

/-- What is in place then is not smaller than the candidate, nor than what was there. -/
theorem isGE : ∃ kept, after = some kept ∧ (compare kept candidate).isGE = true ∧
    ∀ current ∈ before, (compare kept current).isGE = true := by
  cases h with
  | taken beyond =>
    exact ⟨candidate, rfl, isGE_self candidate, fun current hc =>
      Ordering.isGE_of_eq_gt (beyond current hc)⟩
  | @left current behind =>
    refine ⟨current, rfl, behind, fun other ho => ?_⟩
    cases ho
    exact isGE_self current

/-- What is in place then is level with a candidate that is not smaller than what was there. -/
theorem level (hge : ∀ current ∈ before, (compare candidate current).isGE = true) :
    ∃ kept, after = some kept ∧ compare kept candidate = .eq := by
  cases h with
  | taken => exact ⟨candidate, rfl, Std.ReflOrd.compare_self⟩
  | @left current behind =>
    exact ⟨current, rfl, Std.OrientedCmp.isGE_antisymm behind (hge current rfl)⟩

/-- Of equal values the one that came first stays. -/
theorem earliestGreatest (hg : EarliestGreatest values before) :
    EarliestGreatest (values ++ [candidate]) after := by
  have hgreatest := h.greatest hg.greatest
  cases h with
  | taken beyond =>
    refine ⟨hgreatest, values, [], rfl, fun other ho hother => ?_⟩
    cases before with
    | none =>
      obtain rfl : values = [] := hg
      cases ho
    | some current =>
      -- no earlier value is as great as one that is beyond the greatest of them
      have hcurrent : (compare current candidate).isGE = true :=
        Std.TransOrd.isGE_trans (hg.1.2 other ho) (hother.2 candidate (by simp))
      exact Std.OrientedCmp.not_isGE_of_gt (beyond current rfl) hcurrent
  | left behind =>
    obtain ⟨-, earlier, later, hvalues, hearlier⟩ := hg
    refine ⟨hgreatest, earlier, later ++ [candidate], ?_, fun other ho hother => ?_⟩
    · rw [hvalues, List.append_assoc, List.cons_append]
    · have hmem : other ∈ values := by
        rw [hvalues]
        exact List.mem_append_left _ ho
      exact hearlier other ho ⟨hmem, fun value hv => hother.2 value (List.mem_append_left _ hv)⟩

end KeepsGreater

end Order

namespace NewestCache

variable {α : Type}

section Put

variable [Ord α] {cache : NewestCache α} {candidate current : α}

theorem advances_of_none (h : cache.value? = none) : cache.advances candidate = true := by
  rw [advances, h]

theorem advances_iff (h : cache.value? = some current) :
    cache.advances candidate = true ↔ compare candidate current = .gt := by
  rw [advances, h]
  exact beq_iff_eq

/-- When nothing comes between the look and the store, the store alone does the same. -/
theorem put_eq_store : cache.put candidate = cache.store candidate := by
  by_cases h : cache.advances candidate
  · rw [put, if_pos h]
  · rw [put, store, if_neg h, if_neg h]

theorem put_of_none (h : cache.value? = none) :
    cache.put candidate = { value? := some candidate } := by
  rw [put_eq_store, store, if_pos (advances_of_none h)]

theorem put_of_not_advances (h : ¬ cache.advances candidate) : cache.put candidate = cache :=
  if_neg h

end Put

/-! ### Puts and resets -/

/-- What may be done to the cache. -/
inductive Move (α : Type) where
  | put (value : α)
  | reset

def step [Ord α] (cache : NewestCache α) : Move α → NewestCache α
  | .put value => cache.put value
  | .reset => cache.reset

/-- The values put in since the last reset, after those that were there. -/
def putSince (values : List α) : List (Move α) → List α
  | [] => values
  | .put value :: moves => putSince (values ++ [value]) moves
  | .reset :: moves => putSince [] moves

theorem putSince_append (values : List α) (moves more : List (Move α)) :
    putSince values (moves ++ more) = putSince (putSince values moves) more := by
  induction moves generalizing values with
  | nil => rfl
  | cons move moves ih => cases move <;> exact ih _

theorem putSince_puts (values puts : List α) :
    putSince values (puts.map Move.put) = values ++ puts := by
  induction puts generalizing values with
  | nil => rw [List.append_nil]; rfl
  | cons value puts ih =>
    rw [List.map_cons, putSince, ih, List.append_assoc, List.singleton_append]

variable [Ord α]

def run (cache : NewestCache α) (moves : List (Move α)) : NewestCache α := moves.foldl step cache

variable (cache : NewestCache α)

theorem run_append (moves more : List (Move α)) :
    cache.run (moves ++ more) = (cache.run moves).run more := List.foldl_append

section Order

variable [Std.TransOrd α] {values : List α}

theorem put_keepsGreater (candidate : α) :
    KeepsGreater candidate cache.value? (cache.put candidate).value? := by
  rw [put_eq_store, store]
  by_cases h : cache.advances candidate
  · rw [if_pos h]
    exact .taken fun current hc => (advances_iff hc).mp h
  · rw [if_neg h]
    cases hv : cache.value? with
    | none => exact absurd (advances_of_none hv) h
    | some current =>
      have hngt : compare candidate current ≠ .gt := mt (advances_iff hv).mpr h
      exact .left (Std.OrientedCmp.isGE_of_isLE (Ordering.isLE_iff_ne_gt.mpr hngt))

theorem run_earliestGreatest (moves : List (Move α)) (h : EarliestGreatest values cache.value?) :
    EarliestGreatest (putSince values moves) (cache.run moves).value? := by
  induction moves generalizing cache values with
  | nil => exact h
  | cons move moves ih =>
    cases move with
    | put value => exact ih (cache.put value) ((cache.put_keepsGreater value).earliestGreatest h)
    | reset => exact ih cache.reset rfl

/-- What is stored does not decrease as long as there is no reset. -/
theorem run_puts_isGE (puts : List α) {value : α} (hv : cache.value? = some value) :
    ∃ later, (cache.run (puts.map .put)).value? = some later ∧
      (compare later value).isGE = true := by
  induction puts generalizing cache value with
  | nil => exact ⟨value, hv, isGE_self value⟩
  | cons candidate puts ih =>
    obtain ⟨kept, hkept, -, hbound⟩ := (cache.put_keepsGreater candidate).isGE
    obtain ⟨later, hlater, hge⟩ := ih (cache.put candidate) hkept
    exact ⟨later, hlater, Std.TransOrd.isGE_trans hge (hbound value hv)⟩

end Order

/-! ### Puts that overlap -/

/-- A cache and the puts under way: those that were found to advance it and are still to be stored.
What is past is in the order in which it took effect. -/
structure Overlap (α : Type) where
  cache : NewestCache α
  waiting : List α := []
  past : List (Move α) := []

namespace Overlap

/-- A put begins with a look at what is stored, and is over if it does not advance that. Otherwise
it is stored at some later time, when other puts and resets may have come in between. -/
inductive Phase (α : Type) where
  | look (candidate : α)
  | store (index : Nat)
  | reset

def step (overlap : Overlap α) : Phase α → Overlap α
  | .look candidate =>
    if overlap.cache.advances candidate then
      { overlap with waiting := overlap.waiting ++ [candidate] }
    else { overlap with past := overlap.past ++ [.put candidate] }
  | .store index =>
    match overlap.waiting[index]? with
    | none => overlap
    | some candidate =>
      { cache := overlap.cache.store candidate
        waiting := overlap.waiting.eraseIdx index
        past := overlap.past ++ [.put candidate] }
  | .reset =>
    { overlap with cache := overlap.cache.reset, past := overlap.past ++ [.reset] }

def run (overlap : Overlap α) (phases : List (Phase α)) : Overlap α := phases.foldl step overlap

/-- What a phase is the beginning of. -/
def Phase.begins? : Phase α → Option (Move α)
  | .look candidate => some (.put candidate)
  | .store _ => none
  | .reset => some .reset

/-- What is past, and what is under way. -/
def begun (overlap : Overlap α) : List (Move α) := overlap.past ++ overlap.waiting.map .put

variable {start : NewestCache α} {overlap : Overlap α}

/-- What is stored has come about by the puts and resets that are past. -/
theorem step_cache (h : overlap.cache = start.run overlap.past) (phase : Phase α) :
    (overlap.step phase).cache = start.run (overlap.step phase).past := by
  have hone (move : Move α) : start.run (overlap.past ++ [move]) = overlap.cache.step move := by
    rw [run_append, ← h]
    rfl
  cases phase with
  | look candidate =>
    by_cases hadvances : overlap.cache.advances candidate
    · simp only [step, if_pos hadvances]
      exact h
    · simp only [step, if_neg hadvances, hone, NewestCache.step, put_of_not_advances hadvances]
  | store index =>
    cases hw : overlap.waiting[index]? with
    | none =>
      simp only [step, hw]
      exact h
    | some candidate => simp only [step, hw, hone, NewestCache.step, put_eq_store]
  | reset => simp only [step, hone, NewestCache.step]

theorem run_cache (h : overlap.cache = start.run overlap.past) (phases : List (Phase α)) :
    (overlap.run phases).cache = start.run (overlap.run phases).past := by
  induction phases generalizing overlap with
  | nil => exact h
  | cons phase phases ih => exact ih (step_cache h phase)

/-- A put is under way from its look until it is over. -/
theorem step_begun (phase : Phase α) :
    (overlap.step phase).begun.Perm (overlap.begun ++ phase.begins?.toList) := by
  let puts := overlap.waiting.map Move.put
  -- what ends goes before the puts that are still under way
  have hended (move : Move α) :
      (overlap.past ++ ([move] ++ puts)).Perm (overlap.past ++ (puts ++ [move])) :=
    List.perm_append_comm.append_left overlap.past
  cases phase with
  | look candidate =>
    by_cases hadvances : overlap.cache.advances candidate
    · simp only [step, if_pos hadvances, begun, List.map_append, ← List.append_assoc]
      exact .refl _
    · simp only [step, if_neg hadvances, begun, List.append_assoc]
      exact hended (.put candidate)
  | store index =>
    cases hw : overlap.waiting[index]? with
    | none =>
      simp only [step, hw]
      exact .of_eq (List.append_nil _).symm
    | some candidate =>
      obtain ⟨hi, rfl⟩ := List.getElem?_eq_some_iff.mp hw
      simp only [step, hw, begun, Phase.begins?, Option.toList_none, List.append_nil,
        List.append_assoc]
      exact ((List.getElem_cons_eraseIdx_perm hi).map Move.put).append_left overlap.past
  | reset =>
    simp only [step, begun, List.append_assoc]
    exact hended .reset

theorem run_begun (phases : List (Phase α)) :
    (overlap.run phases).begun.Perm (overlap.begun ++ phases.filterMap Phase.begins?) := by
  induction phases generalizing overlap with
  | nil => exact .of_eq (List.append_nil _).symm
  | cons phase phases ih =>
    have hcons : (phase :: phases).filterMap Phase.begins? =
        phase.begins?.toList ++ phases.filterMap Phase.begins? := by cases phase <;> rfl
    rw [hcons, ← List.append_assoc]
    exact ih.trans ((step_begun phase).append_right _)

end Overlap

section Order

variable [Std.TransOrd α]

/-- Whatever is put in and however often the cache is reset, it stores the earliest among the
greatest of the values put in since the last reset, where the initial one counts as the first. It
does not decrease between resets, and in another order the same values leave one that is equal. Puts
that overlap come to the same as puts one after the other, in the order in which they end, and none
is lost. -/
theorem stores_earliest_greatest (moves : List (Move α)) :
    EarliestGreatest (putSince cache.value?.toList moves) (cache.run moves).value? ∧
      (∀ (puts : List α) value, (cache.run moves).value? = some value → ∃ later,
        (cache.run (moves ++ puts.map .put)).value? = some later ∧
          (compare later value).isGE = true) ∧
      (∀ puts others : List α, puts.Perm others →
        Option.Rel (fun value other => compare value other = .eq)
          (cache.run (moves ++ puts.map .put)).value?
          (cache.run (moves ++ others.map .put)).value?) ∧
      ∀ phases : List (Overlap.Phase α),
        let overlap := ({ cache } : Overlap α).run phases
        EarliestGreatest (putSince cache.value?.toList overlap.past) overlap.cache.value? ∧
          (overlap.past ++ overlap.waiting.map Move.put).Perm
            (phases.filterMap Overlap.Phase.begins?) := by
  have hstored (later : List (Move α)) :
      EarliestGreatest (putSince cache.value?.toList later) (cache.run later).value? :=
    cache.run_earliestGreatest later (earliestGreatest_toList cache.value?)
  refine ⟨hstored moves, fun puts value hv => ?_, fun puts others hp => ?_, fun phases => ?_⟩
  · rw [run_append]
    exact (cache.run moves).run_puts_isGE puts hv
  · have hputs := (hstored (moves ++ puts.map .put)).greatest
    have hothers := (hstored (moves ++ others.map .put)).greatest
    rw [putSince_append, putSince_puts] at hputs hothers
    exact hputs.rel_of_perm hothers (hp.append_left _)
  · intro overlap
    have hcache : overlap.cache = cache.run overlap.past := Overlap.run_cache rfl phases
    rw [hcache]
    exact ⟨hstored overlap.past, Overlap.run_begun phases⟩

/-- A record that is compared by its key alone. -/
structure Entry where
  key : Nat
  label : String
deriving DecidableEq

instance : Ord Entry := ⟨compareOn Entry.key⟩

instance : Std.TransOrd Entry := inferInstanceAs (Std.TransCmp (compareOn Entry.key))

/-- Of two records with the same key the one put in first is stored, so that the order matters to
which of them it is, but not to its key. When both are under way it is the one that ends first. -/
theorem first_of_equal_entries_stored :
    let first : Entry := ⟨2, "first"⟩
    let second : Entry := ⟨2, "second"⟩
    let cache : NewestCache Entry := { value? := some ⟨1, "initial"⟩ }
    let overlap := ({ cache } : Overlap Entry).run [.look first, .look second, .store 1, .store 0]
    (cache.run [.put first, .put second]).value? = some first ∧
      (cache.run [.put second, .put first]).value? = some second ∧
      Option.Rel (fun entry other => compare entry other = .eq)
        (cache.run [.put first, .put second]).value?
        (cache.run [.put second, .put first]).value? ∧
      overlap.cache.value? = some second ∧
      EarliestGreatest [⟨1, "initial"⟩, second, first] overlap.cache.value? := by
  intro first second cache overlap
  obtain ⟨-, -, hreordered, hoverlap⟩ := stores_earliest_greatest cache []
  exact ⟨by decide +kernel, by decide +kernel,
    hreordered [first, second] [second, first] (.swap second first []), by decide +kernel,
    (hoverlap [.look first, .look second, .store 1, .store 0]).1⟩

end Order

end NewestCache

end ReplicaRouting
