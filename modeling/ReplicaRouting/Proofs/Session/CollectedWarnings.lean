import ReplicaRouting.Proofs.Obliging
import ReplicaRouting.Proofs.Session.Custody
import ReplicaRouting.Proofs.Session.Phases

/-!
The warnings a session reports. Whatever becomes of its handles, it reports the first hundred
distinct ones of all that it has come across: what each handle had to say when it was closed, and
what the handle in use had to say whenever the warnings were asked for.
-/

namespace ReplicaRouting

namespace Warnings

/-- The first of the distinct entries of a sequence, as many as are kept. -/
def firstDistinct (sequence : List Warning) : List Warning := sequence.eraseDups.take capacity

theorem firstDistinct_concat_of_mem {sequence : List Warning} {warning : Warning}
    (h : warning ∈ sequence) : firstDistinct (sequence ++ [warning]) = firstDistinct sequence := by
  have hnone : [warning].removeAll sequence = [] := by simp [List.removeAll, h]
  rw [firstDistinct, List.eraseDups_append, hnone, List.eraseDups_nil, List.append_nil,
    firstDistinct]

theorem firstDistinct_concat_of_not_mem {sequence : List Warning} {warning : Warning}
    (h : warning ∉ sequence) :
    firstDistinct (sequence ++ [warning]) = (sequence.eraseDups ++ [warning]).take capacity := by
  have hone : [warning].removeAll sequence = [warning] := by simp [List.removeAll, h]
  rw [firstDistinct, List.eraseDups_append, hone]
  rfl

/-- To save one warning more is to have it one place further in the sequence. -/
theorem save_firstDistinct (sequence : List Warning) (warning : Warning) :
    ({ kept := firstDistinct sequence } : Warnings).save warning =
      { kept := firstDistinct (sequence ++ [warning]) } := by
  by_cases hm : warning ∈ sequence
  · -- a warning that has come up is among the kept ones, or came up when there was no room left
    have hkept : (firstDistinct sequence).length ≥ capacity ∨ warning ∈ firstDistinct sequence := by
      by_cases hroom : sequence.eraseDups.length ≤ capacity
      · refine .inr ?_
        rw [firstDistinct, List.take_of_length_le hroom]
        exact List.mem_eraseDups.mpr hm
      · refine .inl ?_
        rw [firstDistinct, List.length_take]
        omega
    rw [save, if_pos hkept, firstDistinct_concat_of_mem hm]
  · -- a new one is the next distinct one, and it is kept exactly if there is room for it
    have hfresh : warning ∉ firstDistinct sequence := fun hf =>
      hm (List.mem_eraseDups.mp (List.mem_of_mem_take hf))
    rw [firstDistinct_concat_of_not_mem hm]
    by_cases hroom : sequence.eraseDups.length < capacity
    · have hall : firstDistinct sequence = sequence.eraseDups :=
        List.take_of_length_le (Nat.le_of_lt hroom)
      have hlength : (sequence.eraseDups ++ [warning]).length ≤ capacity := by
        rw [List.length_append]
        exact hroom
      have hnot : ¬(firstDistinct sequence).length ≥ capacity := by
        rw [hall]
        omega
      rw [save, if_neg (not_or.mpr ⟨hnot, hfresh⟩), hall,
        List.take_of_length_le hlength]
    · have hfull : (firstDistinct sequence).length ≥ capacity := by
        rw [firstDistinct, List.length_take]
        omega
      rw [save, if_pos (.inl hfull), List.take_append_of_le_length (by omega)]
      rfl

theorem saveAll_firstDistinct (sequence more : List Warning) :
    ({ kept := firstDistinct sequence } : Warnings).saveAll more =
      { kept := firstDistinct (sequence ++ more) } := by
  induction more generalizing sequence with
  | nil => rw [List.append_nil]; rfl
  | cons warning more ih =>
    calc ({ kept := firstDistinct sequence } : Warnings).saveAll (warning :: more)
        = (({ kept := firstDistinct sequence } : Warnings).save warning).saveAll more := rfl
      _ = { kept := firstDistinct (sequence ++ warning :: more) } := by
        rw [save_firstDistinct, ih, List.append_assoc, List.singleton_append]

theorem saveAll_append (warnings : Warnings) (first second : List Warning) :
    (warnings.saveAll first).saveAll second = warnings.saveAll (first ++ second) :=
  List.foldl_append.symm

/-- What is known already changes nothing. -/
theorem firstDistinct_append_of_subset {sequence more : List Warning} (h : more ⊆ sequence) :
    firstDistinct (sequence ++ more) = firstDistinct sequence := by
  have hnone : more.removeAll sequence = [] := by
    rw [List.removeAll, List.filter_eq_nil_iff]
    intro warning hw
    simp [h hw]
  rw [firstDistinct, List.eraseDups_append, hnone, List.eraseDups_nil, List.append_nil,
    firstDistinct]

end Warnings

/-- Whether a connection is closed. -/
def Event.closes : Event → Bool
  | .called _ .close _ => true
  | _ => false

/-- Every connection that is closed has just been asked for its warnings. -/
inductive Attended : List Event → Prop where
  | done : Attended []
  | passed {event : Event} {events : List Event} (h : event.closes = false)
      (rest : Attended events) : Attended (event :: events)
  | closed (connection : ConnectionId) (read : Except Fault (List Warning))
      (result : Except Fault Unit) {events : List Event} (rest : Attended events) :
    Attended (.collected connection read :: .called connection .close result :: events)

/-- What the connections that were closed had to say, or why that could not be read. -/
def atClosings : List Event → List Warning
  | .collected _ read :: .called _ .close _ :: events => Warnings.gathered read ++ atClosings events
  | _ :: events => atClosings events
  | [] => []

section Attendance

variable {events more : List Event}

theorem Attended.atClosings_cons (h : Attended events) (event : Event) :
    atClosings (event :: events) = atClosings events := by
  apply atClosings.eq_2
  -- what is attended does not begin with a connection being closed
  rintro _ _ _ _ _ - rfl
  cases h with
  | passed hc => cases hc

theorem Attended.append (h : Attended events) (hm : Attended more) : Attended (events ++ more) := by
  induction h with
  | done => exact hm
  | passed he _ ih => exact .passed he ih
  | closed connection read result _ ih => exact .closed connection read result ih

theorem Attended.atClosings_append (h : Attended events) (hm : Attended more) :
    atClosings (events ++ more) = atClosings events ++ atClosings more := by
  induction h with
  | done => rfl
  | @passed event _ he rest ih =>
    rw [List.cons_append, (rest.append hm).atClosings_cons, rest.atClosings_cons, ih]
  | closed connection read result _ ih =>
    simp only [List.cons_append, atClosings]
    rw [ih, List.append_assoc]

theorem attended_of_unclosed (h : ∀ event ∈ events, event.closes = false) : Attended events := by
  induction events with
  | nil => exact .done
  | cons event events ih =>
    have hrest := ih fun other ho => h other (List.mem_cons_of_mem _ ho)
    exact .passed (h event List.mem_cons_self) hrest

theorem atClosings_of_unclosed (h : ∀ event ∈ events, event.closes = false) :
    atClosings events = [] := by
  induction events with
  | nil => rfl
  | cons event events ih =>
    have hrest : ∀ other ∈ events, other.closes = false := fun other ho =>
      h other (List.mem_cons_of_mem _ ho)
    rw [(attended_of_unclosed hrest).atClosings_cons, ih hrest]

theorem Event.closes_of_isMild {event : Event} (h : event.isMild = true) :
    event.closes = false := by
  unfold Event.closes
  split
  · cases h
  · rfl

end Attendance

namespace Session

/-! ### Gathering -/

/-- The session has saved what the handles that were closed had to say, and nothing else. -/
structure Gathers (session later : Session) (events : List Event) : Prop where
  attended : Attended events
  warnings : later.warnings = session.warnings.saveAll (atClosings events)

section Courses

variable {session between later : Session} {decision : Decision} {events more : List Event}
  {result : Except Fault Handle} {ended : Except Fault Unit}

theorem Gathers.of_mild (h : ∀ event ∈ events, event.isMild = true)
    (hw : later.warnings = session.warnings) : Gathers session later events := by
  have hunclosed : ∀ event ∈ events, event.closes = false := fun event he =>
    Event.closes_of_isMild (h event he)
  refine ⟨attended_of_unclosed hunclosed, ?_⟩
  rw [hw, atClosings_of_unclosed hunclosed]
  rfl

theorem Gathers.trans (h : Gathers session between events) (hm : Gathers between later more) :
    Gathers session later (events ++ more) where
  attended := h.attended.append hm.attended
  warnings := by
    rw [hm.warnings, h.warnings, Warnings.saveAll_append, h.attended.atClosings_append hm.attended]

theorem Gathers.opened (kind : HandleKind) (opened : Except Fault ConnectionId)
    (h : Gathers between later events) (hw : between.warnings = session.warnings) :
    Gathers session later (.opened kind opened :: events) where
  attended := .passed rfl h.attended
  warnings := by rw [h.warnings, hw, h.attended.atClosings_cons]

theorem Calling.gathers {connection : ConnectionId} {parameters : Parameters}
    (h : Calling connection parameters.calls ended events) (session : Session) :
    Gathers session session events :=
  .of_mild (h.mild fun _ hc => ends_of_mem_calls parameters hc) rfl

theorem Closing.gathers {kind : HandleKind} (h : Closing kind session ended later events) :
    Gathers session later events := by
  cases h with
  | vacant => exact .of_mild (by simp) rfl
  | closed held read =>
    refine ⟨.closed _ read ended .done, ?_⟩
    simp only [atClosings, List.append_nil]

theorem Aborting.gathers {deadline : Span} {kind : HandleKind}
    (h : Aborting deadline kind session ended later events) : Gathers session later events := by
  cases h with
  | vacant => exact .of_mild (by simp) rfl
  | aborted held =>
    refine ⟨.passed rfl .done, ?_⟩
    cases kind <;> rfl

theorem Releasing.gathers {main : Handle} (h : Releasing main session ended later events) :
    Gathers session later events := by
  cases h with
  | dropped => exact .of_mild (by simp) rfl
  | closed _ closes => exact closes.gathers

theorem TakingMain.gathers (h : TakingMain session decision result later events) :
    Gathers session later events := by
  cases h with
  | kept _ releases => exact releases.gathers
  | refused => exact .of_mild (by simp [Event.isMild]) rfl
  | unreleased _ releases => exact releases.gathers.opened _ _ rfl
  | opened _ releases brings => exact (releases.gathers.trans (brings.gathers later)).opened _ _ rfl

theorem Pinning.gathers (h : Pinning session decision result later events) :
    Gathers session later events := by
  cases h with
  | taken takes =>
    have hg := takes.gathers
    refine ⟨hg.attended, ?_⟩
    cases result <;> exact hg.warnings

theorem Diverting.gathers (h : Diverting session decision result later events) :
    Gathers session later events := by
  cases h with
  | forGood _ takes => exact takes.gathers
  | untilCaughtUp _ takes => exact ⟨takes.gathers.attended, takes.gathers.warnings⟩

theorem TakingReplica.gathers (h : TakingReplica session decision result later events) :
    Gathers session later events := by
  cases h with
  | kept => exact .of_mild (by simp) rfl
  | refused => exact .of_mild (by simp [Event.isMild]) rfl
  | opened _ brings => exact (brings.gathers _).opened _ _ rfl

theorem Consulting.gathers (h : Consulting session decision ended later events) :
    Gathers session later events := by
  cases h with
  | idle faults => exact .of_mild (refusals_mild faults) rfl
  | adopted faults _ brings =>
    have hrefused : Gathers session session (refusals faults) := .of_mild (refusals_mild faults) rfl
    exact hrefused.trans ((brings.gathers _).opened _ _ rfl)

theorem Following.gathers (h : Following session decision result later events) :
    Gathers session later events := by
  -- parts that come one after the other gather one after the other, also where the last one fails
  cases h with
  | main takes => exact takes.gathers
  | withoutReplica _ diverts => exact diverts.gathers
  | unadopted _ consults => exact consults.gathers
  | diverted _ consults diverts => exact consults.gathers.trans diverts.gathers
  | unclosed consults _ closes => exact consults.gathers.trans closes.gathers
  | returned consults _ closes takes =>
    have ht := takes.gathers
    exact consults.gathers.trans (closes.gathers.trans ⟨ht.attended, ht.warnings⟩)
  | stayed _ _ consults takes =>
    have ht := takes.gathers
    exact consults.gathers.trans ⟨ht.attended, ht.warnings⟩

theorem Gathers.concluded (h : Gathers session later events) (decision : Decision)
    (result : Except Fault Handle) :
    Gathers session (later.concluded decision result) events := by
  refine ⟨h.attended, ?_⟩
  cases result <;> exact h.warnings

theorem Ending.gathers
    {slot : HandleKind → Session → Except Fault Unit → Session → List Event → Prop}
    (hslot : ∀ {kind session result later events}, slot kind session result later events →
      Gathers session later events)
    (h : Ending slot session ended later events) : Gathers session later events := by
  cases h with
  | again => exact .of_mild (by simp) rfl
  | @ended _ _ between _ _ _ _ mainEnds replicaEnds =>
    have hmain := hslot mainEnds
    have hfirst : Gathers session between _ := ⟨hmain.attended, hmain.warnings⟩
    exact hfirst.trans (hslot replicaEnds)

/-- Every operation that takes a handle or ends the session gathers, failing ones included. -/
theorem Performing.gathers {operation : Operation} {answer : Except Fault Answer}
    (h : Performing session operation answer later events) (ha : operation.isAside = false) :
    Gathers session later events := by
  cases h with
  | read _ reads =>
    cases reads with
    | refused => exact .of_mild (by simp) rfl
    | followed _ settled follows => exact follows.gathers.concluded settled _
  | write seed writes =>
    cases writes with
    | refused => exact .of_mild (by simp) rfl
    | pinned _ pins => exact pins.gathers.concluded seed _
  | close ends => exact ends.gathers fun hc => hc.gathers
  | abort _ ends => exact ends.gathers fun ha => ha.gathers
  | aside isAside => rw [isAside] at ha; cases ha

theorem Performing.attended {operation : Operation} {answer : Except Fault Answer}
    (h : Performing session operation answer later events) : Attended events := by
  cases ha : operation.isAside with
  | false => exact (h.gathers ha).attended
  | true =>
    cases h with
    | aside _ _ haside =>
      exact attended_of_unclosed fun event he => Event.closes_of_isMild (haside.mild event he)
    | _ => cases ha

theorem Performing.atClosings_of_aside {operation : Operation} {answer : Except Fault Answer}
    (h : Performing session operation answer later events) (ha : operation.isAside = true) :
    atClosings events = [] := by
  cases h with
  | aside _ _ haside =>
    exact atClosings_of_unclosed fun event he => Event.closes_of_isMild (haside.mild event he)
  | _ => cases ha

end Courses

/-! ### Taking up -/

section Turns

variable {σ : Type} (among : Collaborators σ)

/-- What the handle in use has to say, if there is one. -/
def reported (session : Session) (world : σ) : Except Fault (List Warning) :=
  match session.currentHandle with
  | some handle => (among.database.warnings handle.connection world).1
  | none => .ok []

/-- The warnings that could be read. -/
def legible : Except Fault (List Warning) → List Warning
  | .ok warnings => warnings
  | .error _ => []

/-- The warnings that come up in a turn, in order. -/
def takenUp (session : Session) (turn : Turn σ) : List Warning :=
  atClosings (entries among.watched session turn) ++
    if turn.operation = .listWarnings then legible (reported among session turn.world) else []

/-- Whether the turn has the warnings cleared, and that succeeds. -/
def clears (session : Session) (turn : Turn σ) : Bool :=
  turn.operation = .clearWarnings && (session.answer among turn).isOk

/-- All that has come up since the warnings were last cleared, once the turns have been taken. -/
def takenSince (earlier : List Warning) : List (Turn σ) → Session → List Warning
  | [], _ => earlier
  | turn :: turns, session =>
    takenSince
      (if clears among session turn then [] else earlier ++ takenUp among session turn)
      turns (session.after among turn)

/-- All that has come up in the turns of a session, since the warnings were last cleared. -/
def taken (turns : List (Turn σ)) (session : Session) : List Warning :=
  takenSince among [] turns session

/-- Turns in which nothing is cleared and nothing comes up but what is known. -/
def Uneventful (known : List Warning) : List (Turn σ) → Session → Prop
  | [], _ => True
  | turn :: turns, session =>
    clears among session turn = false ∧ takenUp among session turn ⊆ known ∧
      Uneventful known turns (session.after among turn)

variable {session : Session}

theorem reported_of_closed (h : session.closed = true) (world : σ) :
    reported among session world = .ok [] := by
  simp only [reported, currentHandle, phase_of_closed h]

/-- What asking for the warnings comes to in an open session. -/
theorem listWarnings_of_open (h : session.closed = false) (world : σ) :
    (session.answer among ⟨.listWarnings, world⟩ =
        (reported among session world).map fun fresh =>
          .warnings (session.warnings.saveAll fresh).kept) ∧
      session.after among ⟨.listWarnings, world⟩ =
        { session with
          warnings := session.warnings.saveAll (legible (reported among session world)) } := by
  have hopen : (⟨session, world⟩ : Scene σ).session.closed = false := h
  simp only [answer, after, perform, Fallible.map_apply, listWarnings]
  rw [Fallible.bind_of_ok (ensureOpen_of_open hopen), Act.session_bind]
  unfold reported
  cases session.currentHandle with
  | none => exact ⟨rfl, rfl⟩
  | some handle =>
    simp only [Act.request_bind]
    rcases among.database.warnings handle.connection world with ⟨_ | fresh, later⟩ <;>
      exact ⟨rfl, rfl⟩

theorem listWarnings_of_closed (h : session.closed = true) (world : σ) :
    session.answer among ⟨.listWarnings, world⟩ = .error (.sessionClosed session.id) ∧
      session.after among ⟨.listWarnings, world⟩ = session := by
  have hclosed : (⟨session, world⟩ : Scene σ).session.closed = true := h
  simp only [answer, after, perform, Fallible.map_apply, listWarnings]
  rw [Fallible.bind_of_error (ensureOpen_of_closed hclosed)]
  exact ⟨rfl, rfl⟩

theorem listWarnings_warnings (world : σ) :
    (session.after among ⟨.listWarnings, world⟩).warnings =
      session.warnings.saveAll (legible (reported among session world)) := by
  cases hc : session.closed with
  | true =>
    rw [(listWarnings_of_closed among hc world).2, reported_of_closed among hc]
    rfl
  | false => rw [(listWarnings_of_open among hc world).2]

/-- Clearing either fails and changes nothing, or leaves no warnings. -/
theorem clearWarnings_clears (world : σ) :
    session.after among ⟨.clearWarnings, world⟩ =
      if clears among session ⟨.clearWarnings, world⟩ then { session with warnings := {} }
      else session := by
  simp only [clears, answer, after, perform, clearWarnings, bind_assoc, decide_true, Bool.true_and]
  by_cases hc : (⟨session, world⟩ : Scene σ).session.closed = true
  · rw [Fallible.bind_of_error (ensureOpen_of_closed hc)]
    rfl
  · rw [Fallible.bind_of_ok (ensureOpen_of_open (Bool.eq_false_iff.mpr hc)), Act.session_bind,
      Act.request_bind]
    rcases among.database.callIfHeld session.currentHandle .clearWarnings world
      with ⟨_ | _, later⟩ <;> rfl

/-- A turn adds what comes up to what has been saved, unless it has the warnings cleared. -/
theorem after_warnings (turn : Turn σ) :
    (session.after among turn).warnings =
      if clears among session turn then {}
      else session.warnings.saveAll (takenUp among session turn) := by
  obtain ⟨operation, world⟩ := turn
  have hperforming := turn_performing among session ⟨operation, world⟩
  cases ha : operation.isAside with
  | false =>
    have hlist : operation ≠ .listWarnings := by rintro rfl; cases ha
    have hclear : operation ≠ .clearWarnings := by rintro rfl; cases ha
    rw [(hperforming.gathers ha).warnings]
    simp only [clears, takenUp, hlist, hclear, decide_false, Bool.false_and, Bool.false_eq_true,
      ↓reduceIte, List.append_nil]
  | true =>
    -- nothing is closed, so that only asking for the warnings and clearing them are left
    have hnone := hperforming.atClosings_of_aside ha
    cases hs : operation.isSilent with
    | true =>
      have hlist : operation ≠ .listWarnings := by rintro rfl; cases hs
      have hclear : operation ≠ .clearWarnings := by rintro rfl; cases hs
      have hkept : (session.after among ⟨operation, world⟩).warnings = session.warnings :=
        perform_silent among (fun _ _ => rfl) hs ⟨session, world⟩
      rw [hkept]
      simp only [clears, takenUp, hnone, hlist, hclear, decide_false, Bool.false_and,
        Bool.false_eq_true, ↓reduceIte, List.append_nil]
      rfl
    | false =>
      cases operation with
      | listWarnings =>
        rw [listWarnings_warnings]
        simp [clears, takenUp, hnone]
      | clearWarnings =>
        rw [clearWarnings_clears]
        split
        · rfl
        · simp only [takenUp, hnone, reduceCtorEq, ↓reduceIte, List.append_nil]
          rfl
      | _ => exact absurd (hs.symm.trans ha) Bool.false_ne_true

theorem run_warnings_since (earlier : List Warning) (turns : List (Turn σ))
    (h : session.warnings = { kept := Warnings.firstDistinct earlier }) :
    (run among turns session).warnings =
      { kept := Warnings.firstDistinct (takenSince among earlier turns session) } := by
  induction turns generalizing earlier session with
  | nil => exact h
  | cons turn turns ih =>
    apply ih
    rw [after_warnings]
    split
    · rfl
    · rw [h, Warnings.saveAll_firstDistinct]

/-- A session has saved the first distinct ones of the warnings that have come up. -/
theorem run_warnings (id : String) (turns : List (Turn σ)) :
    (run among turns { id }).warnings =
      { kept := Warnings.firstDistinct (taken among turns { id }) } :=
  run_warnings_since among [] turns rfl

theorem takenSince_append (earlier : List Warning) (turns more : List (Turn σ))
    (session : Session) :
    takenSince among earlier (turns ++ more) session =
      takenSince among (takenSince among earlier turns session) more (run among turns session) := by
  induction turns generalizing earlier session with
  | nil => rfl
  | cons turn turns ih => exact ih _ _

theorem Uneventful.firstDistinct_eq {known earlier : List Warning} {turns : List (Turn σ)}
    (h : Uneventful among known turns session) (hk : known ⊆ earlier) :
    Warnings.firstDistinct (takenSince among earlier turns session) =
      Warnings.firstDistinct earlier := by
  induction turns generalizing earlier session with
  | nil => rfl
  | cons turn turns ih =>
    obtain ⟨hclears, htaken, hrest⟩ := h
    have hlater : known ⊆ earlier ++ takenUp among session turn :=
      List.Subset.trans hk (List.subset_append_left _ _)
    rw [takenSince, hclears, if_neg Bool.false_ne_true, ih hrest hlater,
      Warnings.firstDistinct_append_of_subset (List.Subset.trans htaken hk)]

/-- What a session answers when it is asked for the warnings. -/
theorem answer_listWarnings (id : String) (turns : List (Turn σ)) (world : σ) :
    (run among turns { id }).answer among ⟨.listWarnings, world⟩ =
      if (run among turns { id }).closed then .error (.sessionClosed (run among turns { id }).id)
      else (reported among (run among turns { id }) world).map fun _ =>
        .warnings
          (Warnings.firstDistinct (taken among (turns ++ [⟨.listWarnings, world⟩]) { id })) := by
  have hsaved := run_warnings among id (turns ++ [⟨.listWarnings, world⟩])
  rw [run_concat, listWarnings_warnings] at hsaved
  split
  · next hc => exact (listWarnings_of_closed among hc world).1
  · next hc =>
    rw [(listWarnings_of_open among (Bool.eq_false_iff.mpr hc) world).1]
    cases hr : reported among (run among turns { id }) world with
    | error fault => rfl
    | ok fresh =>
      rw [hr, legible] at hsaved
      simp only [Except.map, hsaved]

theorem warnings_of_answer {id : String} {turns : List (Turn σ)} {world : σ} {answer : Answer}
    (h : (run among turns { id }).answer among ⟨.listWarnings, world⟩ = .ok answer) :
    answer = .warnings
      (Warnings.firstDistinct (taken among (turns ++ [⟨.listWarnings, world⟩]) { id })) := by
  rw [answer_listWarnings] at h
  split at h
  · cases h
  · cases hr : reported among (run among turns { id }) world with
    | error fault => rw [hr] at h; cases h
    | ok fresh =>
      rw [hr] at h
      exact (Except.ok.inj h).symm

/-- In every run each handle is asked for its warnings when it is closed. A session that is asked
for the warnings, if it is open and can read those of the handle in use, answers the first distinct
ones of all that has come up. It answers the same again as long as nothing new comes up. To clear
them in vain changes nothing. -/
theorem warnings_survive_switches (id : String) (turns : List (Turn σ)) :
    let session := run among turns { id }
    let listing (world : σ) : Turn σ := ⟨.listWarnings, world⟩
    let asked (world : σ) := turns ++ [listing world]
    (∀ turn, Attended (entries among.watched session turn)) ∧
      (∀ world, session.answer among (listing world) =
        if session.closed then .error (.sessionClosed session.id)
        else (reported among session world).map fun _ =>
          .warnings (Warnings.firstDistinct (taken among (asked world) { id }))) ∧
      (∀ world between later,
        Uneventful among (taken among (asked world) { id }) (between ++ [listing later])
          (run among (asked world) { id }) →
        ∀ first second, session.answer among (listing world) = .ok first →
          (run among (asked world ++ between) { id }).answer among (listing later) = .ok second →
          second = first) ∧
      ∀ world fault, session.answer among ⟨.clearWarnings, world⟩ = .error fault →
        session.after among ⟨.clearWarnings, world⟩ = session := by
  intro session listing asked
  refine ⟨fun turn => ?attended, answer_listWarnings among id turns, ?again, ?uncleared⟩
  case attended => exact (turn_performing among session turn).attended
  case again =>
    intro world between later hquiet first second hfirst hsecond
    -- both answers are the first distinct ones, the second of a longer sequence that adds none
    rw [warnings_of_answer among hsecond, warnings_of_answer among hfirst, List.append_assoc]
    congr 1
    rw [taken, takenSince_append]
    exact hquiet.firstDistinct_eq among (List.Subset.refl _)
  case uncleared =>
    intro world fault hfault
    have hvain : clears among session ⟨.clearWarnings, world⟩ = false := by
      simp only [clears, hfault]
      rfl
    rw [clearWarnings_clears, hvain, if_neg Bool.false_ne_true]

/-- Main and the replica each have a warning of their own, and main does not have its own
cleared. -/
def talkative : Deployment Bool :=
  { Deployment.obliging with
    database := { Database.obliging Bool with
      call := fun connection call world =>
        let fails : Bool := (connection, call) = (⟨0⟩, .clearWarnings)
        (if fails then .error (.operationFailed .main "clear_warnings" "refused") else .ok (),
          world)
      warnings := fun connection world =>
        let message := if connection = ⟨0⟩ then "from main" else "from the replica"
        (.ok [{ message }], world) } }

/-- A write has the session part with the replica. Its warning is still reported, together with that
of main, and again after the attempt to clear them. -/
theorem warning_of_replica_survives_write :
    let among := talkative.collaborators
    let turns : List (Turn Bool) :=
      [⟨.readHandle (.read "SELECT 1"), true⟩, ⟨.writeHandle (.write "UPDATE t SET x = 1"), true⟩]
    let session := run among turns { id := "a" }
    let listing : Turn Bool := ⟨.listWarnings, true⟩
    let clearing : Turn Bool := ⟨.clearWarnings, true⟩
    let both : Answer := .warnings [{ message := "from the replica" }, { message := "from main" }]
    session.hand .replica = none ∧ session.answer among listing = .ok both ∧
      session.after among clearing = session ∧
      ((session.after among listing).after among clearing).answer among listing = .ok both := by
  intro among turns session listing clearing both
  obtain ⟨-, hanswer, hagain, hvain⟩ := warnings_survive_switches among "a" turns
  have hfirst : session.answer among listing = .ok both := by
    rw [hanswer true]
    decide +kernel
  have hquiet : Uneventful among (taken among (turns ++ [listing]) { id := "a" })
      [clearing, listing] (run among (turns ++ [listing]) { id := "a" }) := by
    refine ⟨?_, ?_, ?_, ?_, trivial⟩ <;> decide +kernel
  have hrefused : session.answer among clearing =
      .error (.operationFailed .main "clear_warnings" "refused") := by
    decide +kernel
  have hok : ((run among (turns ++ [listing] ++ [clearing]) { id := "a" }).answer among
      listing).isOk = true := by
    decide +kernel
  cases hsecond : (run among (turns ++ [listing] ++ [clearing]) { id := "a" }).answer among
      listing with
  | error fault =>
    rw [hsecond] at hok
    cases hok
  | ok second =>
    rw [hagain true [clearing] true hquiet both second hfirst hsecond] at hsecond
    exact ⟨by decide +kernel, hfirst, hvain true _ hrefused, hsecond⟩

end Turns

end Session

end ReplicaRouting
