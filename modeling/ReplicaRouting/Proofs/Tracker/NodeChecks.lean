import ReplicaRouting.Proofs.Session.Account
import ReplicaRouting.Proofs.Tracker.Agreement

/-!
What a tracker of many nodes does for its answer. The nodes are checked one after another, up to the
first that has not caught up. For each of them at most one handle is opened, and that is closed
again before the next node is looked at.
-/

namespace ReplicaRouting

open Chronicle

namespace ClusterTracker

variable {σ ν μ : Type}

/-- Without nodes nothing is asked and the answer is no. -/
theorem tracker_run {access : NodeAccess σ ν} {inner : Tracker σ} {log : Log σ}
    {discover : Consult σ Unit Supply (Except Fault (Option (List ν)))}
    (reply : Unit → μ → σ → Supply × μ × σ) (memory : μ) (world : σ) :
    (tracker access discover inner log).isConsistent.run reply memory world =
      let (found, memory, asked) := discover.run reply memory world
      match found with
      | .ok (some (node :: nodes)) =>
        let (consistent, checked) := checkAll access inner log (node :: nodes) asked
        (consistent, memory, checked)
      | .ok _ => (false, memory, log .noNodesKnown asked)
      | .error fault => (false, memory, log (.discoveryFailed fault) asked) := by
  unfold tracker
  dsimp only
  rw [Consult.run_bind]
  rcases discover.run reply memory world with ⟨found, kept, asked⟩
  rcases found with fault | (_ | (_ | ⟨node, nodes⟩)) <;> rfl

/-- What may happen while nodes are checked. -/
inductive NodeEvent (ν : Type) where
  /-- The tracker for single nodes is asked. -/
  | consulted
  | connected (node : ν) (result : Except Fault Handle)
  /-- The tracker for single nodes has answered. -/
  | judged (consistent : Bool)
  | closed (handle : Handle) (result : Except Fault Unit)
  | noted (notice : Notice)

def NodeEvent.opens (handle : Handle) : NodeEvent ν → Bool
  | connected _ (.ok opened) => opened = handle
  | _ => false

def NodeEvent.closes (handle : Handle) : NodeEvent ν → Bool
  | closed handle' _ => handle' = handle
  | _ => false

section Watching

/-- The ways to nodes, with an entry for every opening and every closing. -/
def watchedAccess (access : NodeAccess σ ν) : NodeAccess (Chronicle σ (NodeEvent ν)) ν where
  name := access.name
  connect node := entering (.connected node) (access.connect node)
  close handle := entering (.closed handle) (access.close handle)

/-- The tracker for single nodes, with an entry for every question to it and for its answer. -/
def watchedInner (inner : Tracker σ) : Tracker (Chronicle σ (NodeEvent ν)) where
  write main := onWorld (inner.write main)
  preCommit main := onWorld (inner.preCommit main)
  isConsistent := do
    Consult.change (noting .consulted id)
    let consistent ← inner.isConsistent.silently
    Consult.change (noting (.judged consistent) id)
    return consistent

def watchedLog (log : Log σ) : Log (Chronicle σ (NodeEvent ν)) := fun notice =>
  noting (.noted notice) (log notice)

/-- The tracker of all nodes, with an account of what it does. How nodes are discovered is passed
over. -/
def watched (access : NodeAccess σ ν)
    (discover : Consult σ Unit Supply (Except Fault (Option (List ν)))) (inner : Tracker σ)
    (log : Log σ) : Tracker (Chronicle σ (NodeEvent ν)) :=
  tracker (watchedAccess access) discover.silently (watchedInner inner) (watchedLog log)

end Watching

/-- The check of one node: the openings that failed, the handle that was opened, if any, with what
came of its closing, and the answer. -/
structure NodeCheck (ν : Type) where
  node : ν
  refused : List Fault
  opened : Option (Handle × Except Fault Unit)
  consistent : Bool

/-- What is entered when the handle of a node is asked for. -/
def openings (node : ν) (refused : List Fault) (opened : Option Handle) : List (NodeEvent ν) :=
  refused.map (fun fault => .connected node (.error fault)) ++
    opened.toList.map fun handle => .connected node (.ok handle)

/-- What is entered when the handle of a node is closed, if it was opened. -/
def closing (name : String) : Option (Handle × Except Fault Unit) → List (NodeEvent ν)
  | none => []
  | some (handle, .ok ()) => [.closed handle (.ok ())]
  | some (handle, .error fault) =>
    [.closed handle (.error fault), .noted (.nodeCloseFailed name fault)]

/-- What is entered in the course of a check: the question, the openings, the answer, and the
closing. -/
def NodeCheck.events (name : ν → String) (check : NodeCheck ν) : List (NodeEvent ν) :=
  .consulted :: openings check.node check.refused (check.opened.map (·.1)) ++
    .judged check.consistent :: .noted (.nodeChecked (name check.node) check.consistent) ::
      closing (name check.node) check.opened

/-- The checks of nodes in their order, up to the first unfavourable one. -/
structure InTurn (nodes : List ν) (checks : List (NodeCheck ν)) : Prop where
  ordered : checks.map (·.node) <+: nodes
  stops : ∀ earlier check later, checks = earlier ++ check :: later → later ≠ [] →
    check.consistent = true
  goesOn : (∀ check ∈ checks, check.consistent = true) → checks.map (·.node) = nodes

theorem InTurn.unfavourable {check : NodeCheck ν} (h : check.consistent = false)
    (nodes : List ν) : InTurn (check.node :: nodes) [check] where
  ordered := List.prefix_append [check.node] nodes
  stops := by
    intro earlier other later hsplit hlater
    have hlength : 1 = earlier.length + (later.length + 1) := by
      simpa using congrArg List.length hsplit
    have hpos : 0 < later.length := List.length_pos_iff.mpr hlater
    omega
  goesOn hall := by simp [h] at hall

theorem InTurn.favourable {check : NodeCheck ν} (h : check.consistent = true) {nodes : List ν}
    {checks : List (NodeCheck ν)} (hr : InTurn nodes checks) :
    InTurn (check.node :: nodes) (check :: checks) where
  ordered := (List.prefix_cons_inj check.node).mpr hr.ordered
  stops := by
    intro earlier other later hsplit hlater
    cases earlier with
    | nil =>
      obtain ⟨rfl, -⟩ := List.cons.inj hsplit
      exact h
    | cons first earlier =>
      obtain ⟨-, hrest⟩ := List.cons.inj hsplit
      exact hr.stops earlier other later hrest hlater
  goesOn hall := by
    have hnodes := hr.goesOn fun check hc => hall check (List.mem_cons_of_mem _ hc)
    rw [List.map_cons, hnodes]

/-- How a check of all nodes may go, by what is found: the answer and what is entered. -/
inductive Course (name : ν → String) :
    Except Fault (Option (List ν)) → Bool → List (NodeEvent ν) → Prop where
  | undiscovered (fault : Fault) :
    Course name (.error fault) false [.noted (.discoveryFailed fault)]
  | unknown : Course name (.ok none) false [.noted .noNodesKnown]
  | empty : Course name (.ok (some [])) false [.noted .noNodesKnown]
  | checked {nodes : List ν} {checks : List (NodeCheck ν)} (known : nodes ≠ [])
      (turn : InTurn nodes checks) :
    Course name (.ok (some nodes)) (checks.all (·.consistent)) (checks.flatMap (·.events name))

namespace Course

variable {name : ν → String} {found : Except Fault (Option (List ν))} {consistent : Bool}
  {events : List (NodeEvent ν)}

theorem unchecked (h : Course name found consistent events)
    (hnone : (∃ fault, found = .error fault) ∨ found = .ok none ∨ found = .ok (some [])) :
    consistent = false ∧ ∃ notice, events = [.noted notice] := by
  cases h with
  | undiscovered fault => exact ⟨rfl, _, rfl⟩
  | unknown | empty => exact ⟨rfl, _, rfl⟩
  | checked known turn => simp [known] at hnone

theorem of_known {nodes : List ν} (h : Course name (.ok (some nodes)) consistent events)
    (hknown : nodes ≠ []) :
    ∃ checks : List (NodeCheck ν), InTurn nodes checks ∧
      events = checks.flatMap (·.events name) ∧
      (consistent = true ↔ ∀ check ∈ checks, check.consistent = true) := by
  cases h with
  | empty => exact absurd rfl hknown
  | @checked _ checks known turn => exact ⟨checks, turn, rfl, List.all_eq_true⟩

end Course

section Accounts

variable (access : NodeAccess σ ν) (inner : Tracker σ) (log : Log σ) (node : ν)

/-- However often the handle of a node is asked for, it is opened once at most. -/
theorem run_openings (inquiry : Inquiry σ Unit Supply Bool) (events : List (NodeEvent ν)) :
    ∃ answer refused opened world,
      (inquiry.silently events).run
          (Consult.replyWithHandle ((watchedAccess access).connect node)) none =
        (answer, opened, ⟨world, events ++ openings node refused opened⟩) := by
  induction inquiry generalizing events with
  | answered answer world =>
    refine ⟨answer, [], none, world, ?_⟩
    rw [show openings node [] none = [] from rfl, List.append_nil]
    rfl
  | asking question world resume ih =>
    rcases hconnect : access.connect node world with ⟨fault | handle, after⟩
    · -- a refused opening leaves the next question to try again
      have hentered : (watchedAccess access).connect node ⟨world, events⟩ =
          (.error fault, ⟨after, events ++ [.connected node (.error fault)]⟩) := by
        simp only [watchedAccess, entering, hconnect]
      obtain ⟨answer, refused, opened, later, hrun⟩ :=
        ih (.error fault) after (events ++ [.connected node (.error fault)])
      refine ⟨answer, fault :: refused, opened, later, ?_⟩
      rw [List.append_assoc] at hrun
      simp only [Inquiry.silently, Inquiry.run, Consult.replyWithHandle, hentered]
      exact hrun
    · have hentered : (watchedAccess access).connect node ⟨world, events⟩ =
          (.ok handle, ⟨after, events ++ [.connected node (.ok handle)]⟩) := by
        simp only [watchedAccess, entering, hconnect]
      obtain ⟨answer, later, hrun⟩ := (resume (.ok handle) after).run_silently_of_held
        ((watchedAccess access).connect node) (events ++ [.connected node (.ok handle)]) handle
      refine ⟨answer, [], some handle, later, ?_⟩
      simp only [Inquiry.silently, Inquiry.run, Consult.replyWithHandle, hentered]
      exact hrun

/-- The tracker for single nodes, with its entries around the openings. -/
theorem watchedInner_run (world : σ) (events : List (NodeEvent ν)) :
    ∃ answer refused opened after,
      (watchedInner inner).isConsistent.runWithHandle ((watchedAccess access).connect node) none
          ⟨world, events⟩ =
        ((answer, opened), ⟨after, events ++
          (.consulted :: openings node refused opened ++ [.judged answer])⟩) := by
  obtain ⟨answer, refused, opened, after, hrun⟩ :=
    run_openings access node (inner.isConsistent world) (events ++ [.consulted])
  have hasked : inner.isConsistent.silently.runWithHandle ((watchedAccess access).connect node) none
      ⟨world, events ++ [.consulted]⟩ =
        ((answer, opened), ⟨after, events ++ [.consulted] ++ openings node refused opened⟩) := by
    rw [Consult.runWithHandle_eq]
    exact congrArg (fun ended => ((ended.1, ended.2.1), ended.2.2)) hrun
  refine ⟨answer, refused, opened, after, ?_⟩
  calc (watchedInner inner).isConsistent.runWithHandle ((watchedAccess access).connect node) none
          ⟨world, events⟩
      = (inner.isConsistent.silently >>= fun consistent =>
          Consult.change (noting (.judged consistent) id) >>= fun _ => pure consistent
          ).runWithHandle ((watchedAccess access).connect node) none
            ⟨world, events ++ [.consulted]⟩ := rfl
    _ = ((answer, opened), noting (.judged answer) id
          ⟨after, events ++ [.consulted] ++ openings node refused opened⟩) := by
      rw [Consult.runWithHandle_bind, hasked]
      rfl
    _ = _ := by
      simp only [noting, id_eq, List.append_assoc, List.cons_append, List.nil_append]

theorem closeOpened_closing (handle : Handle) (world : σ) (events : List (NodeEvent ν)) :
    ∃ result after, closeOpened (watchedAccess access) (watchedLog log) node (some handle)
        ⟨world, events⟩ = ⟨after, events ++ closing (access.name node) (some (handle, result))⟩ := by
  unfold closeOpened
  simp only [watchedAccess, entering]
  rcases access.close handle world with ⟨fault | ⟨⟩, after⟩
  · refine ⟨.error fault, log (.nodeCloseFailed (access.name node) fault) after, ?_⟩
    simp only [watchedLog, noting, closing, List.append_assoc, List.cons_append, List.nil_append]
  · exact ⟨.ok (), after, rfl⟩

/-- What the check of a node does is an account of that check. -/
theorem checkNode_account (world : σ) (events : List (NodeEvent ν)) :
    ∃ (check : NodeCheck ν) (after : σ), check.node = node ∧
      checkNode (watchedAccess access) (watchedInner inner) (watchedLog log) node ⟨world, events⟩ =
        (check.consistent, ⟨after, events ++ check.events access.name⟩) := by
  obtain ⟨answer, refused, opened, asked, hasked⟩ := watchedInner_run access inner node world events
  unfold checkNode
  rw [hasked]
  cases opened with
  | none =>
    refine ⟨⟨node, refused, none, answer⟩, log (.nodeChecked (access.name node) answer) asked,
      rfl, ?_⟩
    simp [closeOpened, watchedLog, noting, NodeCheck.events, closing, watchedAccess]
  | some handle =>
    obtain ⟨result, after, hclosed⟩ := closeOpened_closing access log node handle
      (log (.nodeChecked (access.name node) answer) asked)
      (events ++ (.consulted :: openings node refused (some handle) ++ [.judged answer]) ++
        [.noted (.nodeChecked (access.name node) answer)])
    refine ⟨⟨node, refused, some (handle, result), answer⟩, after, rfl, ?_⟩
    refine (congrArg (Prod.mk answer) hclosed).trans ?_
    simp [NodeCheck.events]

/-- The nodes are checked in turn, and the account consists of the accounts of their checks. -/
theorem checkAll_account (nodes : List ν) (world : σ) (events : List (NodeEvent ν)) :
    ∃ (checks : List (NodeCheck ν)) (after : σ), InTurn nodes checks ∧
      checkAll (watchedAccess access) (watchedInner inner) (watchedLog log) nodes ⟨world, events⟩ =
        (checks.all (·.consistent),
          ⟨after, events ++ checks.flatMap (·.events access.name)⟩) := by
  induction nodes generalizing world events with
  | nil =>
    refine ⟨[], world, ⟨List.nil_prefix, by simp, fun _ => rfl⟩, ?_⟩
    rw [List.flatMap_nil, List.append_nil]
    rfl
  | cons node nodes ih =>
    obtain ⟨check, between, rfl, hcheck⟩ :=
      checkNode_account access inner log node world events
    unfold checkAll
    rw [hcheck]
    cases hconsistent : check.consistent with
    | false =>
      refine ⟨[check], between, .unfavourable hconsistent nodes, ?_⟩
      rw [List.all_cons, hconsistent, List.flatMap_singleton]
      rfl
    | true =>
      obtain ⟨checks, after, hturn, hchecks⟩ := ih between (events ++ check.events access.name)
      refine ⟨check :: checks, after, .favourable hconsistent hturn, ?_⟩
      rw [List.all_cons, hconsistent, Bool.true_and, List.flatMap_cons, ← List.append_assoc]
      exact hchecks

end Accounts

section Balance

variable (handle : Handle)

theorem openings_balance (node : ν) (refused : List Fault) (opened : Option Handle) :
    (openings node refused opened).countP (·.opens handle) =
        opened.toList.countP (· = handle) ∧
      (openings node refused opened).countP (·.closes handle) = 0 := by
  constructor
  · rw [openings, List.countP_append, List.countP_map, List.countP_map]
    have hrefused : refused.countP
        ((·.opens handle) ∘ fun fault => NodeEvent.connected node (.error fault)) = 0 :=
      List.countP_eq_zero.mpr fun fault _ => by simp [NodeEvent.opens]
    rw [hrefused, Nat.zero_add]
    rfl
  · refine List.countP_eq_zero.mpr fun event hmem => ?_
    simp only [openings, List.mem_append, List.mem_map] at hmem
    obtain ⟨fault, -, rfl⟩ | ⟨opened, -, rfl⟩ := hmem <;> simp [NodeEvent.closes]

theorem closing_balance (name : String) (opened : Option (Handle × Except Fault Unit)) :
    (closing name opened : List (NodeEvent ν)).countP (·.opens handle) = 0 ∧
      (closing name opened : List (NodeEvent ν)).countP (·.closes handle) =
        (opened.map (·.1)).toList.countP (· = handle) := by
  rcases opened with _ | ⟨opened, fault | ⟨⟩⟩ <;> exact ⟨rfl, rfl⟩

/-- The question, the answer and the notice neither open nor close a handle. -/
theorem NodeCheck.countP_events (name : ν → String) (check : NodeCheck ν) {p : NodeEvent ν → Bool}
    (hconsulted : p .consulted = false) (hjudged : ∀ consistent, p (.judged consistent) = false)
    (hnoted : ∀ notice, p (.noted notice) = false) :
    (check.events name).countP p =
      (openings check.node check.refused (check.opened.map (·.1))).countP p +
        (closing (name check.node) check.opened).countP p := by
  simp [NodeCheck.events, hconsulted, hjudged, hnoted]

/-- What a check opens it closes again. -/
theorem NodeCheck.balance (name : ν → String) (check : NodeCheck ν) :
    (check.events name).countP (·.opens handle) =
      (check.events name).countP (·.closes handle) := by
  obtain ⟨ho, hc⟩ := openings_balance handle check.node check.refused (check.opened.map (·.1))
  obtain ⟨ho', hc'⟩ := closing_balance (ν := ν) handle (name check.node) check.opened
  rw [check.countP_events name rfl (fun _ => rfl) fun _ => rfl, ho, ho',
    check.countP_events name rfl (fun _ => rfl) fun _ => rfl, hc, hc', Nat.add_zero, Nat.zero_add]

theorem Course.balance {name : ν → String} {found : Except Fault (Option (List ν))}
    {consistent : Bool} {events : List (NodeEvent ν)} (h : Course name found consistent events) :
    events.countP (·.opens handle) = events.countP (·.closes handle) := by
  cases h with
  | undiscovered | unknown | empty => rfl
  | @checked nodes checks known turn =>
    rw [List.countP_flatMap, List.countP_flatMap]
    exact congrArg List.sum (List.map_congr_left fun check _ => check.balance handle name)

end Balance

section Erasing

variable {access : NodeAccess σ ν} {inner : Tracker σ} {log : Log σ}
  {discover : Consult σ Unit Supply (Except Fault (Option (List ν)))}

theorem watchedInner_agrees (inner : Tracker σ) :
    Tracker.Agrees (erasing : Bond σ (Chronicle σ (NodeEvent ν))) inner (watchedInner inner) where
  write main := erasing_keeps (inner.write main)
  preCommit main := erasing_keeps (inner.preCommit main)
  isConsistent := by
    rintro _ chronicle rfl
    have hasked := inner.isConsistent.silently_agrees _ (noting .consulted id chronicle) rfl
    rw [← Inquiry.bind_answered (inner.isConsistent chronicle.world)]
    change Inquiry.Agrees erasing _
      ((inner.isConsistent.silently (noting .consulted id chronicle)).bind fun answer chronicle =>
        .answered answer (noting (NodeEvent.judged answer) id chronicle))
    exact hasked.bind fun answer _ _ hm => .answered answer hm

/-- The account changes nothing. -/
theorem watched_agrees :
    Tracker.Agrees (erasing : Bond σ (Chronicle σ (NodeEvent ν)))
      (tracker access discover inner log) (watched access discover inner log) := by
  have haccess : NodeAccess.Agrees (erasing : Bond σ (Chronicle σ (NodeEvent ν))) access
      (watchedAccess access) :=
    ⟨rfl, fun _ => erasing_entering _ _, fun _ => erasing_entering _ _⟩
  exact tracker_agrees haccess (watchedInner_agrees inner)
    (fun notice => erasing_noting (NodeEvent.noted notice) (log notice)) discover.silently_agrees

end Erasing

section Closing

variable {access access' : NodeAccess σ ν} {log : Log σ}

/-- Ways to the same nodes that differ only in whether handles can be closed. The notice that one
cannot be closed is not heard by anybody in the world. -/
structure AlikeButClosing (access access' : NodeAccess σ ν) (log : Log σ) : Prop where
  name : access'.name = access.name
  connect : access'.connect = access.connect
  close : ∀ handle world, (access'.close handle world).2 = (access.close handle world).2
  unheard : ∀ node fault world, log (.nodeCloseFailed (access.name node) fault) world = world

/-- Of a closing only what it does to the world remains. -/
theorem closeOpened_of_unheard
    (h : ∀ node fault world, log (.nodeCloseFailed (access.name node) fault) world = world)
    (node : ν) (handle : Handle) (world : σ) :
    closeOpened access log node (some handle) world = (access.close handle world).2 := by
  unfold closeOpened
  dsimp only
  rcases access.close handle world with ⟨fault | ⟨⟩, after⟩
  · exact h node fault after
  · rfl

theorem AlikeButClosing.closeOpened_eq (h : AlikeButClosing access access' log) :
    closeOpened access' log = closeOpened access log := by
  funext node opened world
  cases opened with
  | none => rfl
  | some handle =>
    have hunheard := h.unheard
    rw [closeOpened_of_unheard hunheard]
    rw [← h.name] at hunheard
    rw [closeOpened_of_unheard hunheard]
    exact h.close handle world

theorem AlikeButClosing.checkAll_eq (h : AlikeButClosing access access' log) (inner : Tracker σ) :
    checkAll access' inner log = checkAll access inner log := by
  have hnode : checkNode access' inner log = checkNode access inner log := by
    funext node
    unfold checkNode
    rw [h.closeOpened_eq, h.name, h.connect]
  funext nodes
  induction nodes with
  | nil => rfl
  | cons node nodes ih =>
    funext world
    simp only [checkAll, hnode, ih]

end Closing

section Checks

variable (access : NodeAccess σ ν) (inner : Tracker σ) (log : Log σ)
  (discover : Consult σ Unit Supply (Except Fault (Option (List ν))))
  (reply : Unit → μ → σ → Supply × μ × σ) (memory : μ) (world : σ)

theorem watched_erasing :
    let plain := (tracker access discover inner log).isConsistent.run reply memory world
    let seen := (watched access discover inner log).isConsistent.run (replying reply) memory
      ⟨world, []⟩
    seen.1 = plain.1 ∧ seen.2.1 = plain.2.1 ∧ seen.2.2.world = plain.2.2 := by
  have hagrees : Tracker.Agrees erasing (tracker access discover inner log)
      (watched access discover inner log) := watched_agrees
  have hreplies : ∀ question memory s (t : Chronicle σ (NodeEvent ν)), erasing.meets s t →
      (reply question memory s).1 = (replying reply question memory t).1 ∧
        (reply question memory s).2.1 = (replying reply question memory t).2.1 ∧
        erasing.meets (reply question memory s).2.2 (replying reply question memory t).2.2 := by
    rintro question memory _ chronicle rfl
    exact ⟨rfl, rfl, rfl⟩
  obtain ⟨hanswer, hmemory, hworld⟩ :=
    (hagrees.isConsistent world ⟨world, []⟩ rfl).run hreplies memory
  exact ⟨hanswer.symm, hmemory.symm, hworld⟩

theorem watched_course :
    let seen := (watched access discover inner log).isConsistent.run (replying reply) memory
      ⟨world, []⟩
    Course access.name (discover.run reply memory world).1 seen.1 seen.2.2.events := by
  unfold watched
  rw [tracker_run, Consult.run_silently]
  rcases discover.run reply memory world with ⟨fault | (_ | (_ | ⟨node, nodes⟩)), kept, asked⟩
  · exact .undiscovered fault
  · exact .unknown
  · exact .empty
  · obtain ⟨checks, after, hturn, hchecks⟩ :=
      checkAll_account access inner log (node :: nodes) asked []
    dsimp only
    rw [hchecks]
    exact .checked (List.cons_ne_nil node nodes) hturn

/-- The answer for many nodes, from what is found and from what the tracker for single nodes says
of each in turn. Every handle that is opened on the way is closed, and it does not matter to the
answer whether that succeeds. -/
theorem nodes_checked_in_turn :
    let plain := (tracker access discover inner log).isConsistent.run reply memory world
    let seen := (watched access discover inner log).isConsistent.run (replying reply) memory
      ⟨world, []⟩
    let found := (discover.run reply memory world).1
    (seen.1 = plain.1 ∧ seen.2.1 = plain.2.1 ∧ seen.2.2.world = plain.2.2) ∧
    ((∃ fault, found = .error fault) ∨ found = .ok none ∨ found = .ok (some []) →
      plain.1 = false ∧ ∃ notice, seen.2.2.events = [.noted notice]) ∧
    (∀ nodes, found = .ok (some nodes) → nodes ≠ [] →
      ∃ checks : List (NodeCheck ν), InTurn nodes checks ∧
        seen.2.2.events = checks.flatMap (·.events access.name) ∧
        (plain.1 = true ↔ ∀ check ∈ checks, check.consistent = true)) ∧
    (∀ handle, seen.2.2.events.countP (·.opens handle) =
      seen.2.2.events.countP (·.closes handle)) ∧
    ∀ access', AlikeButClosing access access' log →
      (tracker access' discover inner log).isConsistent.run reply memory world = plain := by
  intro plain seen found
  have herasing : seen.1 = plain.1 ∧ _ :=
    watched_erasing access inner log discover reply memory world
  have hcourse : Course access.name found seen.1 seen.2.2.events :=
    watched_course access inner log discover reply memory world
  rw [herasing.1] at hcourse
  refine ⟨herasing, hcourse.unchecked, fun nodes hfound => ?_, fun handle => hcourse.balance handle,
    fun access' halike => ?_⟩
  · rw [hfound] at hcourse
    exact hcourse.of_known
  · have htracker : tracker access' discover inner log = tracker access discover inner log := by
      unfold tracker
      rw [halike.checkAll_eq]
    rw [htracker]

/-- Of three nodes the second has not caught up, and its handle cannot be closed. The tracker for
single nodes asks for the handle of each of them twice. -/
theorem unfavourable_node_ends_checks :
    let refusal : Fault := .closeFailed .replica "gone"
    let access : NodeAccess Unit Nat :=
      { name := toString
        connect := fun node world => (.ok (.replica ⟨node⟩), world)
        close := fun handle world =>
          (if handle = .replica ⟨1⟩ then .error refusal else .ok (), world) }
    let obliging : NodeAccess Unit Nat := { access with close := fun _ world => (.ok (), world) }
    let inner : Tracker Unit :=
      { write := fun _ world => world
        isConsistent := do
          let first ← Consult.ask ()
          let second ← Consult.ask ()
          return first.toOption = second.toOption && first.toOption ≠ some (.replica ⟨1⟩) }
    let log : Log Unit := fun _ world => world
    let discover : Consult Unit Unit Supply (Except Fault (Option (List Nat))) :=
      pure (.ok (some [0, 1, 2]))
    let reply : Unit → Unit → Unit → Supply × Unit × Unit :=
      fun _ _ world => (.ok (.replica ⟨9⟩), (), world)
    let seen := (watched access discover inner log).isConsistent.run (replying reply) () ⟨(), []⟩
    (seen.1 = false ∧ seen.2.2.events =
      [.consulted, .connected 0 (.ok (.replica ⟨0⟩)), .judged true, .noted (.nodeChecked "0" true),
        .closed (.replica ⟨0⟩) (.ok ()),
        .consulted, .connected 1 (.ok (.replica ⟨1⟩)), .judged false,
        .noted (.nodeChecked "1" false), .closed (.replica ⟨1⟩) (.error refusal),
        .noted (.nodeCloseFailed "1" refusal)]) ∧
      (∃ checks : List (NodeCheck Nat), InTurn [0, 1, 2] checks ∧
        seen.2.2.events = checks.flatMap (·.events access.name)) ∧
      (tracker obliging discover inner log).isConsistent.run reply () () =
        (tracker access discover inner log).isConsistent.run reply () () := by
  intro refusal access obliging inner log discover reply seen
  obtain ⟨-, -, hchecks, -, hclosing⟩ :=
    nodes_checked_in_turn access inner log discover reply () ()
  obtain ⟨checks, hturn, hevents, -⟩ := hchecks [0, 1, 2] rfl (List.cons_ne_nil _ _)
  have halike : AlikeButClosing access obliging log :=
    ⟨rfl, rfl, fun _ _ => rfl, fun _ _ _ => rfl⟩
  exact ⟨⟨rfl, rfl⟩, ⟨checks, hturn, hevents⟩, hclosing obliging halike⟩

end Checks

end ClusterTracker

end ReplicaRouting
