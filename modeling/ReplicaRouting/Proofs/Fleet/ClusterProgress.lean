import ReplicaRouting.Proofs.Cache.InTurn
import ReplicaRouting.Proofs.Fleet.Cluster

/-!
Verdicts on a cluster whose nodes share a cache. A favourable verdict means that every node was
measured in that very check and has caught up with main. Where values are known to grow, a value
that another measurement brought may stand in for a smaller one, which has not caught up.
-/

namespace ReplicaRouting

open ProgressTracker (recorded)

namespace Cluster

variable {σ ν π : Type}

/-- A node that was reached and measured. -/
structure Report (ν π : Type) where
  node : ν
  replica : Handle
  reached : π

/-- What is entered when a node is measured. -/
def Report.probes (report : Report ν π) : List (Probe ν π) :=
  [.connected report.node (.ok report.replica), .measured report.replica (.ok report.reached)]

/-- Why a node passes for one that has caught up with main: it has, or a greater progress was
measured before, in a cache for values that are known to grow. -/
inductive Report.Covers [Ord π] (grows : Bool) (main : π) (history : List (Probe ν π))
    (report : Report ν π) : Prop where
  | itself (caughtUp : (compare report.reached main).isGE = true)
  | earlier (grown : grows = true) {replica : Handle} {greater : π}
      (measured : .measured replica (.ok greater) ∈ history)
      (beyond : compare greater report.reached = .gt)
      (caughtUp : (compare greater main).isGE = true)

/-- As long as values grow where they are known to, every node has caught up itself. -/
theorem Report.Covers.caughtUp_itself [Ord π] {grows : Bool} {main : π}
    {history : List (Probe ν π)} {report : Report ν π} (h : report.Covers grows main history)
    (hg : grows = true → ∀ replica value, .measured replica (.ok value) ∈ history →
      compare value report.reached ≠ .gt) :
    (compare report.reached main).isGE = true := by
  cases h with
  | itself caughtUp => exact caughtUp
  | earlier grown measured beyond => exact absurd beyond (hg grown _ _ measured)

/-- What is stored, and what was answered before. -/
structure Ledger (ν π : Type) where
  lastMain : NewestCache π
  lastReplica : RefreshCache π
  events : List (Probe ν π)

def ledger (watched : Situation (Chronicle σ (Probe ν π)) π) : Ledger ν π :=
  ⟨watched.lastMain, watched.lastReplica, watched.outer.events⟩

namespace Ledger

variable [Ord π] {grows : Bool} {node : ν} {before after : Ledger ν π}

/-- What is true between two checks of nodes. -/
structure Sound (grows : Bool) (ledger : Ledger ν π) : Prop where
  lastMain : ledger.lastMain = recorded (told ledger.events)
  atRest : ledger.lastReplica.AtRest grows
  stored : ∀ value, ledger.lastReplica.last = some value →
    ∃ replica, .measured replica (.ok value) ∈ ledger.events

/-- What is entered when a node is asked how far it has come, and what comes of it. -/
inductive Probing (node : ν) : Except Fault π → List (Probe ν π) → Prop where
  | unreached (fault : Fault) : Probing node (.error fault) [.connected node (.error fault)]
  | asked (replica : Handle) (answer : Except Fault π) :
    Probing node answer [.connected node (.ok replica), .measured replica answer]

/-- How the check of a node may go: main is unknown, the node cannot be measured, or it is. -/
inductive NodeCourse (grows : Bool) (before : Ledger ν π) (node : ν) :
    Bool → Ledger ν π → Prop where
  | unknown : NodeCourse grows before node false before
  | failed {cache : RefreshCache π} {fault : Fault} {probes : List (Probe ν π)}
      (probing : Probing node (.error fault) probes) (rest : cache.AtRest grows)
      (same : cache.last = before.lastReplica.last) :
    NodeCourse grows before node false ⟨before.lastMain, cache, before.events ++ probes⟩
  | measured {cache : RefreshCache π} {main reached value : π} {probes : List (Probe ν π)}
      (probing : Probing node (.ok reached) probes) (rest : cache.AtRest grows)
      (known : before.lastMain.value? = some main)
      (given : RefreshCache.Gives grows before.lastReplica.last reached value)
      (stored : cache.last = before.lastReplica.last ∨ cache.last = some reached) :
    NodeCourse grows before node (compare value main).isGE
      ⟨before.lastMain, cache, before.events ++ probes⟩

/-- What a favourable check of nodes has entered, one report for each of them. -/
structure Shown (grows : Bool) (before after : Ledger ν π) (nodes : List ν)
    (reports : List (Report ν π)) : Prop where
  nodes : reports.map (·.node) = nodes
  events : after.events = before.events ++ reports.flatMap Report.probes
  covers : ∀ earlier report later, reports = earlier ++ report :: later →
    ∃ main, before.lastMain.value? = some main ∧
      report.Covers grows main (before.events ++ earlier.flatMap Report.probes)

theorem Shown.cons {between : Ledger ν π} {nodes : List ν} {report : Report ν π}
    {reports : List (Report ν π)} (hf : Shown grows before between [node] [report])
    (hr : Shown grows between after nodes reports) (hm : between.lastMain = before.lastMain) :
    Shown grows before after (node :: nodes) (report :: reports) where
  nodes := by
    rw [List.map_cons, hr.nodes]
    exact congrArg (· ++ nodes) hf.nodes
  events := by
    rw [hr.events, hf.events, List.append_assoc, ← List.flatMap_append]
    rfl
  covers earlier shown later hs := by
    cases earlier with
    | nil =>
      cases hs
      exact hf.covers [] report [] rfl
    | cons first earlier =>
      cases hs
      obtain ⟨main, hmain, hcovers⟩ := hr.covers earlier shown later rfl
      rw [hm] at hmain
      rw [hf.events, List.append_assoc, ← List.flatMap_append] at hcovers
      exact ⟨main, hmain, hcovers⟩

omit [Ord π] in
theorem told_append (history probes : List (Probe ν π)) :
    told (history ++ probes) = told history ++ told probes := List.filterMap_append

namespace Sound

variable (h : Sound grows before)
include h

/-- Nothing is taken back when a node is measured. -/
theorem probed {outcome : Except Fault π} {probes : List (Probe ν π)} {cache : RefreshCache π}
    (hp : Probing node outcome probes) (hr : cache.AtRest grows)
    (hs : ∀ value, cache.last = some value → before.lastReplica.last = some value ∨
      ∃ replica, .measured replica (.ok value) ∈ probes) :
    Sound grows ⟨before.lastMain, cache, before.events ++ probes⟩ where
  lastMain := by
    have hnone : told probes = [] := by cases hp <;> rfl
    rw [told_append, hnone, List.append_nil]
    exact h.lastMain
  atRest := hr
  stored value hv := by
    rcases hs value hv with hbefore | ⟨replica, hm⟩
    · obtain ⟨replica, hm⟩ := h.stored value hbefore
      exact ⟨replica, List.mem_append_left _ hm⟩
    · exact ⟨replica, List.mem_append_right _ hm⟩

theorem written (answer : Except Fault π) :
    Sound grows ⟨ProgressTracker.afterWrite before.lastMain answer, before.lastReplica,
      before.events ++ [.recorded answer]⟩ where
  lastMain := by
    rw [told_append, h.lastMain]
    exact (ProgressTracker.recorded_snoc _ answer).symm
  atRest := h.atRest
  stored value hv := by
    obtain ⟨replica, hm⟩ := h.stored value hv
    exact ⟨replica, List.mem_append_left _ hm⟩

end Sound

/-- The refresh for a node has ended, and what its reader gets is judged. -/
theorem NodeCourse.ended [Std.TransOrd π] {begun : RefreshCache π} {ticket : Nat} {main : π}
    {outcome : Except Fault π} {probes : List (Probe ν π)}
    (hrefreshing : begun.Refreshing grows ticket)
    (hlast : begun.last = before.lastReplica.last)
    (hmain : before.lastMain.value? = some main) (hp : Probing node outcome probes) :
    let ended := begun.finish ticket outcome
    NodeCourse grows before node (ProgressTracker.judge false main ended.1.answer)
      ⟨before.lastMain, ended.2, before.events ++ probes⟩ := by
  cases outcome with
  | error fault =>
    obtain ⟨hfault, hrest, hsame⟩ := hrefreshing.failed fault
    dsimp only
    rw [hfault]
    exact .failed hp hrest (hsame.trans hlast)
  | ok reached =>
    obtain ⟨value, hvalue, hrest, hgiven, hstored⟩ := hrefreshing.brought reached
    rw [hlast] at hgiven hstored
    dsimp only
    rw [hvalue]
    exact .measured hp hrest hmain hgiven hstored

namespace NodeCourse

variable {consistent : Bool} (hc : NodeCourse grows before node consistent after)
include hc

theorem lastMain_eq : after.lastMain = before.lastMain := by
  cases hc <;> rfl

theorem sound (h : Sound grows before) : Sound grows after := by
  cases hc with
  | unknown => exact h
  | failed probing rest same =>
    exact h.probed probing rest fun value hv => .inl (same ▸ hv)
  | @measured cache main reached value probes probing rest known given stored =>
    refine h.probed probing rest fun value hv => ?_
    rcases stored with hsame | hnew
    · exact .inl (hsame ▸ hv)
    · cases hnew.symm.trans hv
      cases probing with
      | asked replica => exact .inr ⟨replica, by simp⟩

variable [Std.TransOrd π]

/-- What a favourable check of a node has shown. -/
theorem shown (h : Sound grows before) (ht : consistent = true) :
    ∃ report, Shown grows before after [node] [report] := by
  cases hc with
  | unknown | failed => cases ht
  | @measured cache main reached value probes probing rest known given stored =>
    cases probing with
    | asked replica =>
      refine ⟨⟨node, replica, reached⟩, rfl, rfl, ?_⟩
      intro earlier report later hsplit
      obtain ⟨rfl, rfl, rfl⟩ : earlier = [] ∧ ⟨node, replica, reached⟩ = report ∧ later = [] := by
        cases earlier <;> simp_all
      refine ⟨main, known, ?_⟩
      rw [List.flatMap_nil, List.append_nil]
      by_cases hreached : (compare reached main).isGE = true
      · exact .itself hreached
      · cases given with
        | fresh => exact absurd ht hreached
        | stored grown held behind =>
          -- the value that is given is as far as main, so that it is beyond what was measured
          obtain ⟨replica, hm⟩ := h.stored value held
          have hbehind : compare main reached = .gt := Std.OrientedCmp.gt_of_not_isGE hreached
          exact .earlier grown hm (Std.TransCmp.gt_of_isGE_of_gt ht hbehind) ht

end NodeCourse

end Ledger

section Parts

variable (cluster : Cluster σ ν π) (watched : Situation (Chronicle σ (Probe ν π)) π)

theorem finish_ledger (ticket : Nat) (outcome : Except Fault π) :
    let ended := (ledger watched).lastReplica.finish ticket outcome
    (cluster.watched.cache.finish ticket outcome watched).1 = ended.1.answer ∧
      ledger (cluster.watched.cache.finish ticket outcome watched).2 =
        { ledger watched with lastReplica := ended.2 } := by
  have hcell : cluster.watched.cache.cell.get watched = (ledger watched).lastReplica := rfl
  unfold SharedCache.finish
  rw [hcell]
  rcases (ledger watched).lastReplica.finish ticket outcome with ⟨⟨answer, settlement⟩, next⟩
  cases settlement <;> exact ⟨rfl, rfl⟩

theorem closeOpened_ledger (node : ν) (opened : Option Handle) :
    ledger (ClusterTracker.closeOpened (cluster.watched.access.along Situation.outerCell)
      cluster.watched.innerLog node opened watched) = ledger watched := by
  cases opened with
  | none => rfl
  | some handle =>
    unfold ClusterTracker.closeOpened
    simp only [Cluster.watched, NodeAccess.along, Cell.along, Chronicle.silently]
    rcases cluster.access.close handle _ with ⟨fault | _, after⟩ <;> rfl

/-- A node is asked once, through a handle of its own. -/
theorem consultReplica_probing (node : ν) :
    let asked := (cluster.watched.source.along Situation.outerCell).consultReplica.runWithHandle
      ((cluster.watched.access.along Situation.outerCell).connect node) none watched
    ∃ probes, Ledger.Probing node asked.1.1 probes ∧ ledger asked.2 =
      ⟨watched.lastMain, watched.lastReplica, watched.outer.events ++ probes⟩ := by
  rw [ProgressSource.consultReplica_run]
  unfold Consult.replyWithHandle
  simp only [Cluster.watched, NodeAccess.along, ProgressSource.along, Cell.along,
    Chronicle.entering]
  rcases cluster.access.connect node (Situation.outerCell.get watched).world with
    ⟨fault | replica, reached⟩
  · exact ⟨_, .unreached fault, rfl⟩
  · exact ⟨_, .asked replica (cluster.source.fetchReplica replica reached).1,
      congrArg (Ledger.mk _ _) (List.append_assoc ..)⟩

end Parts

section Checks

variable [Ord π] (cluster : Cluster σ ν π) {grows : Bool}

/-- A check that nobody else interferes with looks at the node itself. -/
theorem acquire_atRest {watched : Situation (Chronicle σ (Probe ν π)) π}
    (h : watched.lastReplica.AtRest grows) :
    ∃ ticket begun, cluster.watched.cache.acquire watched =
        (.refreshing ticket none, { watched with lastReplica := begun }) ∧
      begun.Refreshing grows ticket ∧ begun.last = watched.lastReplica.last := by
  obtain ⟨ticket, begun, hacquire, hrefreshing, hlast⟩ :=
    h.acquire (cluster.watched.clock watched.outer)
  refine ⟨ticket, begun, ?_, hrefreshing, hlast⟩
  have hcell : (cluster.watched.cache.cell.get watched).acquire
      (cluster.watched.cache.now watched) = (.refreshing ticket none, begun) := hacquire
  unfold SharedCache.acquire
  rw [hcell]
  rfl

/-- Either nothing is checked, or the nodes that were found are. -/
theorem check_cases (supply : Fallible σ Handle) (held : Option Handle)
    (watched : Situation (Chronicle σ (Probe ν π)) π) :
    let checked := cluster.watched.check (Chronicle.silently supply) held watched
    (checked.1 = false ∧ ledger checked.2 = ledger watched) ∨
      ∃ node nodes discovered,
        (cluster.discover.runWithHandle supply held watched.outer.world).1.1 =
          .ok (some (node :: nodes)) ∧
        ledger discovered = ledger watched ∧
        checked = ClusterTracker.checkAll (cluster.watched.access.along Situation.outerCell)
          cluster.watched.nodeTracker cluster.watched.innerLog (node :: nodes) discovered := by
  intro checked
  rcases hfound : cluster.discover.runWithHandle supply held watched.outer.world with
    ⟨⟨found, kept⟩, asked⟩
  have hdiscover : (cluster.watched.discover.along Situation.outerCell).runWithHandle
      (Situation.outerCell.along (Chronicle.silently supply)) held watched =
        ((found, kept), worldCell.set asked watched) := by
    rw [Cluster.watched, Consult.along_along]
    refine (congrFun (Consult.runWithHandle_along worldCell_lawful cluster.discover supply held)
      watched).trans ?_
    exact congrArg (fun ended => (ended.1, worldCell.set ended.2 watched)) hfound
  unfold checked check tracker
  rw [ClusterTracker.isConsistent_run, hdiscover]
  rcases found with fault | (_ | (_ | ⟨node, nodes⟩))
  · exact .inl ⟨rfl, rfl⟩
  · exact .inl ⟨rfl, rfl⟩
  · exact .inl ⟨rfl, rfl⟩
  · exact .inr ⟨node, nodes, worldCell.set asked watched, rfl, rfl, rfl⟩

variable [Std.TransOrd π]

/-- The tracker of a node, from what is stored to what is stored. -/
theorem nodeTracker_course (node : ν) {watched : Situation (Chronicle σ (Probe ν π)) π}
    (h : watched.lastReplica.AtRest grows) :
    let asked := cluster.watched.nodeTracker.isConsistent.runWithHandle
      ((cluster.watched.access.along Situation.outerCell).connect node) none watched
    (ledger watched).NodeCourse grows node asked.1.1 (ledger asked.2) := by
  intro asked
  cases hmain : watched.lastMain.value? with
  | none =>
    have hasked : asked = ((false, none), watched) :=
      ProgressTracker.run_of_unknown false _ none hmain
    rw [hasked]
    exact .unknown
  | some main =>
    -- the refresh is begun, the node is asked, and the refresh ends
    obtain ⟨ticket, begun, hacquired, hrefreshing, hlast⟩ := cluster.acquire_atRest h
    have hasked : asked = _ := ProgressTracker.run_of_acquired false _ none hmain hacquired
    obtain ⟨probes, hprobing, hprobed⟩ :=
      cluster.consultReplica_probing { watched with lastReplica := begun } node
    rcases hconsulted :
      (cluster.watched.source.along Situation.outerCell).consultReplica.runWithHandle
        ((cluster.watched.access.along Situation.outerCell).connect node) none
        { watched with lastReplica := begun } with ⟨⟨outcome, kept⟩, probed⟩
    rw [hconsulted] at hasked hprobing hprobed
    -- asking has left the refresh that was begun as it is
    obtain ⟨hanswer, hended⟩ := cluster.finish_ledger probed ticket outcome
    rw [hprobed] at hanswer hended
    rcases hfinish : cluster.watched.cache.finish ticket outcome probed with ⟨fetched, ended⟩
    rw [hfinish] at hanswer hended
    simp only [hfinish] at hasked
    have hledger : ledger asked.2 = ledger ended := by
      rw [hasked]
      cases fetched <;> rfl
    have hverdict : asked.1.1 = ProgressTracker.judge false main fetched :=
      congrArg (·.1.1) hasked
    obtain rfl : fetched = (begun.finish ticket outcome).1.answer := hanswer
    rw [hverdict, hledger, hended]
    exact .ended hrefreshing hlast hmain hprobing

/-- The rest of the check writes notices and closes the handle. Nothing is stored by that. -/
theorem checkNode_course (node : ν) {watched : Situation (Chronicle σ (Probe ν π)) π}
    (h : watched.lastReplica.AtRest grows) :
    let checked := ClusterTracker.checkNode (cluster.watched.access.along Situation.outerCell)
      cluster.watched.nodeTracker cluster.watched.innerLog node watched
    (ledger watched).NodeCourse grows node checked.1 (ledger checked.2) := by
  have hcourse := cluster.nodeTracker_course node h
  unfold ClusterTracker.checkNode
  dsimp only at hcourse ⊢
  rcases hasked : cluster.watched.nodeTracker.isConsistent.runWithHandle
    ((cluster.watched.access.along Situation.outerCell).connect node) none watched with
    ⟨⟨consistent, opened⟩, asked⟩
  rw [hasked] at hcourse
  dsimp only
  rw [closeOpened_ledger]
  exact hcourse

/-- A check of nodes leaves main's progress alone. If it is favourable, it has shown something of
every node. -/
theorem checkAll_shown (nodes : List ν) {watched : Situation (Chronicle σ (Probe ν π)) π}
    (h : (ledger watched).Sound grows) :
    let checked := ClusterTracker.checkAll (cluster.watched.access.along Situation.outerCell)
      cluster.watched.nodeTracker cluster.watched.innerLog nodes watched
    (ledger checked.2).Sound grows ∧ (checked.1 = true →
      ∃ reports, (ledger watched).Shown grows (ledger checked.2) nodes reports) := by
  induction nodes generalizing watched with
  | nil => exact ⟨h, fun _ => ⟨[], rfl, (List.append_nil _).symm, by simp⟩⟩
  | cons node nodes ih =>
    have hcourse := cluster.checkNode_course node h.atRest
    unfold ClusterTracker.checkAll
    rcases hchecked : ClusterTracker.checkNode (cluster.watched.access.along Situation.outerCell)
      cluster.watched.nodeTracker cluster.watched.innerLog node watched with ⟨consistent, between⟩
    rw [hchecked] at hcourse
    have hbetween : (ledger between).Sound grows := hcourse.sound h
    cases consistent with
    | false => exact ⟨hbetween, fun hfalse => absurd hfalse Bool.false_ne_true⟩
    | true =>
      obtain ⟨hlater, hshown⟩ := ih hbetween
      refine ⟨hlater, fun hconsistent => ?_⟩
      obtain ⟨reports, hreports⟩ := hshown hconsistent
      -- the other nodes are compared with the same progress of main as this one
      obtain ⟨report, hreport⟩ := hcourse.shown h rfl
      exact ⟨report :: reports, hreport.cons hreports hcourse.lastMain_eq⟩

end Checks

section Runs

variable [Ord π] {cluster : Cluster σ ν π} {grows : Bool}

/-- To be told of a write is one answer of main. -/
theorem write_ledger (cluster : Cluster σ ν π) (main : Handle)
    (watched : Situation (Chronicle σ (Probe ν π)) π) :
    let answer := (cluster.source.fetchMain main watched.outer.world).1
    ledger (cluster.watched.tracker.write main watched) =
      ⟨ProgressTracker.afterWrite watched.lastMain answer, watched.lastReplica,
        watched.outer.events ++ [.recorded answer]⟩ := by
  intro answer
  simp only [tracker, ClusterTracker.tracker, nodeTracker, ProgressTracker.tracker, Cluster.watched,
    ProgressSource.along, Cell.along, Chronicle.entering, answer]
  rcases hf : cluster.source.fetchMain main watched.outer.world with ⟨fault | progress, after⟩ <;>
    simp only [Situation.outerCell, hf] <;> rfl

variable [Std.TransOrd π]

theorem step_sound (move : Move σ) {watched : Situation (Chronicle σ (Probe ν π)) π}
    (h : (ledger watched).Sound grows) :
    (ledger (cluster.watched.step watched move.watched)).Sound grows := by
  cases move with
  | write main =>
    have hledger : ledger (cluster.watched.step watched (Move.write main).watched) = _ :=
      write_ledger cluster main watched
    rw [hledger]
    exact h.written _
  | check supply held =>
    rcases cluster.check_cases supply held watched with
      ⟨-, hsame⟩ | ⟨node, nodes, discovered, -, hdiscovered, hchecked⟩
    · exact hsame ▸ h
    · have hall := (cluster.checkAll_shown (node :: nodes) (hdiscovered ▸ h)).1
      rw [← hchecked] at hall
      exact hall
  | change change => exact h

theorem run_sound (moves : List (Move σ)) {watched : Situation (Chronicle σ (Probe ν π)) π}
    (h : (ledger watched).Sound grows) :
    (ledger (cluster.watched.run watched (moves.map Move.watched))).Sound grows := by
  induction moves generalizing watched with
  | nil => exact h
  | cons move moves ih => exact ih (step_sound move h)

end Runs

/-- The history of a run that ends with a check, and the verdict of that check. -/
theorem check_history [Ord π] (cluster : Cluster σ ν π) (cache : RefreshCache π) (outer : σ)
    (moves : List (Move σ)) (supply : Fallible σ Handle) (held : Option Handle) :
    let watched := cluster.watchedRun cache outer moves
    let world := cluster.run { outer, lastReplica := cache } moves
    let checked := cluster.watched.check (Chronicle.silently supply) held watched
    watched.outer.world = world.outer ∧ (cluster.check supply held world).1 = checked.1 ∧
      cluster.history cache outer (moves ++ [.check supply held]) = checked.2.outer.events := by
  intro watched world checked
  have hplain : plain watched = world := cluster.run_erasing moves rfl
  refine ⟨congrArg Situation.outer hplain,
    (cluster.check_erasing supply held world watched hplain).1, ?_⟩
  unfold history watchedRun
  rw [List.map_append, run, List.foldl_append]
  rfl

/-- A cluster is not declared consistent too early, in every course of writes and checks one after
another, with a cache of any kind. When a check is favourable, main's progress is known and some
nodes were found. Each of them was reached and measured in that very check, in order, and it has
caught up with main. In a cache for values that are known to grow it may be behind main, if a
greater progress that has caught up was measured before, of whatever node. -/
theorem consistent_nodes_caught_up [Ord π] [Std.TransOrd π] (cluster : Cluster σ ν π)
    (kind : CacheKind) (outer : σ) (moves : List (Move σ)) (supply : Fallible σ Handle)
    (held : Option Handle) :
    let world := cluster.run { outer, lastReplica := kind.empty } moves
    let before := cluster.history kind.empty outer moves
    (cluster.check supply held world).1 = true → ∃ main reports,
      (recorded (told before)).value? = some main ∧ reports ≠ [] ∧
      (cluster.discover.runWithHandle supply held world.outer).1.1 =
        .ok (some (reports.map Report.node)) ∧
      cluster.history kind.empty outer (moves ++ [.check supply held]) =
        before ++ reports.flatMap Report.probes ∧
      ∀ earlier report later, reports = earlier ++ report :: later →
        report.Covers kind.grows main (before ++ earlier.flatMap Report.probes) := by
  intro world before hconsistent
  let watched := cluster.watchedRun kind.empty outer moves
  have hstart : (ledger ({ outer := ⟨outer, []⟩, lastReplica := kind.empty } :
      Situation (Chronicle σ (Probe ν π)) π)).Sound kind.grows :=
    ⟨rfl, RefreshCache.atRest_empty kind, fun value hv => by cases kind <;> cases hv⟩
  have hsound : (ledger watched).Sound kind.grows := run_sound moves hstart
  obtain ⟨houter, hverdict, hhistory⟩ :=
    cluster.check_history kind.empty outer moves supply held
  rw [hverdict] at hconsistent
  rcases cluster.check_cases supply held watched with
    ⟨hfalse, -⟩ | ⟨node, nodes, discovered, hfound, hdiscovered, hchecked⟩
  · exact absurd (hfalse.symm.trans hconsistent) Bool.false_ne_true
  · obtain ⟨-, hshown⟩ := cluster.checkAll_shown (node :: nodes) (hdiscovered ▸ hsound)
    rw [← hchecked, hdiscovered] at hshown
    obtain ⟨reports, hreports⟩ := hshown hconsistent
    have hlast : (ledger watched).lastMain = recorded (told before) := hsound.lastMain
    cases reports with
    | nil => cases hreports.nodes
    | cons report reports =>
      -- main is known because the first node could not have passed otherwise
      obtain ⟨main, hmain, -⟩ := hreports.covers [] report reports rfl
      refine ⟨main, report :: reports, hlast ▸ hmain, List.cons_ne_nil _ _, ?_, ?_, ?_⟩
      · rw [hreports.nodes, ← houter, hfound]
      · rw [hhistory]
        exact hreports.events
      · intro earlier shown later hsplit
        obtain ⟨main', hmain', hcovers⟩ := hreports.covers earlier shown later hsplit
        cases hmain.symm.trans hmain'
        exact hcovers

/-- Main and nodes as counters, with connections that are numbered like the nodes. -/
def counters : Cluster (Nat × List Nat) Nat Nat where
  access :=
    { name := toString
      connect := fun node world => (.ok (.replica ⟨node⟩), world)
      close := fun _ world => (.ok (), world) }
  discover := Consult.look fun world => .ok (some (List.range world.2.length))
  source :=
    { fetchMain := fun _ world => (.ok world.1, world)
      fetchReplica := fun replica world => (.ok (world.2.getD replica.connection.index 0), world) }
  clock _ := .epoch
  log _ world := world

/-- An address behind which there is always a replica. -/
def anyReplica (world : Nat × List Nat) : Except Fault Handle × (Nat × List Nat) :=
  (.ok (.replica ⟨0⟩), world)

/-- Two counters have caught up, and a favourable check finds as much. -/
theorem caught_up_counters_consistent :
    let world := counters.run { outer := (80, [100, 90]), lastReplica := CacheKind.single.empty }
      [.write (.main ⟨0⟩)]
    (counters.check anyReplica none world).1 = true ∧
      ∃ reports : List (Report Nat Nat), reports.map Report.node = [0, 1] ∧
        ∀ report ∈ reports, 80 ≤ report.reached := by
  intro world
  have hconsistent : (counters.check anyReplica none world).1 = true := by decide +kernel
  obtain ⟨main, reports, hmain, -, hfound, -, hcovers⟩ :=
    consistent_nodes_caught_up counters .single (80, [100, 90]) [.write (.main ⟨0⟩)] anyReplica none
      hconsistent
  have hnodes : [0, 1] = reports.map Report.node := Option.some.inj (Except.ok.inj hfound)
  refine ⟨hconsistent, reports, hnodes.symm, fun report hm => ?_⟩
  obtain ⟨earlier, later, hsplit⟩ := List.append_of_mem hm
  obtain rfl : 80 = main := Option.some.inj hmain
  have hcaughtUp : (compare report.reached 80).isGE = true :=
    (hcovers earlier report later hsplit).caughtUp_itself fun hgrown => by cases hgrown
  exact Nat.isGE_compare.mp hcaughtUp

/-- In a cache for values that are known to grow, what the first counter has reported stands in for
the second one, which is behind main. -/
theorem lagging_counter_consistent :
    let cache : RefreshCache Nat := (CacheKind.timed ⟨1_000_000_000, by decide⟩ true).empty
    let moves : List (Move (Nat × List Nat)) := [.write (.main ⟨0⟩)]
    let world := counters.run { outer := (80, [100, 50]), lastReplica := cache } moves
    (counters.check anyReplica none world).1 = true ∧
      counters.history cache (80, [100, 50]) (moves ++ [.check anyReplica none]) =
        [.recorded (.ok 80),
          .connected 0 (.ok (.replica ⟨0⟩)), .measured (.replica ⟨0⟩) (.ok 100),
          .connected 1 (.ok (.replica ⟨1⟩)), .measured (.replica ⟨1⟩) (.ok 50)] := by
  decide +kernel

end Cluster

end ReplicaRouting
