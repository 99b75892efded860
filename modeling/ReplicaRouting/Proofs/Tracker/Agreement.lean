import ReplicaRouting.Proofs.Fleet.Sharing
import ReplicaRouting.Tracker.Cluster
import ReplicaRouting.Tracker.Progress

/-!
Trackers of progress and of clusters that agree: they do as soon as their caches, their sources of
progress and the ways to their nodes do.
-/

namespace ReplicaRouting

variable {σ τ q r α β : Type} {bond : Bond σ τ}

/-- Caches of the same content, at the same time. -/
structure SharedCache.Agrees (bond : Bond σ τ) (left : SharedCache σ α) (right : SharedCache τ α) :
    Prop where
  cell : Cell.Agrees bond left.cell right.cell
  now : ∀ s t, bond.meets s t → left.now s = right.now t
  log : ∀ notice, bond.Keeps (left.log notice) (right.log notice)

namespace SharedCache.Agrees

variable {left : SharedCache σ α} {right : SharedCache τ α} (h : SharedCache.Agrees bond left right)
include h

theorem acquire : bond.Answers left.acquire right.acquire := by
  intro s t hm
  unfold SharedCache.acquire
  rw [h.cell.get s t hm, h.now s t hm]
  rcases (right.cell.get t).acquire (right.now t) with ⟨access, next⟩
  have hset := h.cell.set next s t hm
  cases access with
  | contended last => exact ⟨rfl, hset⟩
  | refreshing ticket robbed? =>
    cases robbed? with
    | none => exact ⟨rfl, hset⟩
    | some robbed => exact ⟨rfl, (h.log _ _ _ hset).1⟩

theorem finish (ticket : Nat) (outcome : Except Fault α) :
    bond.Answers (left.finish ticket outcome) (right.finish ticket outcome) := by
  intro s t hm
  unfold SharedCache.finish
  rw [h.cell.get s t hm]
  rcases (right.cell.get t).finish ticket outcome with ⟨⟨answer, settlement⟩, next⟩
  have hset := h.cell.set next s t hm
  cases settlement with
  | kept | failed => exact ⟨rfl, hset⟩
  | late stored => exact ⟨rfl, (h.log _ _ _ hset).1⟩
  | unmoved => exact ⟨rfl, (h.log _ _ _ hset).1⟩

theorem read {supplier : Consult σ q r (Except Fault α)}
    {supplier' : Consult τ q r (Except Fault α)}
    (hs : Consult.Agrees bond supplier supplier') :
    Consult.Agrees bond (left.get supplier) (right.get supplier') := by
  apply (Consult.agrees_act h.acquire).bind
  intro access
  cases access with
  | contended last => exact Consult.agrees_pure _
  | refreshing ticket robbed? =>
    exact hs.bind fun outcome => Consult.agrees_act (h.finish ticket outcome)

end SharedCache.Agrees

/-- Ways to measure progress that yield the same. -/
structure ProgressSource.Agrees {π : Type} (bond : Bond σ τ) (left : ProgressSource σ π)
    (right : ProgressSource τ π) : Prop where
  fetchMain : ∀ main, bond.Answers (left.fetchMain main) (right.fetchMain main)
  fetchReplica : ∀ replica, bond.Answers (left.fetchReplica replica) (right.fetchReplica replica)

theorem ProgressTracker.tracker_agrees {π : Type} [Ord π] (fallback : Bool)
    {lastMain : Cell σ (NewestCache π)} {lastMain' : Cell τ (NewestCache π)}
    {lastReplica : SharedCache σ π} {lastReplica' : SharedCache τ π} {source : ProgressSource σ π}
    {source' : ProgressSource τ π} {log : Log σ} {log' : Log τ}
    (lenient : ∀ t, bond.blamed t)
    (hm : Cell.Agrees bond lastMain lastMain')
    (hr : SharedCache.Agrees bond lastReplica lastReplica')
    (hs : ProgressSource.Agrees bond source source')
    (hl : ∀ notice, bond.Keeps (log notice) (log' notice)) :
    Tracker.Agrees bond (tracker fallback lastMain lastReplica source log)
      (tracker fallback lastMain' lastReplica' source' log') where
  write main s t h := by
    refine ⟨?_, fun _ => lenient _⟩
    obtain ⟨ha, hw⟩ := hs.fetchMain main s t h
    unfold tracker
    dsimp only
    rcases hs' : source.fetchMain main s with ⟨fetched, s'⟩
    rcases ht' : source'.fetchMain main t with ⟨fetched', t'⟩
    rw [hs', ht'] at ha hw
    obtain rfl : fetched = fetched' := ha
    have hstored := (hm.modify lenient (afterWrite · fetched) s' t' hw).1
    cases fetched with
    | ok progress => exact hstored
    | error fault => exact (hl _ _ _ hstored).1
  preCommit _ _ _ h := ⟨h, id⟩
  isConsistent := by
    apply (Consult.agrees_look fun s t h => congrArg NewestCache.value? (hm.get s t h)).bind
    intro main?
    cases main? with
    | none => exact Consult.agrees_pure _
    | some main =>
      apply (hr.read (ProgressSource.consultReplica_agrees hs.fetchReplica)).bind
      intro fetched
      cases fetched with
      | error fault =>
        exact (Consult.agrees_change (hl _)).bind fun _ => Consult.agrees_pure _
      | ok reached => exact (Consult.agrees_pure _).bind fun _ => Consult.agrees_pure _

/-- Ways to nodes that are called the same and reached alike. -/
structure NodeAccess.Agrees {ν : Type} (bond : Bond σ τ) (left : NodeAccess σ ν)
    (right : NodeAccess τ ν) : Prop where
  name : left.name = right.name
  connect : ∀ node, Fallible.Agrees bond (left.connect node) (right.connect node)
  close : ∀ handle, Fallible.Agrees bond (left.close handle) (right.close handle)

namespace ClusterTracker

variable {ν : Type} {access : NodeAccess σ ν} {access' : NodeAccess τ ν} {inner : Tracker σ}
  {inner' : Tracker τ} {log : Log σ} {log' : Log τ}
  (ha : NodeAccess.Agrees bond access access') (hi : Tracker.Agrees bond inner inner')
  (hl : ∀ notice, bond.Keeps (log notice) (log' notice))

include hl in
theorem nodesToCheck_agrees (found : Except Fault (Option (List ν))) :
    bond.Answers (nodesToCheck log found) (nodesToCheck log' found) := by
  intro s t hm
  match found with
  | .ok (some (node :: nodes)) => exact ⟨rfl, hm⟩
  | .ok (some []) | .ok none => exact ⟨rfl, (hl _ _ _ hm).1⟩
  | .error fault => exact ⟨rfl, (hl _ _ _ hm).1⟩

include ha hl in
theorem closeOpened_agrees (node : ν) (opened : Option Handle) {s : σ} {t : τ}
    (hm : bond.meets s t) :
    bond.meets (closeOpened access log node opened s) (closeOpened access' log' node opened t) := by
  cases opened with
  | none => exact hm
  | some handle =>
    obtain ⟨hr, hw, -, -⟩ := ha.close handle s t hm
    unfold closeOpened
    dsimp only
    rcases hs : access.close handle s with ⟨result, s'⟩
    rcases ht : access'.close handle t with ⟨result', t'⟩
    rw [hs, ht] at hr hw
    obtain rfl : result = result' := hr
    cases result with
    | ok _ => exact hw
    | error fault =>
      rw [ha.name]
      exact (hl _ _ _ hw).1

include ha hi hl

theorem checkNode_agrees (node : ν) :
    bond.Answers (checkNode access inner log node) (checkNode access' inner' log' node) := by
  intro s t hm
  obtain ⟨hr, hw⟩ := hi.isConsistent.runWithHandle (ha.connect node) none s t hm
  unfold checkNode
  rcases hs : inner.isConsistent.runWithHandle (access.connect node) none s with
    ⟨⟨consistent, opened⟩, s'⟩
  rcases ht : inner'.isConsistent.runWithHandle (access'.connect node) none t with
    ⟨⟨consistent', opened'⟩, t'⟩
  rw [hs, ht] at hr hw
  obtain ⟨rfl, rfl⟩ := Prod.mk.inj hr
  rw [ha.name]
  exact ⟨rfl, closeOpened_agrees ha hl node opened (hl _ _ _ hw).1⟩

theorem checkAll_agrees (nodes : List ν) :
    bond.Answers (checkAll access inner log nodes) (checkAll access' inner' log' nodes) := by
  induction nodes with
  | nil => exact fun _ _ hm => ⟨rfl, hm⟩
  | cons node nodes ih =>
    intro s t hm
    obtain ⟨hr, hw⟩ := checkNode_agrees ha hi hl node s t hm
    unfold checkAll
    rcases hs : checkNode access inner log node s with ⟨consistent, s'⟩
    rcases ht : checkNode access' inner' log' node t with ⟨consistent', t'⟩
    rw [hs, ht] at hr hw
    obtain rfl : consistent = consistent' := hr
    cases consistent with
    | true => exact ih s' t' hw
    | false => exact ⟨rfl, hw⟩

theorem tracker_agrees {discover : Consult σ Unit Supply (Except Fault (Option (List ν)))}
    {discover' : Consult τ Unit Supply (Except Fault (Option (List ν)))}
    (hd : Consult.Agrees bond discover discover') :
    Tracker.Agrees bond (tracker access discover inner log)
      (tracker access' discover' inner' log') where
  write := hi.write
  preCommit := hi.preCommit
  isConsistent := by
    apply hd.bind
    intro found
    apply (Consult.agrees_act (nodesToCheck_agrees hl found)).bind
    intro nodes
    cases nodes with
    | nil => exact Consult.agrees_pure false
    | cons node nodes => exact Consult.agrees_act (checkAll_agrees ha hi hl (node :: nodes))

end ClusterTracker

end ReplicaRouting
