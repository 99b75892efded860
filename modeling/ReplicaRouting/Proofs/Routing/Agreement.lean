import Mathlib.Data.List.Forall2
import ReplicaRouting.Proofs.Session.Agreement
import ReplicaRouting.Session.Deployment

/-!
Standard chains that agree: their chiefs do, as soon as breakers, classifiers and trackers do.
-/

namespace ReplicaRouting

variable {σ τ : Type} {bond : Bond σ τ}

def Chief.Agrees (bond : Bond σ τ) (left : Chief σ) (right : Chief τ) : Prop :=
  ∀ seed replicas, Consult.Agrees bond (left seed replicas) (right seed replicas)

theorem Chain.decide_agrees {left : Chain σ} {right : Chain τ}
    (h : List.Forall₂ (Chief.Agrees bond) left right) :
    Chief.Agrees bond left.decide right.decide := by
  intro seed replicas
  induction h generalizing seed with
  | nil => exact Consult.agrees_pure seed
  | cons hchief _ ih =>
    unfold decide
    split
    · exact Consult.agrees_pure seed
    · exact (hchief seed replicas).bind ih

theorem Chief.breaker_agrees {left : Cell σ Breaker} {right : Cell τ Breaker}
    (h : ∀ s t, bond.meets s t → left.get s = right.get t) :
    Chief.Agrees bond (Chief.breaker left) (Chief.breaker right) := by
  intro seed replicas
  apply (Consult.agrees_look fun s t hm => congrArg Breaker.isOpen (h s t hm)).bind
  intro isOpen
  split
  · exact Consult.agrees_pure _
  · exact Consult.agrees_pure _

theorem Chief.writes_agrees (classifier : Classifier) :
    Chief.Agrees bond (Chief.writes classifier) (Chief.writes classifier) := by
  intro seed replicas
  unfold Chief.writes
  split
  · exact Consult.agrees_pure _
  split
  · exact Consult.agrees_pure _
  · exact Consult.agrees_pure _

theorem Chief.consistency_agrees {left : Tracker σ} {right : Tracker τ} {log : Log σ}
    {log' : Log τ} (h : Consult.Agrees bond left.isConsistent right.isConsistent)
    (hl : ∀ notice, bond.Keeps (log notice) (log' notice)) :
    Chief.Agrees bond (Chief.consistency left log) (Chief.consistency right log') := by
  intro seed replicas
  cases replicas with
  | zero => exact (Consult.agrees_change (hl _)).bind fun _ => Consult.agrees_pure _
  | succ replicas =>
    apply (h.mapQuestion _).bind
    intro consistent
    split
    · exact Consult.agrees_pure _
    · exact (Consult.agrees_change (hl _)).bind fun _ => Consult.agrees_pure _

structure Surroundings.Agrees (bond : Bond σ τ) (left : Surroundings σ)
    (right : Surroundings τ) : Prop where
  database : Database.Agrees bond left.database right.database
  classifier : left.classifier = right.classifier
  breaker : ∀ s t, bond.meets s t → left.breaker.get s = right.breaker.get t
  listener : ∀ before after, bond.Keeps (left.listener before after) (right.listener before after)
  log : ∀ notice, bond.Keeps (left.log notice) (right.log notice)

structure Tracker.Agrees (bond : Bond σ τ) (left : Tracker σ) (right : Tracker τ) : Prop where
  write : ∀ main, bond.Keeps (left.write main) (right.write main)
  preCommit : ∀ main, bond.Keeps (left.preCommit main) (right.preCommit main)
  isConsistent : Consult.Agrees bond left.isConsistent right.isConsistent

theorem Surroundings.Agrees.surround {left : Deployment σ} {right : Deployment τ}
    (h : Surroundings.Agrees bond left.toSurroundings right.toSurroundings) :
    Collaborators.Surround bond left.collaborators right.collaborators :=
  ⟨h.database, h.listener, h.log⟩

theorem Surroundings.Agrees.collaborators {left : Deployment σ} {right : Deployment τ}
    (h : Surroundings.Agrees bond left.toSurroundings right.toSurroundings)
    (ht : Tracker.Agrees bond left.tracker right.tracker) :
    Collaborators.Agrees bond left.collaborators right.collaborators where
  toSurround := h.surround
  write := ht.write
  preCommit := ht.preCommit
  decide := by
    apply Chain.decide_agrees
    refine .cons (Chief.breaker_agrees h.breaker) (.cons ?_ (.cons ?_ .nil))
    · rw [h.classifier]
      exact Chief.writes_agrees _
    · exact Chief.consistency_agrees ht.isConsistent h.log

end ReplicaRouting
