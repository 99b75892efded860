import Mathlib.Control.Monad.Basic
import ReplicaRouting.Proofs.Session.Agreement
import ReplicaRouting.Session.Deployment

/-!
Chronicles of what collaborators do. A watched deployment does what the plain one does and keeps an
account of it: every request to the database with its result, every replica handle that the tracker
got, and the verdict it came to.
-/

namespace ReplicaRouting

/-- A world with an account of what has happened in it, oldest first. -/
structure Chronicle (σ ε : Type) where
  world : σ
  events : List ε

namespace Chronicle

variable {σ ε α : Type}

def onWorld (f : σ → σ) (chronicle : Chronicle σ ε) : Chronicle σ ε :=
  { chronicle with world := f chronicle.world }

/-- Do something that the account passes over. -/
def silently (action : StateM σ α) : StateM (Chronicle σ ε) α := fun chronicle =>
  let (answer, world) := action chronicle.world
  (answer, { chronicle with world })

/-- Do something and enter how it ended. -/
def entering (entry : Except Fault α → ε) (action : Fallible σ α) :
    Fallible (Chronicle σ ε) α := fun chronicle =>
  let (result, world) := action chronicle.world
  (result, { world, events := chronicle.events ++ [entry result] })

/-- Change the world and enter that. -/
def noting (entry : ε) (f : σ → σ) (chronicle : Chronicle σ ε) : Chronicle σ ε where
  world := f chronicle.world
  events := chronicle.events ++ [entry]

/-- A world and any chronicle of it. -/
def erasing : Bond σ (Chronicle σ ε) where
  meets world chronicle := chronicle.world = world

theorem erasing_noting (entry : ε) (f : σ → σ) : erasing.Keeps f (noting entry f) := by
  rintro _ chronicle rfl
  exact ⟨rfl, id⟩

theorem entering_events {entry : Except Fault α → ε} {action : Fallible σ α}
    {chronicle later : Chronicle σ ε} {result : Except Fault α}
    (h : entering entry action chronicle = (result, later)) :
    later.events = chronicle.events ++ [entry result] := by
  cases h
  rfl

end Chronicle

/-- What may happen to a database and a tracker in the course of a read. -/
inductive Event where
  | opened (kind : HandleKind) (result : Except Fault ConnectionId)
  | called (connection : ConnectionId) (call : Call) (result : Except Fault Unit)
  | collected (connection : ConnectionId) (result : Except Fault (List Warning))
  /-- The tracker asked for the replica. -/
  | supplied (reply : Supply)
  /-- The tracker has said whether the replica is consistent. -/
  | judged (consistent : Bool)
deriving DecidableEq

/-- Whether the database failed. -/
def Event.isFailure : Event → Bool
  | opened _ (.error _) | called _ _ (.error _) | collected _ (.error _) => true
  | _ => false

/-- Whether the tracker had a part in it. -/
def Event.ofTracker : Event → Bool
  | supplied _ | judged _ => true
  | _ => false

open Chronicle

section Watching

variable {σ q : Type}

/-- The database, with an entry for every request. -/
def Database.watched (database : Database σ) : Database (Chronicle σ Event) where
  replicaAvailable := silently database.replicaAvailable
  openMain := entering (.opened .main) database.openMain
  openReplica := entering (.opened .replica) database.openReplica
  call connection call := entering (.called connection call) (database.call connection call)
  warnings connection := entering (.collected connection) (database.warnings connection)

/-- The consultation, with an entry for every reply it gets and for its answer. -/
def Inquiry.watched : Inquiry σ q Supply Bool → List Event →
    Inquiry (Chronicle σ Event) q Supply Bool
  | answered consistent world, events =>
    answered consistent { world, events := events ++ [.judged consistent] }
  | asking question world resume, events =>
    asking question { world, events } fun reply chronicle =>
      (resume reply chronicle.world).watched (chronicle.events ++ [.supplied reply])

def Tracker.watched (tracker : Tracker σ) : Tracker (Chronicle σ Event) where
  write main := onWorld (tracker.write main)
  preCommit main := onWorld (tracker.preCommit main)
  isConsistent chronicle := (tracker.isConsistent chronicle.world).watched chronicle.events

def Deployment.watched (deployment : Deployment σ) : Deployment (Chronicle σ Event) where
  database := deployment.database.watched
  tracker := deployment.tracker.watched
  classifier := deployment.classifier
  breaker :=
    { get := fun chronicle => deployment.breaker.get chronicle.world
      set := fun breaker => onWorld (deployment.breaker.set breaker) }
  listener before after := onWorld (deployment.listener before after)
  log notice := onWorld (deployment.log notice)

end Watching

section Agreement

variable {σ α : Type}

/-- A world and a chronicle of it with a given account of the tracker. The chronicle is to blame
for a failure that it has an entry for. -/
def watching (account : List Event) : Bond σ (Chronicle σ Event) where
  meets world chronicle :=
    chronicle.world = world ∧ chronicle.events.filter (·.ofTracker) = account
  blamed chronicle := ∃ event ∈ chronicle.events, event.isFailure = true

variable {account : List Event}

theorem keeps_onWorld (f : σ → σ) : (watching account).Keeps f (onWorld f) := by
  rintro _ chronicle ⟨rfl, hv⟩
  exact ⟨⟨rfl, hv⟩, id⟩

theorem agrees_entering {entry : Except Fault α → Event}
    (ht : ∀ result, (entry result).ofTracker = false)
    (hf : ∀ fault, (entry (.error fault)).isFailure = true) (action : Fallible σ α) :
    Fallible.Agrees (watching account) action (entering entry action) := by
  rintro _ ⟨world, events⟩ ⟨rfl, hv⟩
  refine ⟨rfl, ⟨rfl, ?_⟩, ?_, ?_⟩
  · change (events ++ [entry (action world).1]).filter (·.ofTracker) = account
    rw [List.filter_append, List.filter_cons_of_neg (by simp [ht]), List.filter_nil,
      List.append_nil]
    exact hv
  · rintro ⟨event, he, hb⟩
    exact ⟨event, List.mem_append_left _ he, hb⟩
  · intro fault h
    refine ⟨entry (.error fault), List.mem_append_right events ?_, hf fault⟩
    rw [← h]
    exact List.mem_singleton_self _

theorem Database.watched_agrees (database : Database σ) :
    Database.Agrees (watching account) database database.watched where
  available := by
    rintro _ chronicle ⟨rfl, hv⟩
    exact ⟨rfl, rfl, hv⟩
  openMain := agrees_entering (fun _ => rfl) (fun _ => rfl) _
  openReplica := agrees_entering (fun _ => rfl) (fun _ => rfl) _
  call _ _ := agrees_entering (fun _ => rfl) (fun _ => rfl) _
  warnings _ := agrees_entering (fun _ => rfl) (fun _ => rfl) _

theorem Deployment.watched_surround (deployment : Deployment σ) :
    Collaborators.Surround (watching account) deployment.collaborators
      deployment.watched.collaborators where
  database := deployment.database.watched_agrees
  listener before after := keeps_onWorld (deployment.listener before after)
  log notice := keeps_onWorld (deployment.log notice)

end Agreement

section Verdicts

open Consult

variable {σ q : Type} (database : Database σ)

theorem Database.replicaHandle_watched (world : σ) (events : List Event) :
    database.watched.replicaHandle ⟨world, events⟩ =
      ((database.replicaHandle world).1, ⟨(database.replicaHandle world).2,
        events ++ [.opened .replica (database.openReplica world).1]⟩) := by
  unfold Database.replicaHandle
  rw [Fallible.bind_apply, Fallible.bind_apply]
  simp only [Database.watched, entering]
  rcases database.openReplica world with ⟨_ | _, _⟩ <;> rfl

/-- A watched reply is the plain reply, and the tracker has no part in what it enters. -/
theorem replyWithHandle_watched (question : q) (held : Option Handle) (world : σ)
    (events : List Event) {reply : Supply} {kept : Option Handle} {after : σ}
    (h : replyWithHandle database.replicaHandle question held world = (reply, kept, after)) :
    ∃ more : List Event, more.filter (·.ofTracker) = [] ∧
      replyWithHandle database.watched.replicaHandle question held ⟨world, events⟩ =
        (reply, kept, ⟨after, events ++ more⟩) ∧
      ∀ handle, reply = .ok handle → kept = some handle := by
  cases held with
  | some handle =>
    cases h
    refine ⟨[], rfl, ?_, by simp⟩
    rw [List.append_nil]
    rfl
  | none =>
    refine ⟨[.opened .replica (database.openReplica world).1], rfl, ?_⟩
    have hw := Database.replicaHandle_watched database world events
    unfold replyWithHandle at h ⊢
    dsimp only at h ⊢
    rcases ho : database.replicaHandle world with ⟨fault | handle, world'⟩ <;>
      rw [ho] at h hw <;> rw [hw] <;> cases h
    · exact ⟨rfl, by simp⟩
    · exact ⟨rfl, by simp⟩

theorem filter_snoc_ofTracker {event : Event} (h : event.ofTracker = true) (events : List Event) :
    (events ++ [event]).filter (·.ofTracker) = events.filter (·.ofTracker) ++ [event] := by
  rw [List.filter_append, List.filter_cons_of_pos h, List.filter_nil]

/-- Watching a consultation changes nothing. The account grows by the replies and the verdict, and
whatever handle the tracker got is the one held at the end. -/
theorem Inquiry.run_watched (inquiry : Inquiry σ q Supply Bool) (events : List Event)
    {held final : Option Handle} {verdict : Bool} {after : σ}
    (h : inquiry.run (replyWithHandle database.replicaHandle) held = (verdict, final, after)) :
    ∃ (replies : List Supply) (later : List Event),
      (inquiry.watched events).run (replyWithHandle database.watched.replicaHandle) held =
        (verdict, final, ⟨after, later⟩) ∧
      later.filter (·.ofTracker) =
        events.filter (·.ofTracker) ++ (replies.map .supplied ++ [.judged verdict]) ∧
      ∀ handle, .ok handle ∈ replies → final = some handle := by
  -- the account and the handle held so far grow along the way
  induction inquiry generalizing events held with
  | answered consistent world =>
    cases h
    exact ⟨[], _, rfl, filter_snoc_ofTracker rfl events, by simp⟩
  | asking question world resume ih =>
    rcases hp : replyWithHandle database.replicaHandle question held world with
      ⟨reply, kept, world'⟩
    obtain ⟨more, hf, hw, hk⟩ := replyWithHandle_watched database question held world events hp
    simp only [Inquiry.run, hp] at h
    obtain ⟨replies, later, hr, hl, hs⟩ := ih reply world' (events ++ more ++ [.supplied reply]) h
    refine ⟨reply :: replies, later, ?_, ?_, ?_⟩
    · simp only [Inquiry.watched, Inquiry.run, hw]
      exact hr
    · rw [hl, filter_snoc_ofTracker rfl, List.filter_append, hf]
      simp only [List.append_nil, List.map_cons, List.cons_append, List.append_assoc,
        List.nil_append]
    · intro handle hm
      rcases List.mem_cons.mp hm with rfl | hm
      · -- from the first handle on, that handle is held
        have hfinal := run_kept database.replicaHandle handle (resume (.ok handle) world')
        rw [← hk handle rfl, h] at hfinal
        rw [← hk handle rfl]
        exact hfinal
      · exact hs handle hm

/-- Watching the tracker changes nothing but the account. That ends up with one verdict, and with
no other handle than the one held at the end. -/
theorem Tracker.watched_run (tracker : Tracker σ) {world after : σ} {held final : Option Handle}
    {verdict : Bool}
    (h : tracker.isConsistent.runWithHandle database.replicaHandle held world =
      ((verdict, final), after)) :
    ∃ later : List Event,
      tracker.watched.isConsistent.runWithHandle database.watched.replicaHandle held ⟨world, []⟩ =
        ((verdict, final), ⟨after, later⟩) ∧
      (∀ consistent, .judged consistent ∈ later ↔ consistent = verdict) ∧
      ∀ handle, .supplied (.ok handle) ∈ later → final = some handle := by
  rw [runWithHandle_eq] at h
  rcases hr : tracker.isConsistent.run (replyWithHandle database.replicaHandle) held world with
    ⟨verdict', final', after'⟩
  rw [hr] at h
  cases h
  obtain ⟨replies, later, hw, hl, hs⟩ :=
    Inquiry.run_watched database (tracker.isConsistent world) [] hr
  -- membership in the account of the tracker is membership in the whole account
  have hmem (event : Event) (ht : event.ofTracker = true) :
      event ∈ later ↔ event ∈ replies.map Event.supplied ++ [.judged verdict] := by
    have hf : event ∈ later.filter (·.ofTracker) ↔ event ∈ later ∧ event.ofTracker = true :=
      List.mem_filter
    rw [hl] at hf
    simpa [ht] using hf.symm
  refine ⟨later, ?_, fun consistent => ?_, fun handle hm => hs handle ?_⟩
  · rw [runWithHandle_eq]
    exact congrArg (fun seen => ((seen.1, seen.2.1), seen.2.2)) hw
  · rw [hmem _ rfl]
    simp
  · rw [hmem _ rfl] at hm
    simpa using hm

end Verdicts

end ReplicaRouting
