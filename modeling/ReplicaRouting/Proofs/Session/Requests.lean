import ReplicaRouting.Proofs.Session.Conduct

/-!
What the provider is asked for. Taking main asks for main alone, and parting with a handle asks for
nothing, so that of all operations only a read may ask for a replica, and only if its decision is
not for main once it is settled.
-/

namespace ReplicaRouting

/-- Whether the provider was asked for a connection of the kind. -/
def Event.asks (kind : HandleKind) : Event → Bool
  | .opened other _ => other = kind
  | _ => false

/-- The provider was not asked for a connection of the kind. -/
def Unasked (kind : HandleKind) (events : List Event) : Prop :=
  ∀ event ∈ events, event.asks kind = false

section Events

variable {kind : HandleKind} {events more : List Event} {event : Event}

theorem Unasked.nil : Unasked kind [] := List.forall_mem_nil _

theorem Unasked.cons (he : event.asks kind = false) (h : Unasked kind events) :
    Unasked kind (event :: events) :=
  List.forall_mem_cons.mpr ⟨he, h⟩

theorem Unasked.append (h : Unasked kind events) (hm : Unasked kind more) :
    Unasked kind (events ++ more) :=
  List.forall_mem_append.mpr ⟨h, hm⟩

theorem Unasked.of_calls (h : ∀ event ∈ events, event.isCall = true) : Unasked kind events := by
  intro event he
  have hc := h event he
  unfold Event.asks
  split
  · cases hc
  · rfl

end Events

namespace Session

variable {session later : Session} {decision : Decision} {events : List Event}
  {result : Except Fault Handle} {ended : Except Fault Unit} {kind other : HandleKind}

theorem Calling.unasked {connection : ConnectionId} {calls : List Call}
    (h : Calling connection calls ended events) : Unasked kind events := by
  induction h with
  | done => exact .nil
  | failed => exact .cons rfl .nil
  | next _ _ ih => exact .cons rfl ih

theorem Closing.unasked (h : Closing kind session ended later events) : Unasked other events := by
  cases h with
  | vacant => exact .nil
  | closed => exact .cons rfl (.cons rfl .nil)

theorem Aborting.unasked {deadline : Span} (h : Aborting deadline kind session ended later events) :
    Unasked other events := by
  cases h with
  | vacant => exact .nil
  | aborted => exact .cons rfl .nil

theorem Releasing.unasked {main : Handle} (h : Releasing main session ended later events) :
    Unasked kind events := by
  cases h with
  | dropped => exact .nil
  | closed _ closes => exact closes.unasked

theorem TakingMain.unasked (h : TakingMain session decision result later events) :
    Unasked .replica events := by
  cases h with
  | kept _ releases => exact releases.unasked
  | refused => exact .cons rfl .nil
  | unreleased _ releases => exact .cons rfl releases.unasked
  | opened _ releases brings => exact .cons rfl (releases.unasked.append brings.unasked)

theorem Pinning.unasked (h : Pinning session decision result later events) :
    Unasked .replica events := by
  cases h with
  | taken takes => exact takes.unasked

theorem Diverting.unasked (h : Diverting session decision result later events) :
    Unasked .replica events := by
  cases h with
  | forGood _ pins => exact pins.unasked
  | untilCaughtUp _ takes => exact takes.unasked

theorem Ending.unasked
    {slot : HandleKind → Session → Except Fault Unit → Session → List Event → Prop}
    (hslot : ∀ {kind session result later events}, slot kind session result later events →
      Unasked other events)
    (h : Ending slot session ended later events) : Unasked other events := by
  cases h with
  | again => exact .nil
  | ended _ mainEnds replicaEnds => exact (hslot mainEnds).append (hslot replicaEnds)

/-- Only a read asks for a replica. -/
theorem Performing.unasked {operation : Operation} {answer : Except Fault Answer}
    (h : Performing session operation answer later events)
    (ho : ∀ seed, operation ≠ .readHandle seed) : Unasked .replica events := by
  cases h with
  | read seed => exact absurd rfl (ho seed)
  | write _ writes =>
    cases writes with
    | refused => exact .nil
    | pinned _ pins => exact pins.unasked
  | close ends => exact ends.unasked fun h => h.unasked
  | abort _ ends => exact ends.unasked fun h => h.unasked
  | aside _ _ haside => exact .of_calls haside.calls

section Following

open Act

variable {σ : Type} (among : Collaborators σ) (session : Session) (settled : Decision)

/-- To adopt a replica asks for none, and where there is none to adopt nothing is done. -/
theorem adoptReplica_adopting (opened : Option Handle) :
    Proceeds (adoptReplica among.watched settled opened) session fun _ later events =>
      later = session.adopting settled opened ∧ Unasked .replica events ∧
        (opened = none → events = []) := by
  apply proceeds_session
  cases opened with
  | none => split <;> exact proceeds_pure () ⟨rfl, .nil, fun _ => rfl⟩
  | some handle =>
    cases hr : session.replica with
    | ready held since =>
      have hsame : session.adopting settled (some handle) = session := by
        rw [adopting, hr, Slot.install, ← hr]
      exact proceeds_pure () ⟨hsame.symm, .nil, by rintro ⟨⟩⟩
    | absent =>
      apply proceeds_update
      apply (bringInLine_calling among _ handle).mono
      exact fun _ _ hbrings => ⟨by rw [adopting, hr], hbrings.unasked, by rintro ⟨⟩⟩

/-- A decision for main is followed without a look at any replica that is not there already. -/
theorem followRoute_onMain_unasked (route : Route) (hm : settled.runsOnMain = true) :
    Proceeds (followRoute among.watched settled route) session
      fun _ _ events => Unasked .replica events := by
  cases route with
  | main => exact (takeMain_takingMain among session settled).mono fun _ _ _ ht => ht.unasked
  | withoutReplica =>
    exact (divertToMain_diverting among session settled).mono fun _ _ _ hd => hd.unasked
  | byChain opened =>
    unfold followRoute
    apply (adoptReplica_adopting among session settled opened).bind
    · exact fun _ _ _ ⟨_, hadopts, _⟩ => hadopts
    rintro _ adopted events ⟨-, hadopts, -⟩
    rw [if_pos hm]
    exact (divertToMain_diverting among adopted settled).mono fun _ _ _ hd =>
      hadopts.append hd.unasked

end Following

end Session

end ReplicaRouting
