import ReplicaRouting.Proofs.Session.Account

/-!
Chains within chains. A chain is a chief itself and may stand among others. The chiefs are then
asked as if those of the inner chain stood in its place, and none is asked any more once the
decision runs on main.
-/

namespace ReplicaRouting

open Chronicle

namespace Chain

variable {σ : Type} {seed : Decision} (replicas : Nat)

theorem decide_of_runsOnMain (h : seed.runsOnMain = true) (chain : Chain σ) :
    chain.decide seed replicas = pure seed := by
  cases chain with
  | nil => rfl
  | cons chief chiefs =>
    unfold decide
    exact if_pos h

theorem decide_cons_of_open (h : seed.runsOnMain = false) (chief : Chief σ) (chiefs : Chain σ) :
    decide (chief :: chiefs) seed replicas =
      chief seed replicas >>= fun settled => decide chiefs settled replicas := by
  simp only [decide, h, Bool.false_eq_true, ↓reduceIte]

/-- The second part of a chain goes on from what the first part has settled on. -/
theorem decide_append (first second : Chain σ) (seed : Decision) :
    decide (first ++ second) seed replicas =
      decide first seed replicas >>= fun settled => decide second settled replicas := by
  induction first generalizing seed with
  | nil => rfl
  | cons chief chiefs ih =>
    cases hmain : seed.runsOnMain with
    | true =>
      -- neither part is asked about a decision that runs on main
      rw [decide_of_runsOnMain replicas hmain, decide_of_runsOnMain replicas hmain]
      exact (decide_of_runsOnMain replicas hmain second).symm
    | false =>
      have hrest : (fun answer => decide (chiefs ++ second) answer replicas) =
          fun answer => decide chiefs answer replicas >>= fun settled =>
            decide second settled replicas := funext ih
      calc
        decide (chief :: (chiefs ++ second)) seed replicas
          = chief seed replicas >>= fun answer => decide (chiefs ++ second) answer replicas :=
            decide_cons_of_open replicas hmain chief _
        _ = chief seed replicas >>= fun answer => decide chiefs answer replicas >>= fun settled =>
              decide second settled replicas := by rw [hrest]
        _ = decide (chief :: chiefs) seed replicas >>= fun settled =>
              decide second settled replicas := by
            rw [decide_cons_of_open replicas hmain, Consult.bind_assoc]

/-- The inner chain looks whether the decision runs on main before it asks its first chief, and so
does the outer one before it asks the inner one. One look is enough. -/
theorem decide_chain_cons (inner after : Chain σ) (seed : Decision) :
    decide (inner.decide :: after) seed replicas = decide (inner ++ after) seed replicas := by
  cases hmain : seed.runsOnMain with
  | true => rw [decide_of_runsOnMain replicas hmain, decide_of_runsOnMain replicas hmain]
  | false => rw [decide_cons_of_open replicas hmain, decide_append]

theorem decide_nested (before inner after : Chain σ) (seed : Decision) :
    decide (before ++ inner.decide :: after) seed replicas =
      decide (before ++ inner ++ after) seed replicas := by
  have hrest : (fun settled => decide (inner.decide :: after) settled replicas) =
      fun settled => decide (inner ++ after) settled replicas :=
    funext (decide_chain_cons replicas inner after)
  rw [decide_append, hrest, ← decide_append, List.append_assoc]

end Chain

/-- A chief was asked about a decision and has made something of it. -/
structure Ruling (ι : Type) where
  chief : ι
  asked : Decision
  answer : Decision

section Records

variable {σ ι : Type}

/-- The chief, with an entry for each of its rulings. -/
def Chief.recorded (name : ι) (chief : Chief σ) : Chief (Chronicle σ (Ruling ι)) :=
  fun decision replicas => do
    let answer ← (chief decision replicas).silently
    Consult.change (noting ⟨name, decision, answer⟩ id)
    return answer

/-- Chiefs that are told apart by name. -/
abbrev Panel (σ ι : Type) : Type := List (ι × Chief σ)

namespace Panel

variable (panel : Panel σ ι)

def chain : Chain σ := panel.map Prod.snd

def names : List ι := panel.map Prod.fst

/-- The chain of the chiefs, with an entry for each ruling. -/
def recorded : Chain (Chronicle σ (Ruling ι)) :=
  panel.map fun (name, chief) => chief.recorded name

end Panel

/-- How the chiefs of a chain are asked, told from their rulings in the order in which they are
given. -/
structure AskedInTurn (names : List ι) (seed : Decision) (rulings : List (Ruling ι))
    (settled : Decision) : Prop where
  order : rulings.map Ruling.chief <+: names
  /-- The first is asked about the seed and every other about the answer of the one before it. -/
  handedOn : rulings.map Ruling.asked ++ [settled] = seed :: rulings.map Ruling.answer
  /-- A chief is asked exactly when nothing before it runs on main. -/
  asked_iff : ∀ index < names.length, index < rulings.length ↔
    ∀ decision ∈ seed :: (rulings.take index).map Ruling.answer, decision.runsOnMain = false
  final : ∀ decision ∈ seed :: rulings.map Ruling.answer,
    decision.runsOnMain = true → decision = settled

namespace AskedInTurn

variable {names : List ι} {seed answer settled : Decision} {rulings : List (Ruling ι)}

theorem of_runsOnMain (h : seed.runsOnMain = true) (names : List ι) :
    AskedInTurn names seed [] seed where
  order := List.nil_prefix
  handedOn := rfl
  asked_iff index _ := by simp [h]
  final _ hd _ := List.mem_singleton.mp hd

theorem nil (seed : Decision) : AskedInTurn ([] : List ι) seed [] seed where
  order := List.nil_prefix
  handedOn := rfl
  asked_iff _ hindex := absurd hindex (Nat.not_lt_zero _)
  final _ hd _ := List.mem_singleton.mp hd

theorem cons (hopen : seed.runsOnMain = false) (name : ι)
    (h : AskedInTurn names answer rulings settled) :
    AskedInTurn (name :: names) seed (⟨name, seed, answer⟩ :: rulings) settled where
  order := (List.prefix_cons_inj name).mpr h.order
  handedOn := congrArg (seed :: ·) h.handedOn
  asked_iff index hindex := by
    cases index with
    | zero => simp [hopen]
    | succ index =>
      -- among the later chiefs it is the one before, and the answer just given is their seed
      have hlater := h.asked_iff index (Nat.lt_of_succ_lt_succ hindex)
      rw [List.length_cons, Nat.succ_lt_succ_iff, hlater, List.take_succ_cons, List.map_cons,
        List.forall_mem_cons (a := seed)]
      exact ⟨fun hall => ⟨hopen, hall⟩, And.right⟩
  final decision hd hmain := by
    rcases List.mem_cons.mp hd with rfl | hd
    · rw [hopen] at hmain
      cases hmain
    · exact h.final decision hd hmain

end AskedInTurn

variable {μ : Type} {replicas : Nat} (reply : Fin replicas → μ → σ → Supply × μ × σ)

/-- A chief that is recorded does what it does otherwise, and what it was asked and has answered is
entered. -/
theorem Chief.run_recorded_bind (name : ι) (chief : Chief σ) (decision : Decision)
    (next : Decision → Consult (Chronicle σ (Ruling ι)) (Fin replicas) Supply Decision)
    (memory : μ) (world : σ) (past : List (Ruling ι)) :
    (chief.recorded name decision replicas >>= next).run (replying reply) memory ⟨world, past⟩ =
      let (answer, memory, world) := (chief decision replicas).run reply memory world
      (next answer).run (replying reply) memory
        ⟨world, past ++ [⟨name, decision, answer⟩]⟩ := by
  unfold recorded
  rw [Consult.bind_assoc, Consult.run_bind, Consult.run_silently]
  rfl

/-- The rulings of a chain, and that recording them changes nothing else. -/
theorem Panel.run_recorded (panel : Panel σ ι) (seed : Decision) (memory : μ) (world : σ)
    (past : List (Ruling ι)) :
    ∃ settled kept after rulings,
      (panel.chain.decide seed replicas).run reply memory world = (settled, kept, after) ∧
      (panel.recorded.decide seed replicas).run (replying reply) memory ⟨world, past⟩ =
        (settled, kept, ⟨after, past ++ rulings⟩) ∧
      AskedInTurn panel.names seed rulings settled := by
  -- each chief is asked about what the one before it has made of the decision, in the world and
  -- with the account that it has left
  induction panel generalizing seed memory world past with
  | nil => exact ⟨seed, memory, world, [], rfl, by rw [List.append_nil]; rfl, .nil seed⟩
  | cons named panel ih =>
    obtain ⟨name, chief⟩ := named
    cases hmain : seed.runsOnMain with
    | true =>
      refine ⟨seed, memory, world, [], ?_, ?_, .of_runsOnMain hmain _⟩
      · rw [Chain.decide_of_runsOnMain replicas hmain]
        rfl
      · rw [Chain.decide_of_runsOnMain replicas hmain, List.append_nil]
        rfl
    | false =>
      rcases hchief : (chief seed replicas).run reply memory world with ⟨answer, kept, between⟩
      obtain ⟨settled, final, after, rulings, hplain, hrecorded, hasked⟩ :=
        ih answer kept between (past ++ [⟨name, seed, answer⟩])
      refine ⟨settled, final, after, ⟨name, seed, answer⟩ :: rulings, ?_, ?_,
        hasked.cons hmain name⟩
      · change (Chain.decide (chief :: Panel.chain panel) seed replicas).run reply memory world = _
        rw [Chain.decide_cons_of_open replicas hmain, Consult.run_bind, hchief]
        exact hplain
      · change (Chain.decide (chief.recorded name :: Panel.recorded panel) seed replicas).run
          (replying reply) memory ⟨world, past⟩ = _
        rw [Chain.decide_cons_of_open replicas hmain, Chief.run_recorded_bind, hchief]
        rw [List.append_assoc, List.singleton_append] at hrecorded
        exact hrecorded

/-- A chain that stands in another one makes no difference. Whatever the chiefs keep in the world
and whoever replies to them, the same ones are asked about the same decisions in the same order as
when the chiefs of the inner chain stand in its place, and the same decision is settled on. A chief
is asked exactly when neither the seed nor any answer before runs on main, so that a decision that
runs on main is final. -/
theorem nested_chain_asks_as_flat (before inner after : Panel σ ι) (seed : Decision)
    (memory : μ) (world : σ) :
    let nested := before.chain ++ inner.chain.decide :: after.chain
    let nestedRecorded := before.recorded ++ inner.recorded.decide :: after.recorded
    let flat : Panel σ ι := before ++ inner ++ after
    Chain.decide nested seed replicas = flat.chain.decide seed replicas ∧
    Chain.decide nestedRecorded seed replicas = flat.recorded.decide seed replicas ∧
    ∃ settled kept later rulings,
      (Chain.decide nested seed replicas).run reply memory world = (settled, kept, later) ∧
      (Chain.decide nestedRecorded seed replicas).run (replying reply) memory ⟨world, []⟩ =
        (settled, kept, ⟨later, rulings⟩) ∧
      AskedInTurn flat.names seed rulings settled := by
  intro nested nestedRecorded flat
  have hchain : flat.chain = before.chain ++ inner.chain ++ after.chain := by
    simp only [flat, Panel.chain, List.map_append]
  have hrecorded : flat.recorded = before.recorded ++ inner.recorded ++ after.recorded := by
    simp only [flat, Panel.recorded, List.map_append]
  have hplain : Chain.decide nested seed replicas = flat.chain.decide seed replicas := by
    rw [hchain]
    exact Chain.decide_nested replicas before.chain inner.chain after.chain seed
  have hwatched : Chain.decide nestedRecorded seed replicas =
      flat.recorded.decide seed replicas := by
    rw [hrecorded]
    exact Chain.decide_nested replicas before.recorded inner.recorded after.recorded seed
  refine ⟨hplain, hwatched, ?_⟩
  rw [hplain, hwatched]
  exact flat.run_recorded reply seed memory world []

/-- The second chief of the inner chain and the one behind that chain are not asked any more. -/
example :
    let staying : Chief Unit := fun decision _ => pure decision
    let locking : Chief Unit := fun decision _ => pure (decision.withReason .lock)
    let inner : Panel Unit Nat := [(1, locking), (2, staying)]
    let nested := Panel.recorded [(0, staying)] ++ inner.recorded.decide ::
      Panel.recorded [(3, staying)]
    let (settled, _, chronicle) := (Chain.decide nested (.read "SELECT 1") 0).run
      (replying fun replica _ _ => replica.elim0) () ⟨(), []⟩
    settled.reason = .lock ∧ chronicle.events.map Ruling.chief = [0, 1] := ⟨rfl, rfl⟩

end Records

end ReplicaRouting
