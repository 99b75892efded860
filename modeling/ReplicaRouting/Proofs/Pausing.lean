import ReplicaRouting.Proofs.Consult

/-!
Consultations that pause. While one waits for a reply the world goes on without it. What it comes to
in the end rests on a rule for all who work on that world.
-/

namespace ReplicaRouting

/-- A rule for a world that several work on. -/
structure Regime (σ : Type) where
  /-- What a consultation does to the world between two pauses. -/
  does : σ → σ → Prop
  /-- What may become of the world during a pause. -/
  happens : σ → σ → Prop
  /-- What the world fulfils at every pause. -/
  holds : σ → Prop
  does_refl : ∀ world, does world world
  does_trans : ∀ {first second third}, does first second → does second third → does first third
  happens_of_does : ∀ {before after}, does before after → happens before after

/-- A fact about a value that no time takes back. -/
def Regime.Lasting {σ α : Type} (regime : Regime σ) (P : α → σ → Prop) : Prop :=
  ∀ value before after, regime.happens before after → P value before → P value after

namespace Inquiry

variable {σ q r α β : Type}

/-- From a world on, the inquiry keeps to the rule, and its answer is as expected whatever happens
during its pauses. -/
inductive Upholds (regime : Regime σ) (expected : α → σ → Prop) : σ → Inquiry σ q r α → Prop where
  | answered {since world : σ} {answer : α} (does : regime.does since world)
      (holds : regime.holds world) (asExpected : expected answer world) :
    Upholds regime expected since (.answered answer world)
  | asking {since world : σ} {question : q} {resume : r → σ → Inquiry σ q r α}
      (does : regime.does since world) (holds : regime.holds world)
      (goesOn : ∀ reply later, regime.happens world later → regime.holds later →
        Upholds regime expected later (resume reply later)) :
    Upholds regime expected since (.asking question world resume)

namespace Upholds

variable {regime : Regime σ} {expected : α → σ → Prop} {since earlier : σ}
  {inquiry : Inquiry σ q r α}

theorem begun_earlier (h : Upholds regime expected since inquiry)
    (hd : regime.does earlier since) : Upholds regime expected earlier inquiry := by
  cases h with
  | answered does holds asExpected =>
    exact .answered (regime.does_trans hd does) holds asExpected
  | asking does holds goesOn => exact .asking (regime.does_trans hd does) holds goesOn

theorem mono {other : α → σ → Prop} (h : Upholds regime expected since inquiry)
    (ho : ∀ answer world, expected answer world → other answer world) :
    Upholds regime other since inquiry := by
  induction h with
  | answered does holds asExpected => exact .answered does holds (ho _ _ asExpected)
  | asking does holds _ ih => exact .asking does holds ih

theorem bind {final : β → σ → Prop} {next : α → Consult σ q r β}
    (h : Upholds regime expected since inquiry)
    (hn : ∀ answer world, regime.holds world → expected answer world →
      Upholds regime final world (next answer world)) :
    Upholds regime final since (inquiry.bind next) := by
  induction h with
  | answered does holds asExpected => exact (hn _ _ holds asExpected).begun_earlier does
  | asking does holds _ ih => exact .asking does holds ih

/-- Run without a pause, the inquiry answers as expected. -/
theorem run {μ : Type} {reply : q → μ → σ → r × μ × σ}
    (h : Upholds regime expected since inquiry)
    (hr : ∀ question memory world, regime.holds world →
      regime.happens world (reply question memory world).2.2 ∧
        regime.holds (reply question memory world).2.2) (memory : μ) :
    expected (inquiry.run reply memory).1 (inquiry.run reply memory).2.2 := by
  -- who replies at once is one of those by whom the world may go on
  induction h generalizing memory with
  | answered _ _ asExpected => exact asExpected
  | asking _ holds _ ih =>
    obtain ⟨hh, hl⟩ := hr _ memory _ holds
    exact ih _ _ hh hl _

end Upholds

end Inquiry

namespace Consult

variable {σ q r α β : Type} {regime : Regime σ} {expected : α → σ → Prop}

/-- Wherever it begins, the consultation keeps to the rule and answers as expected. -/
def Upholds (regime : Regime σ) (consult : Consult σ q r α) (expected : α → σ → Prop) : Prop :=
  ∀ world, regime.holds world → Inquiry.Upholds regime expected world (consult world)

theorem upholds_ask (question : q) :
    Upholds regime (ask question : Consult σ q r r) fun _ _ => True :=
  fun world hw => .asking (regime.does_refl world) hw fun _ later _ hl =>
    .answered (regime.does_refl later) hl trivial

theorem upholds_act {action : StateM σ α}
    (h : ∀ world, regime.holds world →
      regime.does world (action world).2 ∧ regime.holds (action world).2 ∧
        expected (action world).1 (action world).2) :
    Upholds regime (act action : Consult σ q r α) expected := by
  intro world hw
  obtain ⟨hd, hl, he⟩ := h world hw
  exact .answered hd hl he

theorem Upholds.bind {consult : Consult σ q r α} {next : α → Consult σ q r β}
    {final : β → σ → Prop} (h : Upholds regime consult expected)
    (hn : ∀ answer world, regime.holds world → expected answer world →
      Inquiry.Upholds regime final world (next answer world)) :
    Upholds regime (consult >>= next) final :=
  fun world hw => (h world hw).bind hn

end Consult

end ReplicaRouting
