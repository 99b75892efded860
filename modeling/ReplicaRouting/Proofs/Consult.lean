import ReplicaRouting.Tracker

/-!
Running consultations: what goes on after an answer, what becomes of the memory of the one who
replies, and which handle is held at the end.
-/

namespace ReplicaRouting

namespace Inquiry

variable {σ q r s α β μ : Type}

theorem run_bind (reply : q → μ → σ → r × μ × σ) (next : α → Consult σ q r β)
    (inquiry : Inquiry σ q r α) (memory : μ) :
    (inquiry.bind next).run reply memory =
      let (answer, memory, world) := inquiry.run reply memory
      (next answer world).run reply memory := by
  -- every reply may change the memory, so it cannot be fixed beforehand
  induction inquiry generalizing memory with
  | answered answer world => rfl
  | asking question world resume ih => exact ih _ _ _

theorem run_mapQuestion (f : q → s) (reply : s → μ → σ → r × μ × σ) (inquiry : Inquiry σ q r α)
    (memory : μ) :
    (inquiry.mapQuestion f).run reply memory =
      inquiry.run (fun question => reply (f question)) memory := by
  induction inquiry generalizing memory with
  | answered answer world => rfl
  | asking question world resume ih => exact ih _ _ _

/-- What every reply keeps of the memory holds at the end. -/
theorem run_memory {P : μ → Prop} {reply : q → μ → σ → r × μ × σ}
    (hk : ∀ question memory world, P memory → P (reply question memory world).2.1)
    (inquiry : Inquiry σ q r α) {memory : μ} (hm : P memory) :
    P (inquiry.run reply memory).2.1 := by
  induction inquiry generalizing memory with
  | answered answer world => exact hm
  | asking question world resume ih => exact ih _ _ (hk question memory world hm)

theorem bind_answered (inquiry : Inquiry σ q r α) : inquiry.bind .answered = inquiry := by
  induction inquiry with
  | answered answer world => rfl
  | asking question world resume ih =>
    simp only [bind, asking.injEq, true_and]
    funext reply world
    exact ih reply world

theorem bind_assoc {γ : Type} (inquiry : Inquiry σ q r α) (next : α → Consult σ q r β)
    (last : β → Consult σ q r γ) :
    (inquiry.bind next).bind last =
      inquiry.bind fun answer world => (next answer world).bind last := by
  induction inquiry with
  | answered answer world => rfl
  | asking question world resume ih =>
    simp only [bind, asking.injEq, true_and]
    funext reply world
    exact ih reply world

end Inquiry

namespace Consult

variable {σ q s α β : Type}

theorem bind_of_answered {r : Type} {consult : Consult σ q r α} {world after : σ} {answer : α}
    (h : consult world = .answered answer after) (next : α → Consult σ q r β) :
    (consult >>= next) world = next answer after := by
  change (consult world).bind next = _
  rw [h]
  rfl

theorem look_bind {r : Type} (view : σ → α) (next : α → Consult σ q r β) (world : σ) :
    (look view >>= next) world = next (view world) world := rfl

theorem change_bind {r : Type} (f : σ → σ) (next : Unit → Consult σ q r β) (world : σ) :
    (change f >>= next) world = next () (f world) := rfl

theorem bind_pure {r : Type} (consult : Consult σ q r α) : (consult >>= pure) = consult := by
  funext world
  exact Inquiry.bind_answered (consult world)

theorem bind_assoc {r γ : Type} (consult : Consult σ q r α) (next : α → Consult σ q r β)
    (last : β → Consult σ q r γ) :
    ((consult >>= next) >>= last) = consult >>= fun answer => next answer >>= last := by
  funext world
  exact Inquiry.bind_assoc (consult world) next last

theorem run_bind {r μ : Type} (reply : q → μ → σ → r × μ × σ) (consult : Consult σ q r α)
    (next : α → Consult σ q r β) (memory : μ) (world : σ) :
    (consult >>= next).run reply memory world =
      let (answer, memory, world) := consult.run reply memory world
      (next answer).run reply memory world :=
  Inquiry.run_bind reply next (consult world) memory

/-- How questions are answered with a handle that is opened on the first of them. -/
def replyWithHandle (supply : Fallible σ Handle) (_ : q) (held : Option Handle) (world : σ) :
    Supply × Option Handle × σ :=
  match held with
  | some handle => (.ok handle, held, world)
  | none =>
    match supply world with
    | (.ok handle, world) => (.ok handle, some handle, world)
    | (.error fault, world) => (.error fault, none, world)

variable (supply : Fallible σ Handle) (held : Option Handle) (world : σ)

theorem runWithHandle_eq (consult : Consult σ q Supply α) :
    consult.runWithHandle supply held world =
      let (answer, held, world) := consult.run (replyWithHandle supply) held world
      ((answer, held), world) := rfl

theorem runWithHandle_of_answered {consult : Consult σ q Supply α} {answer : α} {after : σ}
    (h : consult world = .answered answer after) :
    consult.runWithHandle supply held world = ((answer, held), after) := by
  rw [runWithHandle_eq]
  unfold run
  rw [h]
  rfl

theorem runWithHandle_congr {consult consult' : Consult σ q Supply α} {world world' : σ}
    (h : consult world = consult' world') :
    consult.runWithHandle supply held world = consult'.runWithHandle supply held world' := by
  rw [runWithHandle_eq, runWithHandle_eq]
  unfold run
  rw [h]

theorem runWithHandle_look (view : σ → α) (next : α → Consult σ q Supply β) :
    (look view >>= next).runWithHandle supply held world =
      (next (view world)).runWithHandle supply held world := rfl

theorem runWithHandle_ask (question : q) :
    (ask question : Consult σ q Supply Supply).runWithHandle supply held world =
      let (reply, kept, asked) := replyWithHandle supply question held world
      ((reply, kept), asked) := rfl

theorem runWithHandle_act (action : StateM σ α) :
    (act action : Consult σ q Supply α).runWithHandle supply held world =
      (((action world).1, held), (action world).2) := rfl

theorem runWithHandle_bind (consult : Consult σ q Supply α) (next : α → Consult σ q Supply β) :
    (consult >>= next).runWithHandle supply held world =
      let ((answer, held), world) := consult.runWithHandle supply held world
      (next answer).runWithHandle supply held world := by
  simp only [runWithHandle_eq]
  rw [run_bind]

theorem runWithHandle_mapQuestion (f : q → s) (consult : Consult σ q Supply α) :
    (consult.mapQuestion f).runWithHandle supply held world =
      consult.runWithHandle supply held world := by
  simp only [runWithHandle_eq]
  change (let (answer, held, world) :=
    ((consult world).mapQuestion f).run (replyWithHandle supply) held; ((answer, held), world)) = _
  rw [Inquiry.run_mapQuestion]
  rfl

/-- The handle held at the end was held before or supplied. -/
theorem runWithHandle_held {P : Handle → Prop} (hh : ∀ handle, held = some handle → P handle)
    (hs : ∀ world handle after, supply world = (.ok handle, after) → P handle)
    (consult : Consult σ q Supply α) (handle : Handle)
    (h : (consult.runWithHandle supply held world).1.2 = some handle) : P handle := by
  have hk : ∀ (question : q) (memory : Option Handle) (world : σ),
      (∀ handle, memory = some handle → P handle) →
      ∀ handle, (replyWithHandle supply question memory world).2.1 = some handle → P handle := by
    intro question memory world hm handle hr
    cases memory with
    | some kept => exact hm handle hr
    | none =>
      unfold replyWithHandle at hr
      rcases ho : supply world with ⟨_ | fresh, after⟩
      · simp [ho] at hr
      · simp only [ho, Option.some.injEq] at hr
        exact hr ▸ hs world fresh after ho
  exact Inquiry.run_memory hk (consult world) hh handle h

/-- A handle that is held from the start is the one held at the end. -/
theorem run_kept (handle : Handle) (inquiry : Inquiry σ q Supply α) :
    (inquiry.run (replyWithHandle supply) (some handle)).2.1 = some handle :=
  Inquiry.run_memory (fun _ memory _ (hm : memory = some handle) => by subst hm; rfl)
    inquiry rfl

end Consult

end ReplicaRouting
