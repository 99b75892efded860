/-!
Consultations: computations over a world that may pause to put a question to whoever runs them.
A judge of consistency consults in this way for a replica handle, so that one that never asks
never has a replica opened for it.
-/

namespace ReplicaRouting

/-- A consultation under way over the world `σ`: it has its answer, or it waits for the reply to a
question. -/
inductive Inquiry (σ q r α : Type) where
  | answered (answer : α) (world : σ)
  | asking (question : q) (world : σ) (resume : r → σ → Inquiry σ q r α)

/-- A consultation that has not begun. -/
def Consult (σ q r α : Type) : Type := σ → Inquiry σ q r α

namespace Inquiry

variable {σ q r s α β : Type}

/-- Go on with another consultation once the answer is there. -/
def bind : Inquiry σ q r α → (α → Consult σ q r β) → Inquiry σ q r β
  | answered answer world, next => next answer world
  | asking question world resume, next =>
    asking question world fun reply world => (resume reply world).bind next

/-- Put the questions in another form. -/
def mapQuestion (f : q → s) : Inquiry σ q r α → Inquiry σ s r α
  | answered answer world => answered answer world
  | asking question world resume =>
    asking (f question) world fun reply world => (resume reply world).mapQuestion f

/-- Run to the end, replying to each question in turn. The one who replies may keep a memory. -/
def run {μ : Type} (reply : q → μ → σ → r × μ × σ) : Inquiry σ q r α → μ → α × μ × σ
  | answered answer world, memory => (answer, memory, world)
  | asking question world resume, memory =>
    let (given, memory, world) := reply question memory world
    (resume given world).run reply memory

end Inquiry

namespace Consult

variable {σ q r s α β : Type}

instance : Monad (Consult σ q r) where
  pure answer := fun world => .answered answer world
  bind consult next := fun world => (consult world).bind next

/-- Put a question. -/
def ask (question : q) : Consult σ q r r :=
  fun world => .asking question world .answered

/-- Do something to the world. -/
def act (action : StateM σ α) : Consult σ q r α :=
  fun world => let (answer, world) := action world; .answered answer world

/-- Look at the world. -/
def look (view : σ → α) : Consult σ q r α :=
  fun world => .answered (view world) world

/-- Change the world. -/
def change (f : σ → σ) : Consult σ q r Unit :=
  fun world => .answered () (f world)

/-- Put the questions in another form. -/
def mapQuestion (f : q → s) (consult : Consult σ q r α) : Consult σ s r α :=
  fun world => (consult world).mapQuestion f

/-- Run to the end, replying to each question in turn. -/
def run {μ : Type} (consult : Consult σ q r α) (reply : q → μ → σ → r × μ × σ)
    (memory : μ) (world : σ) : α × μ × σ :=
  (consult world).run reply memory

end Consult

end ReplicaRouting
