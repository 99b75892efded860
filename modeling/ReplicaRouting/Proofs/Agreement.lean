import ReplicaRouting.Proofs.Consult
import ReplicaRouting.Session.Act

/-!
Two systems side by side. Actions agree if, from worlds that correspond, they yield the same and
end in worlds that correspond. Whatever is made of agreeing actions agrees as well, so that a
system may be watched, or its invariants found, by looking at what it is made of.
-/

namespace ReplicaRouting

/-- Which worlds of two systems correspond, and which worlds of the second one bear the blame for
a failure. -/
structure Bond (σ τ : Type) where
  meets : σ → τ → Prop
  blamed : τ → Prop := fun _ => True

namespace Bond

variable {σ τ α : Type}

/-- The bond of two scenes: the same session among corresponding worlds. -/
def onScenes (bond : Bond σ τ) : Bond (Scene σ) (Scene τ) where
  meets left right := left.session = right.session ∧ bond.meets left.world right.world
  blamed right := bond.blamed right.world

/-- The bond of a world with itself as long as `P` holds of it. -/
def keeping (P : σ → Prop) : Bond σ σ where
  meets s t := s = t ∧ P s

/-- Both changes keep worlds corresponding, and the second takes no blame away. -/
def Keeps (bond : Bond σ τ) (f : σ → σ) (g : τ → τ) : Prop :=
  ∀ s t, bond.meets s t → bond.meets (f s) (g t) ∧ (bond.blamed t → bond.blamed (g t))

/-- Both questions have the same answer and keep worlds corresponding. -/
def Answers (bond : Bond σ τ) (left : StateM σ α) (right : StateM τ α) : Prop :=
  ∀ s t, bond.meets s t → (left s).1 = (right t).1 ∧ bond.meets (left s).2 (right t).2

end Bond

namespace Fallible

variable {σ τ α β : Type} {bond : Bond σ τ}

/-- How two actions from corresponding worlds have ended, the second having begun in `t`. -/
structure Meets (bond : Bond σ τ) (t : τ) (left : Except Fault α × σ)
    (right : Except Fault α × τ) : Prop where
  result : left.1 = right.1
  world : bond.meets left.2 right.2
  blame : bond.blamed t → bond.blamed right.2
  fault : ∀ fault, right.1 = .error fault → bond.blamed right.2

def Agrees (bond : Bond σ τ) (left : Fallible σ α) (right : Fallible τ α) : Prop :=
  ∀ s t, bond.meets s t → Meets bond t (left s) (right t)

theorem agrees_pure (value : α) :
    Agrees bond (pure value : Fallible σ α) (pure value : Fallible τ α) :=
  fun _ _ hm => ⟨rfl, hm, id, by simp⟩

theorem agrees_modify {f : σ → σ} {g : τ → τ} (h : bond.Keeps f g) :
    Agrees bond (modify f : Fallible σ PUnit) (modify g : Fallible τ PUnit) := by
  intro s t hm
  obtain ⟨hw, hb⟩ := h s t hm
  exact ⟨rfl, hw, hb, by simp⟩

theorem Meets.bind {left : Fallible σ α} {right : Fallible τ α} {next : α → Fallible σ β}
    {next' : α → Fallible τ β} {s : σ} {t : τ} (h : Meets bond t (left s) (right t))
    (hn : ∀ value s' t', bond.meets s' t' → (bond.blamed t → bond.blamed t') →
      Meets bond t' (next value s') (next' value t')) :
    Meets bond t ((left >>= next) s) ((right >>= next') t) := by
  obtain ⟨hr, hw, hb, hf⟩ := h
  rw [bind_apply, bind_apply]
  rcases hs : left s with ⟨fault | value, s'⟩ <;> rcases ht : right t with ⟨fault' | value', t'⟩ <;>
    rw [hs, ht] at hr hw <;> rw [ht] at hb hf <;> cases hr
  · exact ⟨rfl, hw, hb, fun _ _ => hf _ rfl⟩
  · -- the blame that was there before the first action is still there after the second
    obtain ⟨hr, hw, hb', hf⟩ := hn value s' t' hw hb
    exact ⟨hr, hw, fun h => hb' (hb h), hf⟩

theorem Agrees.bind {left : Fallible σ α} {right : Fallible τ α} {next : α → Fallible σ β}
    {next' : α → Fallible τ β} (h : Agrees bond left right)
    (hn : ∀ value, Agrees bond (next value) (next' value)) :
    Agrees bond (left >>= next) (right >>= next') :=
  fun s t hm => (h s t hm).bind fun value s' t' hw _ => hn value s' t' hw

theorem Agrees.map {left : Fallible σ α} {right : Fallible τ α} (h : Agrees bond left right)
    (f : α → β) : Agrees bond (f <$> left) (f <$> right) := by
  rw [map_eq_pure_bind, map_eq_pure_bind]
  exact h.bind fun value => agrees_pure (f value)

/-- Where everything is blamed, failing takes no excuse. -/
theorem agrees_throw (lenient : ∀ t, bond.blamed t) (fault : Fault) :
    Agrees bond (throw fault : Fallible σ α) (throw fault : Fallible τ α) :=
  fun _ _ hm => ⟨rfl, hm, fun _ => lenient _, fun _ _ => lenient _⟩

end Fallible

namespace Act

open Fallible

variable {σ τ α β : Type} {bond : Bond σ τ}

theorem agrees_session : Agrees bond.onScenes (session : Act σ Session) session :=
  fun _ _ hm => ⟨congrArg _ hm.1, hm, id, by rintro _ ⟨⟩⟩

theorem agrees_update (f : Session → Session) :
    Agrees bond.onScenes (update f : Act σ Unit) (update f) :=
  fun _ _ hm => ⟨rfl, ⟨congrArg f hm.1, hm.2⟩, id, by simp⟩

theorem agrees_affect {f : σ → σ} {g : τ → τ} (h : bond.Keeps f g) :
    Agrees bond.onScenes (affect f) (affect g) := by
  intro s t hm
  obtain ⟨hw, hb⟩ := h s.world t.world hm.2
  exact ⟨rfl, ⟨hm.1, hw⟩, hb, by simp⟩

theorem agrees_request {left : Fallible σ α} {right : Fallible τ α} (h : Agrees bond left right) :
    Agrees bond.onScenes (request left) (request right) := by
  intro s t hm
  obtain ⟨hr, hw, hb, hf⟩ := h s.world t.world hm.2
  exact ⟨hr, ⟨hm.1, hw⟩, hb, hf⟩

theorem agrees_outcomeOf {left : Act σ α} {right : Act τ α}
    (h : Agrees bond.onScenes left right) :
    Agrees bond.onScenes (outcomeOf left) (outcomeOf right) := by
  intro s t hm
  obtain ⟨hr, hw, hb, -⟩ := h s t hm
  exact ⟨congrArg Except.ok hr, hw, hb, by rintro _ ⟨⟩⟩

theorem agrees_consult (lenient : ∀ t, bond.blamed t) {left : StateM σ α} {right : StateM τ α}
    (h : bond.Answers left right) : Agrees bond.onScenes (consult left) (consult right) := by
  intro s t hm
  obtain ⟨hr, hw⟩ := h s.world t.world hm.2
  exact ⟨congrArg Except.ok hr, ⟨hm.1, hw⟩, fun _ => lenient _, by rintro _ ⟨⟩⟩

theorem agrees_ofOutcome (lenient : ∀ t, bond.blamed t) (result : Except Fault α) :
    Agrees bond.onScenes (ofOutcome result : Act σ α) (ofOutcome result) :=
  fun _ _ hm => ⟨rfl, hm, id, fun _ _ => lenient _⟩

end Act

namespace Inquiry

variable {σ τ q r s α β μ : Type} {bond : Bond σ τ}

/-- Two consultations that put the same questions and come to the same answer, as long as the
replies leave the worlds corresponding. -/
inductive Agrees (bond : Bond σ τ) : Inquiry σ q r α → Inquiry τ q r α → Prop where
  | answered (answer : α) {s : σ} {t : τ} (meets : bond.meets s t) :
    Agrees bond (.answered answer s) (.answered answer t)
  | asking (question : q) {s : σ} {t : τ} {resume : r → σ → Inquiry σ q r α}
      {resume' : r → τ → Inquiry τ q r α} (meets : bond.meets s t)
      (later : ∀ reply s t, bond.meets s t → Agrees bond (resume reply s) (resume' reply t)) :
    Agrees bond (.asking question s resume) (.asking question t resume')

theorem Agrees.bind {left : Inquiry σ q r α} {right : Inquiry τ q r α}
    {next : α → Consult σ q r β} {next' : α → Consult τ q r β} (h : Agrees bond left right)
    (hn : ∀ answer s t, bond.meets s t → Agrees bond (next answer s) (next' answer t)) :
    Agrees bond (left.bind next) (right.bind next') := by
  induction h with
  | answered answer meets => exact hn answer _ _ meets
  | asking question meets later ih => exact .asking question meets ih

theorem Agrees.mapQuestion {left : Inquiry σ q r α} {right : Inquiry τ q r α}
    (h : Agrees bond left right) (f : q → s) :
    Agrees bond (left.mapQuestion f) (right.mapQuestion f) := by
  induction h with
  | answered answer meets => exact .answered answer meets
  | asking question meets later ih => exact .asking (f question) meets ih

theorem Agrees.run {reply : q → μ → σ → r × μ × σ} {reply' : q → μ → τ → r × μ × τ}
    (hp : ∀ question memory s t, bond.meets s t →
      (reply question memory s).1 = (reply' question memory t).1 ∧
        (reply question memory s).2.1 = (reply' question memory t).2.1 ∧
        bond.meets (reply question memory s).2.2 (reply' question memory t).2.2)
    {left : Inquiry σ q r α} {right : Inquiry τ q r α} (h : Agrees bond left right) (memory : μ) :
    (left.run reply memory).1 = (right.run reply' memory).1 ∧
      (left.run reply memory).2.1 = (right.run reply' memory).2.1 ∧
      bond.meets (left.run reply memory).2.2 (right.run reply' memory).2.2 := by
  induction h generalizing memory with
  | answered answer meets => exact ⟨rfl, rfl, meets⟩
  | asking question meets later ih =>
    -- the replies are the same and so are the memories, so that both go on alike
    obtain ⟨hr, hk, hw⟩ := hp question memory _ _ meets
    simp only [Inquiry.run]
    rw [hr, hk]
    exact ih _ _ _ hw _

end Inquiry

namespace Consult

variable {σ τ q r s α β : Type} {bond : Bond σ τ}

def Agrees (bond : Bond σ τ) (left : Consult σ q r α) (right : Consult τ q r α) : Prop :=
  ∀ s t, bond.meets s t → Inquiry.Agrees bond (left s) (right t)

theorem agrees_pure (answer : α) :
    Agrees bond (pure answer : Consult σ q r α) (pure answer : Consult τ q r α) :=
  fun _ _ hm => .answered answer hm

theorem agrees_ask (question : q) :
    Agrees bond (ask question : Consult σ q r r) (ask question : Consult τ q r r) :=
  fun _ _ hm => .asking question hm fun reply _ _ hm => .answered reply hm

theorem agrees_act {left : StateM σ α} {right : StateM τ α} (h : bond.Answers left right) :
    Agrees bond (act left : Consult σ q r α) (act right : Consult τ q r α) := by
  intro s t hm
  obtain ⟨ha, hw⟩ := h s t hm
  rcases hs : left s with ⟨answer, s'⟩
  rcases ht : right t with ⟨answer', t'⟩
  rw [hs, ht] at ha hw
  cases ha
  simp only [act, hs, ht]
  exact .answered answer hw

theorem agrees_look {view : σ → α} {view' : τ → α} (h : ∀ s t, bond.meets s t → view s = view' t) :
    Agrees bond (look view : Consult σ q r α) (look view' : Consult τ q r α) := by
  intro s t hm
  unfold look
  rw [h s t hm]
  exact .answered _ hm

theorem agrees_change {f : σ → σ} {g : τ → τ} (h : bond.Keeps f g) :
    Agrees bond (change f : Consult σ q r Unit) (change g : Consult τ q r Unit) :=
  fun s t hm => .answered () (h s t hm).1

theorem Agrees.bind {left : Consult σ q r α} {right : Consult τ q r α}
    {next : α → Consult σ q r β} {next' : α → Consult τ q r β} (h : Agrees bond left right)
    (hn : ∀ answer, Agrees bond (next answer) (next' answer)) :
    Agrees bond (left >>= next) (right >>= next') :=
  fun s t hm => (h s t hm).bind hn

theorem Agrees.mapQuestion {left : Consult σ q r α} {right : Consult τ q r α}
    (h : Agrees bond left right) (f : q → s) :
    Agrees bond (left.mapQuestion f) (right.mapQuestion f) :=
  fun s t hm => (h s t hm).mapQuestion f

/-- Suppliers that agree lead consultations that agree to the same answer and the same handle. -/
theorem Agrees.runWithHandle {left : Consult σ q Supply α} {right : Consult τ q Supply α}
    (h : Agrees bond left right) {supply : Fallible σ Handle} {supply' : Fallible τ Handle}
    (hp : Fallible.Agrees bond supply supply') (held : Option Handle) :
    bond.Answers (left.runWithHandle supply held) (right.runWithHandle supply' held) := by
  intro s t hm
  have hr : ∀ (question : q) (memory : Option Handle) s t, bond.meets s t →
      (replyWithHandle supply question memory s).1 =
          (replyWithHandle supply' question memory t).1 ∧
        (replyWithHandle supply question memory s).2.1 =
          (replyWithHandle supply' question memory t).2.1 ∧
        bond.meets (replyWithHandle supply question memory s).2.2
          (replyWithHandle supply' question memory t).2.2 := by
    intro question memory s t hm
    cases memory with
    | some kept => exact ⟨rfl, rfl, hm⟩
    | none =>
      -- only the first question gets as far as the supplier
      obtain ⟨hr, hw, -, -⟩ := hp s t hm
      unfold replyWithHandle
      rcases hs : supply s with ⟨_ | _, s'⟩ <;> rcases ht : supply' t with ⟨_ | _, t'⟩ <;>
        rw [hs, ht] at hr hw <;> cases hr <;> exact ⟨rfl, rfl, hw⟩
  obtain ⟨ha, hh, hw⟩ := (h s t hm).run hr held
  rw [runWithHandle_eq, runWithHandle_eq]
  exact ⟨Prod.ext ha hh, hw⟩

end Consult

end ReplicaRouting
