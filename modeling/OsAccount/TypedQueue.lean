import Mathlib.Data.List.Basic

namespace OsAccount.TypedQueue

def times {m : Type → Type} [Monad m] {β : Type} : Nat → (β → m β) → β → m β
  | 0, _, b => pure b
  | n + 1, step, b => do
      let b ← step b
      times n step b

variable {Q ι α β : Type} (contents : Q → List ι)

def Appends (m : StateT Q Option Unit) (items : List ι) : Prop :=
  ∀ q q', m.run q = some ((), q') → contents q' = contents q ++ items

/-- A reader that finds the items at the head of the queue takes them and returns the value. -/
def Takes (m : StateT Q Option α) (items : List ι) (value : α) : Prop :=
  ∀ q rest, contents q = items ++ rest → ∃ q', m.run q = some (value, q') ∧ contents q' = rest

def Succeeds (m : StateT Q Option α) : Prop := ∀ q, (m.run q).isSome

variable {contents}

namespace Appends

variable {m m' : StateT Q Option Unit} {items items' : List ι}

theorem pure : Appends contents (Pure.pure ()) [] := by
  intro q q' h
  cases h
  exact (List.append_nil _).symm

theorem seq (h : Appends contents m items) (h' : Appends contents m' items') :
    Appends contents (m >>= fun _ => m') (items ++ items') := by
  intro q q' hrun
  rw [StateT.run_bind] at hrun
  obtain ⟨⟨⟨⟩, q₁⟩, hm, hm'⟩ := Option.bind_eq_some_iff.mp hrun
  rw [h' q₁ q' hm', h q q₁ hm, List.append_assoc]

theorem forM {f : α → StateT Q Option Unit} {g : α → List ι} (h : ∀ x, Appends contents (f x) (g x)) (l : List α) :
    Appends contents (l.forM f) (l.flatMap g) := by
  induction l with
  | nil => exact pure
  | cons x l ih =>
      rw [List.flatMap_cons]
      exact (h x).seq ih

end Appends

namespace Takes

variable {m : StateT Q Option α} {f : α → StateT Q Option β} {items items' : List ι} {value : α} {value' : β}

theorem pure (value : α) : Takes contents (Pure.pure value) [] value :=
  fun q _ hq => ⟨q, rfl, hq⟩

theorem bind (h : Takes contents m items value) (h' : Takes contents (f value) items' value') :
    Takes contents (m >>= f) (items ++ items') value' := by
  intro q rest hq
  rw [List.append_assoc] at hq
  obtain ⟨q₁, hm, hq₁⟩ := h q (items' ++ rest) hq
  obtain ⟨q₂, hf, hq₂⟩ := h' q₁ rest hq₁
  refine ⟨q₂, ?_, hq₂⟩
  rw [StateT.run_bind, hm]
  exact hf

theorem times {step : β → StateT Q Option β} {g : α → List ι} {next : β → α → β} {l : List α}
    (h : ∀ x ∈ l, ∀ b, Takes contents (step b) (g x) (next b x)) (b : β) :
    Takes contents (TypedQueue.times l.length step b) (l.flatMap g) (l.foldl next b) := by
  induction l generalizing b with
  | nil => exact pure b
  | cons x l ih =>
      rw [List.flatMap_cons]
      exact (h x List.mem_cons_self b).bind (ih (fun y hy => h y (List.mem_cons_of_mem x hy)) (next b x))

end Takes

namespace Succeeds

variable {m : StateT Q Option α} {f : α → StateT Q Option β}

theorem pure (value : α) : Succeeds (Pure.pure value : StateT Q Option α) := fun _ => rfl

theorem bind (h : Succeeds m) (h' : ∀ a, Succeeds (f a)) : Succeeds (m >>= f) := by
  intro q
  rw [StateT.run_bind]
  cases hm : m.run q with
  | none =>
      have hq := h q
      rw [hm] at hq
      cases hq
  | some r => exact h' r.1 r.2

theorem forM {f : α → StateT Q Option Unit} (h : ∀ x, Succeeds (f x)) (l : List α) : Succeeds (l.forM f) := by
  induction l with
  | nil => exact pure ()
  | cons x l ih => exact (h x).bind fun _ => ih

end Succeeds

end OsAccount.TypedQueue
