import Mathlib.Control.Monad.Basic

namespace OsAccount

/-- A program over an interface: it returns a value, or it makes an access and
goes on with the answer. -/
inductive Program (Access : Type) (Answer : Access → Type) (α : Type)
  | ret (a : α)
  | access (e : Access) (next : Answer e → Program Access Answer α)

namespace Program

variable {Access : Type} {Answer : Access → Type} {σ τ α β : Type}

def bind : Program Access Answer α → (α → Program Access Answer β) → Program Access Answer β
  | .ret a, f => f a
  | .access e next, f => .access e fun x => (next x).bind f

instance : Monad (Program Access Answer) where
  pure := .ret
  bind := .bind

def call (e : Access) : Program Access Answer (Answer e) := .access e .ret

def exec (handle : (e : Access) → σ → Answer e × σ) : Program Access Answer α → σ → α × σ
  | .ret a, s => (a, s)
  | .access e next, s => exec handle (next (handle e s).1) (handle e s).2

variable (handle : (e : Access) → σ → Answer e × σ)

@[simp]
theorem exec_pure (a : α) (s : σ) : exec handle (pure a) s = (a, s) := rfl

@[simp]
theorem exec_call (e : Access) (s : σ) : exec handle (call e) s = handle e s := rfl

@[simp]
theorem exec_bind (p : Program Access Answer α) (f : α → Program Access Answer β) (s : σ) :
    exec handle (p >>= f) s = exec handle (f (exec handle p s).1) (exec handle p s).2 := by
  induction p generalizing s with
  | ret a => rfl
  | access e next ih => exact ih (handle e s).1 (handle e s).2

variable {handle} in
theorem exec_bind_congr {p : Program Access Answer α} {f g : α → Program Access Answer β}
    (h : ∀ a s, exec handle (f a) s = exec handle (g a) s) (s : σ) :
    exec handle (p >>= f) s = exec handle (p >>= g) s := by
  rw [exec_bind, exec_bind, h]

variable {handle} in
theorem exec_invariant {Inv : σ → Prop} (hhandle : ∀ e s, Inv s → Inv (handle e s).2) (p : Program Access Answer α)
    {s : σ} (hs : Inv s) : Inv (exec handle p s).2 := by
  induction p generalizing s with
  | ret a => exact hs
  | access e next ih => exact ih _ (hhandle e s hs)

theorem exec_view (view : τ → σ) {large : (e : Access) → τ → Answer e × τ}
    (hlarge : ∀ e t, (large e t).1 = (handle e (view t)).1 ∧ view (large e t).2 = (handle e (view t)).2)
    (p : Program Access Answer α) (t : τ) :
    (exec large p t).1 = (exec handle p (view t)).1 ∧ view (exec large p t).2 = (exec handle p (view t)).2 := by
  induction p generalizing t with
  | ret a => exact ⟨rfl, rfl⟩
  | access e next ih =>
      obtain ⟨hanswer, hview⟩ := hlarge e t
      unfold exec
      rw [← hanswer, ← hview]
      exact ih (large e t).1 (large e t).2

section ensures

variable {allowed : Access → Prop} {possible : (e : Access) → Answer e → Prop}

/-- As long as the answers are possible, every access is allowed, and the result
has a property. -/
def Ensures (allowed : Access → Prop) (possible : (e : Access) → Answer e → Prop) (post : α → Prop) :
    Program Access Answer α → Prop
  | .ret a => post a
  | .access e next => allowed e ∧ ∀ x, possible e x → (next x).Ensures allowed possible post

variable {post : α → Prop}

theorem ensures_pure {a : α} (h : post a) :
    (pure a : Program Access Answer α).Ensures allowed possible post := h

theorem ensures_call {e : Access} (h : allowed e) :
    (call e : Program Access Answer (Answer e)).Ensures allowed possible (possible e) := ⟨h, fun _ hx => hx⟩

variable {p : Program Access Answer α}

theorem ensures_bind {mid : α → Prop} {post : β → Prop}
    {f : α → Program Access Answer β} (hp : p.Ensures allowed possible mid)
    (hf : ∀ a, mid a → (f a).Ensures allowed possible post) : (p >>= f).Ensures allowed possible post := by
  induction p with
  | ret a => exact hf a hp
  | access e next ih => exact ⟨hp.1, fun x hx => ih x (hp.2 x hx)⟩

theorem Ensures.mono {allowed' : Access → Prop} (hallowed : ∀ e, allowed e → allowed' e)
    (hp : p.Ensures allowed possible post) : p.Ensures allowed' possible post := by
  induction p with
  | ret a => exact hp
  | access e next ih => exact ⟨hallowed e hp.1, fun x hx => ih x (hp.2 x hx)⟩

/-- The invariant rule: if the allowed accesses keep an invariant and their answers are
possible, the run of a program keeps it, and its result has the property. -/
theorem exec_ensures {handle : (e : Access) → σ → Answer e × σ} {Inv : σ → Prop}
    (hhandle : ∀ e s, allowed e → Inv s → possible e (handle e s).1 ∧ Inv (handle e s).2)
    (hp : p.Ensures allowed possible post) {s : σ} (hs : Inv s) :
    post (exec handle p s).1 ∧ Inv (exec handle p s).2 := by
  induction p generalizing s with
  | ret a => exact ⟨hp, hs⟩
  | access e next ih =>
      obtain ⟨hanswer, hnext⟩ := hhandle e s hp.1 hs
      exact ih _ (hp.2 _ hanswer) hnext

theorem exec_congr {handle handle' : (e : Access) → σ → Answer e × σ} {Inv : σ → Prop}
    (hsame : ∀ e s, allowed e → handle' e s = handle e s)
    (hhandle : ∀ e s, allowed e → Inv s → possible e (handle e s).1 ∧ Inv (handle e s).2)
    (hp : p.Ensures allowed possible post) {s : σ} (hs : Inv s) :
    exec handle' p s = exec handle p s := by
  induction p generalizing s with
  | ret a => rfl
  | access e next ih =>
      obtain ⟨hanswer, hnext⟩ := hhandle e s hp.1 hs
      rw [exec, exec, hsame e s hp.1]
      exact ih _ (hp.2 _ hanswer) hnext

end ensures

end Program

end OsAccount
